import ClientGen.Document.Access
import ClientGen.Document.Json
import ClientGen.Outcome

/-! What a schema asks for, one step deep. The entries of a schema are asked in a fixed order: a schema
within the schema comes first, then a reference, an enumeration and the type that is named; every other
schema is an object, put together from the members of a composition and from properties of its own. -/

set_option autoImplicit false

namespace ClientGen

inductive Primitive where
  | string
  | number
  | boolean
  | any
  deriving DecidableEq, Repr

def Primitive.named? : Value → Option Primitive
  | .text "string" => some .string
  | .text "number" => some .number
  | .text "integer" => some .number
  | .text "boolean" => some .boolean
  | _ => none

/-- The type that a schema asks for, with the schemas of its parts. -/
inductive SchemaType where
  | wrapped (schema : Value)
  | ref (description : Value) (target : String)
  | enum (description : Value) (literals : List String)
  | primitive (description : Value) (which : Primitive)
  | array (description element : Value)
  | object (description : Value) (entries : List (Key × Value))

namespace SchemaType

def refName (path : String) : String :=
  String.ofList (path.toList.reverse.takeWhile (· ≠ '/')).reverse

def notASchema (v : Value) : Failure :=
  match v.has "schema" with
  | .ok false => .noOperation
  | _ => .wrongKind

/-- Whether a schema with a title counts its items, and so stands for any value. -/
def countsItems (schema : List (Key × Value)) : Except Failure Bool :=
  match (Key.text "title").lookup schema, (Key.text "minItems").lookup schema with
  | some _, some least => least.isNonnegative
  | _, _ => .ok false

/-- The schema of the elements of an array; without one, elements are objects of no properties. -/
def elementOf (entries : List (Key × Value)) : Value :=
  (((Key.text "items").lookup entries).getD .null).orElse (.object [])

def ofEntries (entries : List (Key × Value)) : Except Failure SchemaType :=
  let entry (name : String) := (Key.text name).lookup entries
  let description := (entry "description").getD .null
  -- A reference that is not a text is passed over.
  match entry "schema", (entry "$ref").bind Value.asText, entry "enum" with
  | some schema, _, _ => .ok (.wrapped schema)
  | none, some path, _ => .ok (.ref description (refName path))
  | none, none, some values => do return .enum description ((← values.elements).map Value.json)
  | none, none, none =>
    let type := (entry "type").getD .null
    match Primitive.named? type with
    | some which => .ok (.primitive description which)
    | none =>
      if type.asText = some "array" then .ok (.array description (elementOf entries))
      else do
        if ← countsItems entries then return .primitive description .any
        return .object description entries

def of : Value → Except Failure SchemaType
  | .object entries => ofEntries entries
  | other => .error (notASchema other)

theorem of_ofEntries {schema : Value} {type : SchemaType} (asked : of schema = .ok type) :
    ∃ entries, schema = .object entries ∧ ofEntries entries = .ok type := by
  cases schema with
  | object entries => exact ⟨entries, rfl, asked⟩
  | _ => simp [of] at asked

theorem ofEntries_cases {entries : List (Key × Value)} {type : SchemaType}
    (asked : ofEntries entries = .ok type) :
    (∃ inner, type = .wrapped inner ∧ (Key.text "schema").lookup entries = some inner) ∨
    (∃ description target, type = .ref description target) ∨
    (∃ description values, type = .enum description (List.map Value.json values)) ∨
    (∃ description which, type = .primitive description which) ∨
    (∃ description named, type = .array description (elementOf entries) ∧
      (Key.text "type").lookup entries = some named) ∨
    ∃ description, type = .object description entries := by
  unfold ofEntries at asked
  dsimp only at asked
  split at asked
  next found =>
    cases asked
    exact .inl ⟨_, rfl, found⟩
  next =>
    cases asked
    exact .inr (.inl ⟨_, _, rfl⟩)
  next =>
    obtain ⟨_, _, same⟩ := Outcome.bind_eq_ok.1 asked
    cases same
    exact .inr (.inr (.inl ⟨_, _, rfl⟩))
  next =>
    split at asked
    next =>
      cases asked
      exact .inr (.inr (.inr (.inl ⟨_, _, rfl⟩)))
    next =>
      split at asked
      next isArray =>
        cases asked
        cases named : (Key.text "type").lookup entries with
        | none => simp [named, Value.asText] at isArray
        | some which => exact .inr (.inr (.inr (.inr (.inl ⟨_, which, rfl, rfl⟩))))
      next =>
        obtain ⟨counts, _, same⟩ := Outcome.bind_eq_ok.1 asked
        cases counts <;> cases same
        · exact .inr (.inr (.inr (.inr (.inr ⟨_, rfl⟩))))
        · exact .inr (.inr (.inr (.inl ⟨_, _, rfl⟩)))

theorem of_object {schema description : Value} {entries : List (Key × Value)}
    (asked : of schema = .ok (.object description entries)) : schema = .object entries := by
  obtain ⟨own, rfl, read⟩ := of_ofEntries asked
  rcases ofEntries_cases read with ⟨_, same, _⟩ | ⟨_, _, same⟩ | ⟨_, _, same⟩ | ⟨_, _, same⟩ |
    ⟨_, _, same, _⟩ | ⟨_, same⟩ <;> cases same
  rfl

theorem of_wrapped {schema inner : Value} (asked : of schema = .ok (.wrapped inner)) :
    ∃ entries, schema = .object entries ∧ (Key.text "schema").lookup entries = some inner := by
  obtain ⟨entries, rfl, read⟩ := of_ofEntries asked
  rcases ofEntries_cases read with ⟨_, same, found⟩ | ⟨_, _, same⟩ | ⟨_, _, same⟩ | ⟨_, _, same⟩ |
    ⟨_, _, same, _⟩ | ⟨_, same⟩ <;> cases same
  exact ⟨entries, rfl, found⟩

theorem of_array {schema description element : Value} (asked : of schema = .ok (.array description element)) :
    ∃ entries, schema = .object entries ∧ element = elementOf entries := by
  obtain ⟨entries, rfl, read⟩ := of_ofEntries asked
  rcases ofEntries_cases read with ⟨_, same, _⟩ | ⟨_, _, same⟩ | ⟨_, _, same⟩ | ⟨_, _, same⟩ |
    ⟨_, _, same, _⟩ | ⟨_, same⟩ <;> cases same
  exact ⟨entries, rfl, rfl⟩

theorem of_enum {schema description : Value} {literals : List String}
    (asked : of schema = .ok (.enum description literals)) :
    ∃ values : List Value, literals = values.map Value.json := by
  obtain ⟨_, _, read⟩ := of_ofEntries asked
  rcases ofEntries_cases read with ⟨_, same, _⟩ | ⟨_, _, same⟩ | ⟨_, values, same⟩ | ⟨_, _, same⟩ |
    ⟨_, _, same, _⟩ | ⟨_, same⟩ <;> cases same
  exact ⟨values, rfl⟩

theorem elementOf_size {entries : List (Key × Value)} (someEntry : 0 < Value.entrySizes entries) :
    (elementOf entries).size ≤ Value.entrySizes entries := by
  have nothing : (Value.object []).size = 1 := rfl
  unfold elementOf Value.orElse
  cases items : (Key.text "items").lookup entries with
  | none => simpa [Value.isTrue, nothing] using Nat.succ_le_of_lt someEntry
  | some element =>
    have := Value.size_le_of_lookup items
    simp only [Option.getD_some]
    split <;> omega

/-- The size of what is left to walk in the parts of a type. -/
def partSize : SchemaType → Nat
  | .wrapped schema => schema.size
  | .array _ element => element.size
  | .object _ entries => Value.entrySizes entries
  | _ => 0

theorem ofEntries_partSize {entries : List (Key × Value)} {type : SchemaType}
    (asked : ofEntries entries = .ok type) : type.partSize ≤ Value.entrySizes entries := by
  rcases ofEntries_cases asked with ⟨_, rfl, found⟩ | ⟨_, _, rfl⟩ | ⟨_, _, rfl⟩ | ⟨_, _, rfl⟩ |
    ⟨_, type, rfl, named⟩ | ⟨_, rfl⟩
  · exact Value.size_le_of_lookup found
  · exact Nat.zero_le _
  · exact Nat.zero_le _
  · exact Nat.zero_le _
  · have := Value.size_le_of_lookup named
    have := type.size_pos
    exact elementOf_size (by omega)
  · exact Nat.le_refl _

/-- What is left to walk gets smaller at each step into a schema. -/
theorem of_partSize {schema : Value} {type : SchemaType} (asked : of schema = .ok type) :
    type.partSize < schema.size := by
  obtain ⟨entries, rfl, asked⟩ := of_ofEntries asked
  exact Nat.lt_succ_of_le (ofEntries_partSize asked)

end SchemaType

end ClientGen
