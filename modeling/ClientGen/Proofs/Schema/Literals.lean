import ClientGen.Proofs.Schema.Activation
import ClientGen.Proofs.Text.Bare
import ClientGen.Proofs.Text.Escaped

/-! Names and texts of a document as they stand in types. A property name is written as it is or as a literal, a text
of an enumeration always as a literal, and each of them can be read back, so that different ones never look alike. -/

set_option autoImplicit false

namespace ClientGen

structure IsLiteralFor (literal text : String) : Prop where
  narrow : Text.Narrow literal.toList
  reads : Document.Json.read literal = .ok (.text text)

theorem IsLiteralFor.unique {literal text other : String} (first : IsLiteralFor literal text)
    (second : IsLiteralFor literal other) : text = other := by
  cases first.reads.symm.trans second.reads
  rfl

theorem isLiteralFor_escape (text : String) : IsLiteralFor (Text.escape text) text :=
  ⟨Text.narrow_escape text, Text.read_escape text⟩

/-! ## Property names -/

/-- The name that a key stands for. One that begins with a quote is a literal, and any other one is a name itself. -/
def nameOfKey? (key : String) : Option String :=
  match key.toList with
  | '"' :: _ => (Document.Json.read key).toOption.bind Value.asText
  | _ => some key

structure IsBareKey (name : String) : Prop where
  identifier : Text.isIdentifier name.toList = true
  quoteless : '"' ∉ name.toList
  characters : ∀ c ∈ name.toList, Text.isIdentifierStart c = true ∨ Text.isIdentifierPart c = true

theorem isBareKey_of_isIdentifier {name : String} (identifier : Text.isIdentifier name.toList = true) :
    IsBareKey name where
  identifier := identifier
  quoteless among := Text.Bare.of_identifier identifier _ among (by decide)
  characters := by
    cases whole : name.toList with
    | nil => exact nofun
    | cons first rest =>
      rw [whole] at identifier
      obtain ⟨starts, continues⟩ := Bool.and_eq_true_iff.mp identifier
      exact List.forall_mem_cons.mpr ⟨.inl starts, fun c among => .inr (List.all_eq_true.mp continues c among)⟩

theorem nameOfKey?_of_quoteless {name : String} (quoteless : '"' ∉ name.toList) : nameOfKey? name = some name := by
  unfold nameOfKey?
  split
  next whole => exact absurd (whole ▸ List.mem_cons_self) quoteless
  next => rfl

theorem nameOfKey?_escape (name : String) : nameOfKey? (Text.escape name) = some name := by
  have quoted : (Text.escape name).toList = '"' :: (name.toList.flatMap Text.escapeChar ++ ['"']) := by
    rw [Text.escape, String.toList_ofList]
    rfl
  unfold nameOfKey?
  rw [quoted]
  simp only [Text.read_escape]
  rfl

namespace TypeExpr

theorem propertyKey_cases (name : String) : propertyKey name = name ∧ IsBareKey name ∨
    Text.isIdentifier name.toList = false ∧ IsLiteralFor (propertyKey name) name := by
  unfold propertyKey
  split
  next identifier => exact .inl ⟨rfl, isBareKey_of_isIdentifier identifier⟩
  next other => exact .inr ⟨by simpa using other, isLiteralFor_escape name⟩

theorem nameOfKey?_propertyKey (name : String) : nameOfKey? (propertyKey name) = some name := by
  unfold propertyKey
  split
  next identifier => exact nameOfKey?_of_quoteless (isBareKey_of_isIdentifier identifier).quoteless
  next => exact nameOfKey?_escape name

theorem propertyKey_injective : Function.Injective propertyKey := by
  intro name other same
  have read := nameOfKey?_propertyKey name
  rw [same, nameOfKey?_propertyKey] at read
  exact (Option.some.inj read).symm

end TypeExpr

/-! ## Enumerations -/

/-- The schema has these values for its enumeration, and nothing that goes before an enumeration. -/
structure Enumerates (schema : List (Key × Value)) (values : List Value) : Prop where
  unwrapped : (Key.text "schema").lookup schema = none
  unreferred : ((Key.text "$ref").lookup schema).bind Value.asText = none
  listed : (Key.text "enum").lookup schema = some (.list values)

theorem Enumerates.of_eq {schema : List (Key × Value)} {values : List Value} (enumerates : Enumerates schema values) :
    SchemaType.of (.object schema) =
      .ok (.enum (((Key.text "description").lookup schema).getD .null) (values.map Value.json)) := by
  rw [SchemaType.of]
  unfold SchemaType.ofEntries
  simp only [enumerates.unwrapped, enumerates.unreferred, enumerates.listed]
  rfl

theorem Enumerates.typeOf_eq {schema : List (Key × Value)} {values : List Value}
    (enumerates : Enumerates schema values) (dialect : Dialect) (document : Value) :
    dialect.typeOf document (.object schema) =
      .ok (.enum (((Key.text "description").lookup schema).getD .null) (values.map Value.json)) := by
  rw [Dialect.typeOf, Dialect.convert_eq_activation, Dialect.activation, enumerates.of_eq, Outcome.ok_bind]
  rfl

/-- A property name is written as it is, if it is an identifier, or else as a literal of it, and can be read back from
either, so different names have different keys. An enumeration converts to the union of its literals, in which each
text has a literal of its own, so different texts have different literals. -/
theorem literals_read_back (dialect : Dialect) (document : Value) :
    (∀ name, (TypeExpr.propertyKey name = name ∧ IsBareKey name ∨
        Text.isIdentifier name.toList = false ∧ IsLiteralFor (TypeExpr.propertyKey name) name) ∧
      nameOfKey? (TypeExpr.propertyKey name) = some name) ∧
    Function.Injective TypeExpr.propertyKey ∧
    ∀ schema values, Enumerates schema values → ∃ type literals,
      dialect.typeOf document (.object schema) = .ok type ∧ type.kind = .enum ∧
      type.text = TypeExpr.unionText literals ∧ literals.length = values.length ∧
      (∀ (i : Nat) text, values[i]? = some (.text text) →
        ∃ literal, literals[i]? = some literal ∧ IsLiteralFor literal text) ∧
      ∀ (i j : Nat) text other, values[i]? = some (.text text) → values[j]? = some (.text other) → text ≠ other →
        literals[i]? ≠ literals[j]? := by
  refine ⟨fun name => ⟨TypeExpr.propertyKey_cases name, TypeExpr.nameOfKey?_propertyKey name⟩,
    TypeExpr.propertyKey_injective, fun schema values enumerates => ?_⟩
  have literal (i : Nat) (text : String) (listed : values[i]? = some (.text text)) :
      ∃ literal, (values.map Value.json)[i]? = some literal ∧ IsLiteralFor literal text := by
    refine ⟨Text.escape text, ?_, isLiteralFor_escape text⟩
    rw [List.getElem?_map, listed, Option.map_some, Value.json]
  refine ⟨_, _, enumerates.typeOf_eq dialect document, rfl, rfl, List.length_map _, literal, ?_⟩
  intro i j text other first second apart same
  obtain ⟨one, found, isOne⟩ := literal i text first
  obtain ⟨another, foundToo, isAnother⟩ := literal j other second
  obtain rfl := Option.some.inj ((found.symm.trans same).trans foundToo)
  exact apart (isOne.unique isAnother)

def spikyChoices : List Value := [.text "a\" | \"b", .int 1, .text "𝄞"]

theorem literals_read_back_spiky : ∃ type literals,
    Dialect.flow.typeOf .null (.object [(.text "enum", .list spikyChoices)]) = .ok type ∧
      type.text = TypeExpr.unionText literals ∧
      (∃ literal, literals[2]? = some literal ∧ IsLiteralFor literal "𝄞") ∧ literals[0]? ≠ literals[2]? := by
  have enumerates : Enumerates [(.text "enum", .list spikyChoices)] spikyChoices := ⟨rfl, rfl, rfl⟩
  obtain ⟨_, _, enumerations⟩ := literals_read_back .flow .null
  obtain ⟨type, literals, converts, _, union, _, each, apart⟩ := enumerations _ _ enumerates
  exact ⟨type, literals, converts, union, each 2 _ rfl, apart 0 2 _ _ rfl rfl (by decide)⟩

example : TypeExpr.propertyKey "größe" = "größe" ∧ TypeExpr.propertyKey "a-𝄞" = "\"a-\\ud834\\udd1e\"" := by
  decide +kernel

end ClientGen
