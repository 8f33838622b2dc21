import ClientGen.Proofs.Outcome
import ClientGen.Schema.Conversion

/-! One activation of the conversion: what is done with a schema once it is known what is done with the
schemas in it and with the references of the members it is composed of. Whatever way of following references
the conversion is given, its activations are the same, and only the references differ. -/

set_option autoImplicit false

namespace ClientGen

namespace SchemaType

/-- The schemas in a schema that are converted with it. -/
inductive Part (schema : Value) : Value → Prop where
  | wrapped {inner : Value} : of schema = .ok (.wrapped inner) → Part schema inner
  | element {description element : Value} : of schema = .ok (.array description element) →
      Part schema element
  | member {description : Value} {entries member : List (Key × Value)}
      {members : { members : List Value // Value.sizes members ≤ Value.entrySizes entries }} :
      of schema = .ok (.object description entries) → membersOf entries = .ok members →
      .object member ∈ members.1 → (Key.text "$ref").lookup member = none → Part schema (.object member)
  | property {description inner : Value} {entries : List (Key × Value)} {name : Key}
      {declared : { declared : List (Key × Value) //
        Value.entrySizes declared ≤ Value.entrySizes entries }} :
      of schema = .ok (.object description entries) → declaredIn entries = .ok declared →
      (name, inner) ∈ declared.1 → Part schema inner

inductive Refers (schema : Value) : Value → Prop where
  | member {description reference : Value} {entries member : List (Key × Value)}
      {members : { members : List Value // Value.sizes members ≤ Value.entrySizes entries }} :
      of schema = .ok (.object description entries) → membersOf entries = .ok members →
      .object member ∈ members.1 → (Key.text "$ref").lookup member = some reference →
      Refers schema reference

theorem Part.size_lt {schema inner : Value} (part : Part schema inner) : inner.size < schema.size := by
  cases part with
  | wrapped asked => exact of_partSize asked
  | element asked => exact of_partSize asked
  | @member _ _ _ members asked _ among _ =>
    have := Value.size_le_of_mem among
    have := members.2
    have := of_partSize asked
    simp only [partSize] at this
    omega
  | @property _ _ _ _ declared asked _ among =>
    have := Value.size_le_of_mem_entries among
    have := declared.2
    have := of_partSize asked
    simp only [partSize] at this
    omega

end SchemaType

namespace Dialect

open SchemaType

section
variable (dialect : Dialect) (within behind : Value → Except Failure TypeExpr)

def memberType (member : List (Key × Value)) : Except Failure TypeExpr :=
  match (Key.text "$ref").lookup member with
  | some reference => behind reference
  | none => within (.object member)

def memberProperties : Value → Except Failure (List TypeExpr)
  | .object member => do return (← memberType within behind member).properties
  | other => .error (notAMember other)

def declaredProperty (required : List Key) (property : Key × Value) : Except Failure TypeExpr := do
  return (← within property.2).asProperty property.1 (!required.any property.1.same)

/-- The conversion of a schema, given that of the schemas within it and of what is behind references. -/
def activation (schema : Value) : Except Failure TypeExpr := do
  match ← SchemaType.of schema with
  | .wrapped inner => within inner
  | .ref description target => return dialect.ref description target
  | .enum description literals => return .enum description literals
  | .primitive description which => return .primitive description which
  | .array description element => return dialect.array description (← within element)
  | .object description entries => do
    let members ← membersOf entries
    -- A failure among the members comes before one of the required keys or of the properties.
    let inherited ← members.1.mapM (memberProperties within behind)
    let required ← requiredKeys entries
    let declared ← declaredIn entries
    let own ← declared.1.mapM (declaredProperty within required)
    dialect.object description (inherited.flatten ++ own)

end

section
variable (dialect : Dialect) (definitions : Except Failure Value) (available : List (Key × Value))

/-- The conversion of what is behind a reference, whose definition is not available any more then. -/
def convertReferred (reference : Value) : Except Failure TypeExpr := do
  let found ← enter definitions available reference
  dialect.convert definitions found.1.2 found.1.1

theorem inheritedProperties_eq (members : List Value) :
    dialect.inheritedProperties definitions available members = do
      return (← members.mapM (memberProperties (dialect.convert definitions available)
        (dialect.convertReferred definitions available))).flatten := by
  induction members with
  | nil => rw [inheritedProperties]; rfl
  | cons member rest ih =>
    rw [List.mapM_cons]
    cases member with
    | object entries =>
      rw [inheritedProperties, ih]
      cases found : (Key.text "$ref").lookup entries <;>
        simp [memberProperties, memberType, found, convertReferred, bind_assoc]
    | _ =>
      rw [inheritedProperties]
      · rfl
      · intro entries same
        cases same

theorem ownProperties_eq (required : List Key) (declared : List (Key × Value)) :
    dialect.ownProperties definitions available required declared =
      declared.mapM (declaredProperty (dialect.convert definitions available) required) := by
  induction declared with
  | nil => rw [ownProperties]; rfl
  | cons property rest ih =>
    obtain ⟨name, schema⟩ := property
    rw [List.mapM_cons, ownProperties, ih]
    simp [declaredProperty, bind_assoc]

theorem convert_eq_activation (schema : Value) :
    dialect.convert definitions available schema =
      dialect.activation (dialect.convert definitions available)
        (dialect.convertReferred definitions available) schema := by
  rw [convert, activation]
  split <;> rename_i asked <;>
    simp only [asked, Outcome.ok_bind, Outcome.error_bind, Outcome.pure_eq, inheritedProperties_eq,
      ownProperties_eq, bind_assoc]

end

/-- The dialects write related types from related parts, or stop. -/
structure Writes (stops : Failure → Prop) (R : TypeExpr → TypeExpr → Prop) (first second : Dialect) :
    Prop where
  ref : ∀ description target, R (first.ref description target) (second.ref description target)
  plain : ∀ kind text description, R (.plain kind text description) (.plain kind text description)
  array : ∀ description {a b}, R a b → R (first.array description a) (second.array description b)
  property : ∀ name optional {a b}, R a b → R (a.asProperty name optional) (b.asProperty name optional)
  properties : ∀ {a b}, R a b → List.Forall₂ R a.properties b.properties
  object : ∀ description {as bs}, List.Forall₂ R as bs →
    Outcome.Related stops R (first.object description as) (second.object description bs)

theorem Writes.same (stops : Failure → Prop) (dialect : Dialect) : Writes stops Eq dialect dialect where
  ref _ _ := rfl
  plain _ _ _ := rfl
  array _ _ _ same := by rw [same]
  property _ _ _ _ same := by rw [same]
  properties same := by rw [same, List.forall₂_eq_eq_eq]
  object description as bs same := by
    rw [List.forall₂_eq_eq_eq] at same
    rw [same]
    exact .refl (fun _ => rfl) _

section
variable {stops : Failure → Prop} {R : TypeExpr → TypeExpr → Prop} {first second : Dialect}
  {within₁ within₂ behind₁ behind₂ : Value → Except Failure TypeExpr}

theorem memberProperties_related (writes : Writes stops R first second) {member : Value}
    (part : ∀ entries, member = .object entries → (Key.text "$ref").lookup entries = none →
      Outcome.Related stops R (within₁ member) (within₂ member))
    (reference : ∀ entries reference, member = .object entries →
      (Key.text "$ref").lookup entries = some reference →
      Outcome.Related stops R (behind₁ reference) (behind₂ reference)) :
    Outcome.Related stops (List.Forall₂ R) (memberProperties within₁ behind₁ member)
      (memberProperties within₂ behind₂ member) := by
  cases member with
  | object entries =>
    refine Outcome.Related.bind (R := R) ?_ fun a b same => .ok (writes.properties same)
    unfold memberType
    cases found : (Key.text "$ref").lookup entries with
    | none => exact part entries rfl found
    | some target => exact reference entries target rfl found
  | _ => exact .error _

/-- Activations are related when they are given related conversions of what they ask for. -/
theorem activation_related (writes : Writes stops R first second) {schema : Value}
    (parts : ∀ inner, Part schema inner → Outcome.Related stops R (within₁ inner) (within₂ inner))
    (references : ∀ reference, Refers schema reference →
      Outcome.Related stops R (behind₁ reference) (behind₂ reference)) :
    Outcome.Related stops R (first.activation within₁ behind₁ schema)
      (second.activation within₂ behind₂ schema) := by
  -- What is asked of the schema itself is the same on both sides; only what is behind parts and references is
  -- converted in two ways.
  refine .bind_same fun type asked => ?_
  cases type with
  | wrapped inner => exact parts inner (.wrapped asked)
  | ref description target => exact .ok (writes.ref description target)
  | enum description literals => exact .ok (writes.plain _ _ _)
  | primitive description which => cases which <;> exact .ok (writes.plain _ _ _)
  | array description element =>
    exact (parts element (.element asked)).bind fun a b same => .ok (writes.array description same)
  | object description entries =>
    refine .bind_same fun members composed => ?_
    refine Outcome.Related.bind (R := List.Forall₂ (List.Forall₂ R)) ?_ fun left right inherited => ?_
    · refine .mapM (List.forall₂_same.mpr fun member among => ?_)
      apply memberProperties_related writes
      · rintro entries rfl free
        exact parts _ (.member asked composed among free)
      · rintro entries reference rfl refers
        exact references _ (.member asked composed among refers)
    refine .bind_same fun required _ => .bind_same fun declared listed => ?_
    refine Outcome.Related.bind (R := List.Forall₂ R) ?_ fun mine yours own => ?_
    · refine .mapM (List.forall₂_same.mpr fun property among => ?_)
      exact (parts _ (.property asked listed among)).bind fun a b same => .ok (writes.property _ _ same)
    · exact writes.object description (List.rel_append (List.rel_flatten inherited) own)

end

end Dialect

end ClientGen
