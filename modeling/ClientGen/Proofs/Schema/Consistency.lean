import ClientGen.Proofs.Document.TextNames
import ClientGen.Proofs.Schema.Invariant
import ClientGen.Proofs.Schema.Shape

/-! What the text of a type and its structure say is the same. The kind tells which parts a type has, and the text is
written from these alone, wherever the type has been moved. In documents that name everything by texts, as JSON
does, properties are named by texts too; others may name one by zero or null, which is written like no name. -/

set_option autoImplicit false

namespace ClientGen

/-! ## Schemas whose names are texts -/

namespace SchemaType

theorem lookup_of_mem_members {entries : List (Key × Value)} {member : Value}
    {members : { members : List Value // Value.sizes members ≤ Value.entrySizes entries }}
    (composed : membersOf entries = .ok members) (among : member ∈ members.1) :
    ∃ listed, (Key.text "allOf").lookup entries = some (.list listed) ∧ member ∈ listed := by
  unfold membersOf at composed
  split at composed
  next listed found =>
    cases composed
    exact ⟨listed, found, among⟩
  next =>
    obtain ⟨_, _, same⟩ := Outcome.bind_eq_ok.mp composed
    cases same
    cases among
  next =>
    cases composed
    cases among

theorem lookup_of_mem_declared {entries : List (Key × Value)} {property : Key × Value}
    {declared : { declared : List (Key × Value) // Value.entrySizes declared ≤ Value.entrySizes entries }}
    (declares : declaredIn entries = .ok declared) (among : property ∈ declared.1) :
    ∃ held, (Key.text "properties").lookup entries = some (.object held) ∧ property ∈ held := by
  unfold declaredIn at declares
  split at declares
  next held found =>
    cases declares
    exact ⟨held, found, among⟩
  next =>
    split at declares <;> cases declares
    cases among
  next =>
    cases declares
    cases among

theorem hasTextNames_definitionAt {document definition : Value} {name : String} (named : document.hasTextNames = true)
    (defined : definitionAt (definitionsFor document) name = some definition) : definition.hasTextNames = true := by
  obtain ⟨definitions, known, found⟩ := Option.bind_eq_some_iff.mp defined
  refine Value.hasTextNames_of_get? ?_ found
  cases read : definitionsFor document with
  | error failure =>
    rw [read] at known
    cases known
  | ok held =>
    rw [read] at known
    cases known
    obtain ⟨field, has, same⟩ := Outcome.bind_eq_ok.mp read
    cases same
    exact Value.hasTextNames_orElse (Value.hasTextNames_of_field (Value.hasTextNames_orElse named rfl) has) rfl

theorem hasTextNames_elementOf {entries : List (Key × Value)} (named : (Value.object entries).hasTextNames = true) :
    (elementOf entries).hasTextNames = true :=
  Value.hasTextNames_orElse (Value.hasTextNames_getD fun _ found => Value.hasTextNames_of_lookup named found) rfl

theorem Part.hasTextNames {schema inner : Value} (part : Part schema inner) (named : schema.hasTextNames = true) :
    inner.hasTextNames = true := by
  cases part with
  | wrapped asked =>
    obtain ⟨entries, rfl, found⟩ := of_wrapped asked
    exact Value.hasTextNames_of_lookup named found
  | element asked =>
    obtain ⟨entries, rfl, rfl⟩ := of_array asked
    exact hasTextNames_elementOf named
  | member asked composed among =>
    obtain rfl := of_object asked
    obtain ⟨listed, found, among⟩ := lookup_of_mem_members composed among
    exact Value.allHaveTextNames_iff.mp (Value.hasTextNames_of_lookup named found) _ among
  | property asked declares among =>
    obtain rfl := of_object asked
    obtain ⟨held, found, among⟩ := lookup_of_mem_declared declares among
    exact (Value.entriesHaveTextNames_iff.mp (Value.hasTextNames_of_lookup named found) _ among).2

theorem closed_hasTextNames {document : Value} (named : document.hasTextNames = true) :
    Dialect.Closed (definitionsFor document) (fun schema => schema.hasTextNames = true)
      fun name => ∃ s, name = .text s where
  part holds inner := inner.hasTextNames holds
  definition := hasTextNames_definitionAt named
  name holds declares := by
    cases declares with
    | intro asked declares among =>
      obtain rfl := of_object asked
      obtain ⟨held, found, among⟩ := lookup_of_mem_declared declares among
      exact Key.exists_text (Value.entriesHaveTextNames_iff.mp (Value.hasTextNames_of_lookup holds found) _ among).1

end SchemaType

/-! ## Types -/

namespace Dialect

/-- The text that a kind of type is given with these parts. An enumeration has no parts that its text could be written
from. -/
def textOf (dialect : Dialect) :
    TypeKind → Option String → Option TypeExpr → List TypeExpr → Except Failure String
  | .ref, some target, _, _ => .ok (dialect.typeName target)
  | .array, _, some element, _ => .ok (dialect.arrayText element)
  | .object, _, _, properties => do return dialect.membersText (← properties.mapM TypeExpr.memberText)
  | kind, _, _, _ => .ok kind.word

end Dialect

namespace TypeExpr

structure Unnamed (type : TypeExpr) : Prop where
  name : type.name = none
  required : type.optional = false

/-- The kind of a type tells which parts it has, and these tell its text. -/
structure Consistent (dialect : Dialect) (type : TypeExpr) : Prop where
  element : type.element.isSome ↔ type.kind = .array
  target : type.target.isSome ↔ type.kind = .ref
  properties : type.kind ≠ .object → type.properties = []
  named : AllNamed type.properties
  elements : ∀ element ∈ type.element, element.Unnamed
  text : type.kind ≠ .enum →
    dialect.textOf type.kind type.target type.element type.properties = .ok type.text

theorem Consistent.asProperty {dialect : Dialect} {type : TypeExpr} (consistent : Consistent dialect type)
    (name : Key) (optional : Bool) : Consistent dialect (type.asProperty name optional) :=
  ⟨consistent.element, consistent.target, consistent.properties, consistent.named, consistent.elements,
    consistent.text⟩

end TypeExpr

namespace Dialect

open TypeExpr SchemaType

theorem consistent_plain (dialect : Dialect) {kind : TypeKind} (text : String) (description : Value)
    (atomic : kind.isAtomic = true) (written : kind ≠ .enum → text = kind.word) :
    Consistent dialect (.plain kind text description) := by
  refine ⟨?_, ?_, fun _ => rfl, List.forall_mem_nil _, nofun, ?_⟩
  · cases kind <;> simp_all [plain, TypeKind.isAtomic]
  · cases kind <;> simp_all [plain, TypeKind.isAtomic]
  · intro literal
    rw [plain, written literal]
    cases kind <;> first | rfl | cases atomic

theorem namedInvariant_consistent (dialect : Dialect) :
    dialect.NamedInvariant (fun name => ∃ s, name = .text s)
      (fun type => type.Unnamed ∧ type.Everywhere (Consistent dialect))
      (fun property => property.NamedByText ∧ property.Everywhere (Consistent dialect)) where
  ref description target := by
    refine ⟨⟨rfl, rfl⟩, .of_leaf ?_ rfl rfl⟩
    exact ⟨iff_of_false nofun nofun, iff_of_true rfl rfl, fun _ => rfl, List.forall_mem_nil _, nofun, fun _ => rfl⟩
  enum description values := by
    refine ⟨⟨rfl, rfl⟩, .of_leaf ?_ rfl rfl⟩
    exact dialect.consistent_plain _ description rfl fun literal => absurd rfl literal
  primitive description which := by
    cases which <;>
      exact ⟨⟨rfl, rfl⟩, .of_leaf (dialect.consistent_plain _ description rfl fun _ => rfl) rfl rfl⟩
  array description element holds := by
    refine ⟨⟨rfl, rfl⟩, .intro ?_ ?_⟩
    · refine ⟨iff_of_true rfl rfl, iff_of_false nofun nofun, fun _ => rfl, List.forall_mem_nil _, ?_, fun _ => rfl⟩
      rintro _ ⟨⟩
      exact holds.1
    · rintro child (found | among)
      · cases found
        exact holds.2
      · cases among
  property optional type := by
    rintro ⟨s, rfl⟩ holds
    exact ⟨⟨s, rfl⟩, holds.2.asProperty (holds.2.here.asProperty _ _)⟩
  properties holds property among := ⟨holds.2.here.named property among, holds.2.of_child (.property among)⟩
  object description properties each type done := by
    obtain ⟨members, written, same⟩ := Outcome.bind_eq_ok.mp done
    cases same
    refine ⟨⟨rfl, rfl⟩, .intro ?_ ?_⟩
    · refine ⟨iff_of_false nofun nofun, iff_of_false nofun nofun, fun other => absurd rfl other,
        fun property among => (each property among).1, nofun, fun _ => ?_⟩
      rw [textOf, written]
      rfl
    -- The properties of members come from objects that were written before, and the own ones were just declared.
    · rintro child (found | among)
      · cases found
      · exact (each child among).2

/-- A type that stands for a schema is no property, and everywhere in it the structure tells the text. -/
theorem typeOf_consistent (dialect : Dialect) {document schema : Value} (namedDocument : document.hasTextNames = true)
    (named : schema.hasTextNames = true) {type : TypeExpr} (converts : dialect.typeOf document schema = .ok type) :
    type.Unnamed ∧ type.Everywhere (Consistent dialect) :=
  dialect.namedInvariant_consistent.typeOf (closed_hasTextNames namedDocument) named type converts

def taggedDocument : Value := .object [(.text "definitions", .object [
  (.text "Tagged", .object [(.text "properties", .object [
    (.text "tags", .object [
      (.text "type", .text "array"),
      (.text "items", .object [(.text "enum", .list [.text "a", .text "b"])])])])])])]

def taggedSchema : Value := .object [(.text "schema", .object [
  (.text "allOf", .list [.object [(.text "$ref", .text "#/definitions/Tagged")]]),
  (.text "properties", .object [
    (.text "on", .object [(.text "$ref", .text "#/definitions/Date")]),
    (.text "grid", .object [
      (.text "type", .text "array"),
      (.text "items", .object [
        (.text "type", .text "array"),
        (.text "items", .object [(.text "type", .text "integer")])])])]),
  (.text "required", .list [.text "on", .text "tags"])])]

theorem typeOf_consistent_tagged : ∃ type, flow.typeOf taggedDocument taggedSchema = .ok type ∧
    type.text = "\x7b| tags?: Array<\"a\" | \"b\">, on: DateType, grid?: Array<Array<number>> |\x7d" ∧
    type.Unnamed ∧ type.Everywhere (Consistent flow) := by
  have evaluated : (flow.typeOf taggedDocument taggedSchema).toOption.map TypeExpr.text =
      some "\x7b| tags?: Array<\"a\" | \"b\">, on: DateType, grid?: Array<Array<number>> |\x7d" := by
    decide +kernel
  obtain ⟨type, converts, text⟩ := Outcome.eq_ok_of_toOption_map evaluated
  exact ⟨type, converts, text, flow.typeOf_consistent (by decide) (by decide) converts⟩

end Dialect

end ClientGen
