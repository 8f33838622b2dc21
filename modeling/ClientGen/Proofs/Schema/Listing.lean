import ClientGen.Proofs.Schema.Composition

/-! The properties of an object, listed: those of the members it is composed of, in their order and each with all that
it is composed of itself, and then its own. Only objects are listed; any other type has no layers, and where it is
the member of a composition it leaves no trace there. -/

set_option autoImplicit false

namespace ClientGen

namespace SchemaType

section
variable {definitions : Except Failure Value} {schemas rest : List Value} {others : List Layer}

theorem Composes.cons_iff {schema : Value} : Composes definitions (schema :: rest) others ↔
    ∃ first second, Composes definitions [schema] first ∧ Composes definitions rest second ∧
      others = first ++ second := by
  constructor
  · intro composes
    generalize whole : schema :: rest = all at composes
    -- Only a wrapped schema has to be followed further; what is not wrapped is done in one step.
    induction composes generalizing schema with
    | done => cases whole
    | wrapped asked _ ih =>
      cases whole
      obtain ⟨first, second, composes, more, rfl⟩ := ih rfl
      exact ⟨first, second, .wrapped asked composes, more, rfl⟩
    | bare asked none others =>
      cases whole
      exact ⟨[], _, .bare asked none .done, others, rfl⟩
    | object asked composed stand requires declares within others =>
      cases whole
      refine ⟨_, _, .object asked composed stand requires declares within .done, others, ?_⟩
      rw [List.append_assoc, List.cons_append, List.nil_append]
  · rintro ⟨first, second, composes, more, rfl⟩
    exact composes.append more

theorem Composes.remove_iff {schema : Value} (nothing : Composes definitions [schema] []) :
    Composes definitions (schemas ++ schema :: rest) others ↔ Composes definitions (schemas ++ rest) others := by
  induction schemas generalizing others with
  | nil =>
    refine ⟨fun composes => ?_, fun composes => nothing.append composes⟩
    obtain ⟨first, second, here, later, rfl⟩ := cons_iff.mp composes
    rwa [here.unique nothing, List.nil_append]
  | cons first before ih =>
    rw [List.cons_append, List.cons_append, cons_iff, cons_iff]
    simp only [ih]

end

end SchemaType

namespace Dialect

open SchemaType

variable {dialect : Dialect} {document schema : Value} {type : TypeExpr}

theorem typeOf_wrapped {inner : Value} (asked : of schema = .ok (.wrapped inner)) :
    dialect.typeOf document schema = dialect.typeOf document inner := by
  rw [typeOf, convert_eq_activation, activation, asked]
  rfl

theorem kind_of_bare {form : SchemaType} (asked : of schema = .ok form) (bare : form.isBare = true)
    (converts : dialect.typeOf document schema = .ok type) : type.kind ≠ .object := by
  rw [typeOf, convert_eq_activation, activation, asked, Outcome.ok_bind] at converts
  cases form with
  | wrapped | object => cases bare
  | ref | enum =>
    cases converts
    rintro ⟨⟩
  | primitive description which =>
    cases converts
    cases which <;> rintro ⟨⟩
  | array =>
    obtain ⟨element, _, same⟩ := Outcome.bind_eq_ok.mp converts
    cases same
    rintro ⟨⟩

theorem kind_of_object {description : Value} {entries : List (Key × Value)}
    (asked : of schema = .ok (.object description entries))
    (converts : dialect.typeOf document schema = .ok type) : type.kind = .object := by
  rw [typeOf, convert_eq_activation, activation, asked, Outcome.ok_bind] at converts
  obtain ⟨members, _, converts⟩ := Outcome.bind_eq_ok.mp converts
  obtain ⟨inherited, _, converts⟩ := Outcome.bind_eq_ok.mp converts
  obtain ⟨required, _, converts⟩ := Outcome.bind_eq_ok.mp converts
  obtain ⟨declared, _, converts⟩ := Outcome.bind_eq_ok.mp converts
  obtain ⟨own, _, converts⟩ := Outcome.bind_eq_ok.mp converts
  obtain ⟨_, _, same⟩ := Outcome.bind_eq_ok.mp converts
  cases same
  rfl

theorem kind_eq_object_iff {layers : List Layer} (composes : Composes (definitionsFor document) [schema] layers)
    (converts : dialect.typeOf document schema = .ok type) : type.kind = .object ↔ layers ≠ [] := by
  generalize whole : [schema] = schemas at composes
  induction composes generalizing schema with
  | done => cases whole
  | wrapped asked _ ih =>
    cases whole
    exact ih ((typeOf_wrapped asked).symm.trans converts) rfl
  | bare asked none others =>
    cases whole
    cases others
    exact iff_of_false (kind_of_bare asked none converts) (fun some => some rfl)
  | object asked =>
    cases whole
    exact iff_of_true (kind_of_object asked converts) (by simp)

/-- The properties of a type are those that its layers declare, in this order, each as its own schema is converted and
optional unless its own layer requires it. The type is an object exactly if there are layers; any other type adds
nothing to a composition, wherever it stands in it. -/
theorem typeOf_listing (dialect : Dialect) {document schema : Value} {type : TypeExpr}
    (converts : dialect.typeOf document schema = .ok type) :
    ∃ layers, (∀ other, Composes (definitionsFor document) [schema] other ↔ other = layers) ∧
      List.Forall₂ (Declaration.Gives dialect document) (layers.flatMap Layer.declarations) type.properties ∧
      (type.kind = .object ↔ layers ≠ []) ∧
      (type.kind ≠ .object → ∀ before after others,
        Composes (definitionsFor document) (before ++ schema :: after) others ↔
          Composes (definitionsFor document) (before ++ after) others) := by
  obtain ⟨layers, composes, gives⟩ := dialect.typeOf_layered converts
  have object := kind_eq_object_iff composes converts
  refine ⟨layers, fun other => ⟨fun also => also.unique composes, ?_⟩, gives, object, ?_⟩
  · rintro rfl
    exact composes
  · intro noObject before after others
    obtain rfl : layers = [] := not_not.mp fun some => noObject (object.mpr some)
    exact composes.remove_iff

def otherName : Value := .object [(.text "$ref", .text "#/definitions/Base")]

def layeredDocument : Value := .object [(.text "definitions", .object [
  (.text "Named", .object [
    (.text "properties", .object [(.text "name", .object [(.text "type", .text "string")])]),
    (.text "required", .list [.text "name"])]),
  (.text "Base", .object [
    (.text "allOf", .list [.object [(.text "$ref", .text "#/definitions/Named")]]),
    (.text "properties", .object [(.text "id", .object [(.text "type", .text "integer")])])]),
  (.text "Other", otherName)])]

def layeredSchema : Value := .object [
  (.text "required", .list [.text "name", .text "tags"]),
  (.text "properties", .object [
    (.text "tags", .object [(.text "type", .text "array")]),
    (.text "id", .object [(.text "type", .text "string")])]),
  (.text "allOf", .list [
    .object [(.text "$ref", .text "#/definitions/Other")],
    .object [(.text "properties", .object [(.text "own", otherName)])],
    .object [(.text "type", .text "string")],
    .object [(.text "$ref", .text "#/definitions/Base")]])]

theorem typeOf_listing_members :
    (∃ type, typescript.typeOf layeredDocument layeredSchema = .ok type ∧ type.kind = .object ∧
      List.Forall₂ (Declaration.Gives typescript layeredDocument)
        [⟨.text "own", otherName, false⟩,
          ⟨.text "name", .object [(.text "type", .text "string")], true⟩,
          ⟨.text "id", .object [(.text "type", .text "integer")], false⟩,
          ⟨.text "tags", .object [(.text "type", .text "array")], true⟩,
          ⟨.text "id", .object [(.text "type", .text "string")], false⟩] type.properties) ∧
    ∀ before after others, Composes (definitionsFor layeredDocument) (before ++ otherName :: after) others ↔
      Composes (definitionsFor layeredDocument) (before ++ after) others := by
  obtain ⟨kind, otherKind⟩ :
      (typescript.typeOf layeredDocument layeredSchema).toOption.map TypeExpr.kind = some .object ∧
        (typescript.typeOf layeredDocument otherName).toOption.map TypeExpr.kind = some .ref := by
    decide +kernel
  constructor
  · obtain ⟨type, converts, isObject⟩ := Outcome.eq_ok_of_toOption_map kind
    obtain ⟨layers, only, each, _⟩ := typescript.typeOf_listing converts
    have composes : Composes (definitionsFor layeredDocument) [layeredSchema]
        [⟨[], [(.text "own", otherName)]⟩,
          ⟨[.text "name"], [(.text "name", .object [(.text "type", .text "string")])]⟩,
          ⟨[], [(.text "id", .object [(.text "type", .text "integer")])]⟩,
          ⟨[.text "name", .text "tags"], [(.text "tags", .object [(.text "type", .text "array")]),
            (.text "id", .object [(.text "type", .text "string")])]⟩] :=
      .object rfl rfl rfl rfl rfl
        (.bare rfl rfl (.object rfl rfl rfl rfl rfl .done (.bare rfl rfl
          (.object rfl rfl rfl rfl rfl (.object rfl rfl rfl rfl rfl .done .done) .done)))) .done
    obtain rfl := (only _).mp composes
    exact ⟨type, converts, isObject, each⟩
  · obtain ⟨type, converts, isReference⟩ := Outcome.eq_ok_of_toOption_map otherKind
    obtain ⟨_, _, _, _, leftOut⟩ := typescript.typeOf_listing converts
    refine leftOut ?_
    rw [isReference]
    exact nofun

end Dialect

end ClientGen
