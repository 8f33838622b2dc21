import ClientGen.Proofs.Client.Types
import ClientGen.Proofs.Document.Keys

/-! The names under which a view exports the definitions of its document. A type that refers to a definition
does so by the name that it is exported under. The names are distinct unless one definition has the name that
another one gets because its own is reserved. -/

set_option autoImplicit false

namespace ClientGen

namespace View

variable {document : Value} {target : String} {options : Options} {view : View}

theorem build_definitions (built : build document target options = .ok view) :
    definitionsFor document target = .ok view.definitions := by
  obtain ⟨start, paths, operations, final, definitions, _, _, _, _, typed, rfl⟩ := build_eq_ok.mp built
  exact typed

def definitionNames (view : View) : List Key := view.definitions.map (·.name)

theorem build_definitionNames (built : build document target options = .ok view) {schemas : List (Key × Value)}
    (listed : schemasOf document = .ok schemas) :
    view.definitionNames = (schemas.map (·.1)).map (exportName (exportDialect target)) := by
  obtain ⟨others, same, each⟩ := definitionsFor_eq_ok (build_definitions built)
  obtain rfl : others = schemas := Except.ok.inj (same.symm.trans listed)
  clear same listed
  unfold definitionNames
  generalize view.definitions = definitions at each ⊢
  induction each with
  | nil => rfl
  | cons here _ ih => rw [List.map_cons, List.map_cons, List.map_cons, here.1, ih]

theorem exportName_apart {dialect : Dialect} {a b : Key} (differ : a.same b = false)
    (free : ∀ first second, a = .text first → b = .text second →
      ¬ dialect.TakesNameOf second first ∧ ¬ dialect.TakesNameOf first second) :
    (exportName dialect a).same (exportName dialect b) = false := by
  cases a with
  | text first =>
    cases b with
    | text second =>
      obtain ⟨right, left⟩ := free first second rfl rfl
      rw [Key.same_text, beq_eq_false_iff_ne] at differ
      simp only [exportName, Key.same_text, beq_eq_false_iff_ne, ne_eq, Dialect.typeName_eq_iff]
      rintro (same | takes | takes)
      · exact differ same
      · exact right takes
      · exact left takes
    | _ => rfl
  | _ => cases b <;> exact differ

/-- The definitions of a document whose keys are distinct are exported under distinct names exactly when none of
them takes the name of another: always so in TypeScript and JavaScript, and in Flow when no key is a reserved
word with the suffix that another key, this word, gets. Then a reference stands for one of them only. -/
theorem build_exports_distinct (built : build document target options = .ok view)
    {schemas : List (Key × Value)} (listed : schemasOf document = .ok schemas)
    (distinct : Key.Distinct (schemas.map (·.1))) :
    (target ≠ "flow" → Key.Distinct view.definitionNames) ∧
    (target = "flow" → (Key.Distinct view.definitionNames ↔
      ∀ word ∈ Dialect.flow.reservedWords,
        ¬ (.text word ∈ schemas.map (·.1) ∧ .text (word ++ "Type") ∈ schemas.map (·.1)))) ∧
    (Key.Distinct view.definitionNames → ∀ first second, .text first ∈ schemas.map (·.1) →
      .text second ∈ schemas.map (·.1) →
      (exportDialect target).typeName first = (exportDialect target).typeName second → first = second) := by
  rw [build_definitionNames built listed]
  generalize schemas.map (·.1) = keys at distinct ⊢
  -- Whatever the target is, it is enough that no key takes the name of another.
  have apart (dialect : Dialect) (free : ∀ first second, .text first ∈ keys → .text second ∈ keys →
      ¬ dialect.TakesNameOf second first) : Key.Distinct (keys.map (exportName dialect)) := by
    refine distinct.map fun a left b right differ => exportName_apart differ ?_
    rintro first second rfl rfl
    exact ⟨free first second left right, free second first right left⟩
  have injective (dialect : Dialect) (named : Key.Distinct (keys.map (exportName dialect)))
      (first second : String) (left : .text first ∈ keys) (right : .text second ∈ keys)
      (same : dialect.typeName first = dialect.typeName second) : first = second :=
    Key.text.inj (named.eq_of_map left right rfl (congrArg Key.text same.symm))
  refine ⟨fun other => ?_, fun isFlow => ⟨fun named word reserved => ?_, fun free => ?_⟩, injective _⟩
  · rw [exportDialect, if_neg other]
    exact apart .typescript fun _ _ _ _ takes => List.not_mem_nil takes.1
  · rintro ⟨left, right⟩
    rw [exportDialect, if_pos isFlow] at named
    have same := injective .flow named word (word ++ "Type") left right
      (Dialect.typeName_eq_iff.mpr (.inr (.inl ⟨reserved, rfl⟩)))
    exact Dialect.suffixed_notMem_reservedWords reserved (same ▸ reserved)
  · rw [exportDialect, if_pos isFlow]
    refine apart .flow fun first second left right takes => ?_
    exact free first takes.1 ⟨left, takes.2 ▸ right⟩

def documentDefining (schemas : List (Key × Value)) : Value :=
  .object [(.text "swagger", .text "2.0"), (.text "definitions", .object schemas)]

def clashingSchemas : List (Key × Value) :=
  [(.text "Map", .object [(.text "type", .text "string")]),
    (.text "MapType", .object [(.text "type", .text "number")])]

/-- In Flow two definitions with different keys can be exported under one name. -/
theorem exports_share_name : ∃ view, build (documentDefining clashingSchemas) "flow" {} = .ok view ∧
    schemasOf (documentDefining clashingSchemas) = .ok clashingSchemas ∧
    Key.Distinct (clashingSchemas.map (·.1)) ∧ view.definitionNames = [.text "MapType", .text "MapType"] ∧
    ¬ Key.Distinct view.definitionNames := by
  have evaluated : (build (documentDefining clashingSchemas) "flow" {}).toOption.map definitionNames =
      some [.text "MapType", .text "MapType"] := by decide +kernel
  obtain ⟨view, built, names⟩ := Outcome.eq_ok_of_toOption_map evaluated
  refine ⟨view, built, rfl, by decide, names, ?_⟩
  rw [names]
  decide

def reservedSchemas : List (Key × Value) :=
  [(.text "Map", .object [(.text "type", .text "string")]),
    (.text "Page", .object [(.text "type", .text "number")])]

theorem build_exports_distinct_reserved : ∃ flow typescript,
    build (documentDefining reservedSchemas) "flow" {} = .ok flow ∧
    flow.definitionNames = [.text "MapType", .text "Page"] ∧ Key.Distinct flow.definitionNames ∧
    build (documentDefining clashingSchemas) "typescript" {} = .ok typescript ∧
    typescript.definitionNames = [.text "Map", .text "MapType"] ∧ Key.Distinct typescript.definitionNames := by
  have evaluated : (build (documentDefining reservedSchemas) "flow" {}).toOption.map definitionNames =
      some [.text "MapType", .text "Page"] := by decide +kernel
  have evaluatedToo : (build (documentDefining clashingSchemas) "typescript" {}).toOption.map definitionNames =
      some [.text "Map", .text "MapType"] := by decide +kernel
  obtain ⟨flow, built, names⟩ := Outcome.eq_ok_of_toOption_map evaluated
  obtain ⟨typescript, builtToo, namesToo⟩ := Outcome.eq_ok_of_toOption_map evaluatedToo
  refine ⟨flow, typescript, built, names, ?_, builtToo, namesToo, ?_⟩
  · exact ((build_exports_distinct built rfl (by decide)).2.1 rfl).mpr (by decide +kernel)
  · exact (build_exports_distinct builtToo rfl (by decide)).1 (by decide)

/-- Wherever a type of a view refers to a definition of the document, it does so by the name under which the view
exports this definition. In Flow no reference and no exported name is a reserved word. -/
theorem build_references_exported (built : build document target options = .ok view) :
    ∃ schemas, schemasOf document = .ok schemas ∧
      List.Forall₂ (fun schema definition =>
        ∀ reference ∈ view.references (exportDialect target), ∀ name, reference.target = some name →
          schema.1 = .text name → definition.name = .text reference.text)
        schemas view.definitions ∧
      (∀ dialect, ∀ reference ∈ view.references dialect, ∃ name, reference.target = some name) ∧
      (∀ reference ∈ view.references .flow, reference.text ∉ Dialect.flow.reservedWords) ∧
      (target = "flow" → ∀ definition ∈ view.definitions, ∀ word ∈ Dialect.flow.reservedWords,
        definition.name ≠ .text word) := by
  obtain ⟨schemas, listed, each⟩ := definitionsFor_eq_ok (build_definitions built)
  -- What a reference says is the name under which its own dialect declares the definition.
  have named {dialect : Dialect} {reference : TypeExpr} (among : reference ∈ view.references dialect) :
      ∃ name, reference.target = some name ∧ reference.text = dialect.typeName name := by
    obtain ⟨within, isRef⟩ := List.mem_filter.mp among
    obtain ⟨type, listed, within⟩ := List.mem_flatMap.mp within
    obtain ⟨schema, converted⟩ := build_converts built dialect type listed
    exact Dialect.typeOf_refersByName converted reference (TypeExpr.node_iff_mem.mpr within)
      (of_decide_eq_true isRef)
  refine ⟨schemas, listed, ?_, fun dialect reference among => ?_, fun reference among => ?_,
    fun isFlow definition among word reserved same => ?_⟩
  · refine each.imp fun schema definition here reference among name refers key => ?_
    obtain ⟨other, same, text⟩ := named among
    obtain rfl : other = name := Option.some.inj (same.symm.trans refers)
    rw [here.1, key, text]
    rfl
  · obtain ⟨name, refers, _⟩ := named among
    exact ⟨name, refers⟩
  · obtain ⟨name, _, text⟩ := named among
    rw [text]
    exact Dialect.typeName_notMem_reservedWords _ _
  -- Only a key that is a text is exported as a text, and then by the name of its type.
  · obtain ⟨schema, _, exported, _⟩ := Outcome.exists_of_forall₂ each among
    rw [same, exportDialect, if_pos isFlow] at exported
    cases key : schema.1 with
    | text name =>
      rw [key] at exported
      obtain rfl := Key.text.inj exported
      exact Dialect.typeName_notMem_reservedWords _ _ reserved
    | _ =>
      rw [key] at exported
      cases exported

def nestedReferences : Value :=
  let refersTo (path : String) : Value := .object [(.text "$ref", .text path)]
  .object [
    (.text "swagger", .text "2.0"),
    (.text "paths", .object [(.text "/maps", .object [(.text "post", .object [
      (.text "parameters", .list [.object [(.text "name", .text "maps"), (.text "in", .text "body"),
        (.text "schema", .object [(.text "type", .text "array"), (.text "items", refersTo "#/definitions/Map")])]]),
      (.text "responses", .object [(.text "200", .object [(.text "schema", refersTo "Map")])])])])]),
    (.text "definitions", .object [
      (.text "Map", .object [(.text "properties", .object [(.text "next", refersTo "other/Map")])])])]

theorem build_references_exported_nested : ∃ view, build nestedReferences "flow" {} = .ok view ∧
    (view.references .flow).map (·.text) = ["MapType", "MapType", "MapType"] ∧
    ∃ schemas, schemasOf nestedReferences = .ok schemas ∧
      List.Forall₂ (fun schema definition =>
        ∀ reference ∈ view.references .flow, ∀ name, reference.target = some name →
          schema.1 = .text name → definition.name = .text reference.text)
        schemas view.definitions ∧
      ∀ reference ∈ view.references .flow, reference.text ∉ Dialect.flow.reservedWords := by
  have evaluated : (build nestedReferences "flow" {}).toOption.map
      (fun view => (view.references .flow).map (·.text)) = some ["MapType", "MapType", "MapType"] := by
    decide +kernel
  obtain ⟨view, built, texts⟩ := Outcome.eq_ok_of_toOption_map evaluated
  obtain ⟨schemas, listed, exported, _, free, _⟩ := build_references_exported built
  exact ⟨view, built, texts, schemas, listed, exported, free⟩

end View

end ClientGen
