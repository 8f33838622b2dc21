import ClientGen.Proofs.Client.Extension
import ClientGen.Proofs.Schema.Locality
import ClientGen.Proofs.Schema.Recursion

/-! What a view has to do with the definitions of its document. Only those count which the schemas of its
operations and parameters reach along links, except where the definitions are listed themselves. -/

set_option autoImplicit false

namespace ClientGen

open SchemaType
open Value (AgreeOutside)

namespace View

inductive SchemaOf (document : Value) : Value → Prop where
  | operation {paths : List (Key × Value)} {operations : List Operation} {operation : Operation} {schema : Value} :
      pathsOf document = .ok paths → operationsIn paths = .ok operations → operation ∈ operations →
      operation.SchemaOf document schema → SchemaOf document schema

theorem build_local {first second : Value} {target : String} {options : Options} {left right : View}
    (agree : AgreeOutside ["definitions"] first second)
    (reached : ∀ schema name, SchemaOf first schema → Reaches (SchemaType.definitionsFor first) schema name →
      SameAt (SchemaType.definitionsFor first) (SchemaType.definitionsFor second) name)
    (built : build first target options = .ok left) (other : build second target options = .ok right) :
    { left with definitions := right.definitions } = right := by
  obtain ⟨start, paths, operations, final, _, headed, listed, read, ran, _, rfl⟩ := build_eq_ok.mp built
  obtain ⟨otherStart, otherPaths, others, otherFinal, _, otherHeaded, otherListed, otherRead, otherRan, _, rfl⟩ :=
    build_eq_ok.mp other
  -- Both views start alike and have the same operations to add.
  have sameStart : start = otherStart := by
    rw [header_congr_of agree (by decide), otherHeaded] at headed
    exact (Except.ok.inj headed).symm
  have samePaths : paths = otherPaths := by
    unfold pathsOf at listed otherListed
    rw [agree.field_eq (by decide), otherListed] at listed
    exact (Except.ok.inj listed).symm
  subst sameStart samePaths
  obtain rfl := Except.ok.inj (read.symm.trans otherRead)
  have sameMethod (operation : Operation) (among : operation ∈ operations) (name : String) :
      operation.method first name options.className = operation.method second name options.className := by
    refine Operation.method_congr_of agree (by decide) (fun schema of dialect => ?_) name options.className
    exact dialect.typeOf_local schema fun name => reached schema name (.operation listed read among of)
  have rerun := Assembly.foldlM_addOrFail_eq_ok.mpr (otherRan.congr_of sameMethod)
  rw [Assembly.foldlM_addOrFail_eq_ok.mpr ran] at rerun
  cases rerun
  rfl

end View

/-- A conversion depends on its document only through the definitions that its schema reaches along links, in
either dialect and also where it fails. So definitions that are added change no conversion that succeeds, and
views of documents that differ in definitions which no schema of an operation or parameter reaches are the same but
for the definitions they list. -/
theorem conversion_local :
    (∀ (dialect : Dialect) (first second schema : Value),
      (∀ name, Reaches (definitionsFor first) schema name →
        SameAt (definitionsFor first) (definitionsFor second) name) →
      dialect.typeOf first schema = dialect.typeOf second schema) ∧
    (∀ (dialect : Dialect) (first second schema : Value) (type : TypeExpr),
      Extends (definitionsFor first) (definitionsFor second) → dialect.typeOf first schema = .ok type →
      dialect.typeOf second schema = .ok type) ∧
    ∀ (first second : Value) (target : String) (options : View.Options) (left right : View),
      AgreeOutside ["definitions"] first second →
      (∀ schema name, View.SchemaOf first schema → Reaches (definitionsFor first) schema name →
        SameAt (definitionsFor first) (definitionsFor second) name) →
      View.build first target options = .ok left → View.build second target options = .ok right →
      { left with definitions := right.definitions } = right :=
  ⟨fun dialect _ _ schema => dialect.typeOf_local schema,
    fun dialect _ _ _ _ more => dialect.typeOf_extends more,
    fun _ _ _ _ _ _ agree reached => View.build_local agree reached⟩

def composedAnswer (path : String) : Value :=
  .object [(.text "responses", .object [(.text "200", .object [(.text "schema", composedOf path)])])]

def answering (definitions : List (Key × Value)) : Value :=
  .object [(.text "swagger", .text "2.0"),
    (.text "paths", .object [(.text "/a", .object [(.text "get", composedAnswer "#/definitions/Node")])]),
    (.text "definitions", .object definitions)]

def nodeAlone : List (Key × Value) := [(.text "Node", withNext (referenceTo "#/definitions/Other"))]

def nodeAndOther : List (Key × Value) := nodeAlone ++ [(.text "Other", withNext (referenceTo "#/definitions/Node"))]

theorem schemaOf_answering {definitions : List (Key × Value)} {schema : Value}
    (of : View.SchemaOf (answering definitions) schema) : schema = composedOf "#/definitions/Node" := by
  obtain ⟨listed, read, among, of⟩ := of
  cases listed
  have evaluated : View.operationsIn
      [(.text "/a", .object [(.text "get", composedAnswer "#/definitions/Node")])] =
        .ok [⟨.text "/a", .text "get", composedAnswer "#/definitions/Node", .list []⟩] := rfl
  rw [evaluated] at read
  cases read
  rw [List.mem_singleton] at among
  cases among
  -- There is one answer with one schema, and there are no parameters.
  cases of with
  | response of =>
    obtain ⟨asked, entered, among, _, described, _⟩ := of
    cases asked
    cases entered
    rw [List.mem_singleton] at among
    cases among
    cases described
    rfl
  | parameter own of =>
    cases own
    cases of with
    | entry listed among => cases listed; cases among
    | referred listed among => cases listed; cases among

theorem reaches_answering {name : String}
    (reaches : Reaches (definitionsFor (answering nodeAlone)) (composedOf "#/definitions/Node") name) :
    name = "Node" := by
  have node : refName "#/definitions/Node" = "Node" := by decide +kernel
  obtain ⟨first, meets, along⟩ := reaches
  rw [meetsName_composedOf meets, node] at along
  rcases along.cases_head with rfl | ⟨_, ⟨_, defined, mentioned⟩, _⟩
  · rfl
  · cases defined
    exact absurd mentioned (not_meetsName_mention _ _)

/-- A definition is added that is mentioned by the one that is reached and is not reached itself. -/
theorem conversion_local_mentioned :
    Reaches (definitionsFor (answering nodeAlone)) (composedOf "#/definitions/Node") "Node" ∧
    (∃ type, Dialect.flow.typeOf (answering nodeAlone) (composedOf "#/definitions/Node") = .ok type ∧
      Dialect.flow.typeOf (answering nodeAndOther) (composedOf "#/definitions/Node") = .ok type) ∧
    Dialect.typescript.typeOf (answering nodeAlone) (composedOf "#/definitions/Node") =
      Dialect.typescript.typeOf (answering nodeAndOther) (composedOf "#/definitions/Node") ∧
    ∃ left right, View.build (answering nodeAlone) "flow" {} = .ok left ∧
      View.build (answering nodeAndOther) "flow" {} = .ok right ∧
      left.definitions.length = 1 ∧ right.definitions.length = 2 ∧
      { left with definitions := right.definitions } = right := by
  have node : refName "#/definitions/Node" = "Node" := by decide +kernel
  have same (name : String)
      (reaches : Reaches (definitionsFor (answering nodeAlone)) (composedOf "#/definitions/Node") name) :
      SameAt (definitionsFor (answering nodeAlone)) (definitionsFor (answering nodeAndOther)) name := by
    rw [reaches_answering reaches]
    exact ⟨rfl, rfl⟩
  have more : Extends (definitionsFor (answering nodeAlone)) (definitionsFor (answering nodeAndOther)) := by
    intro name definition defined
    have alone : definitionsFor (answering nodeAlone) = .ok (.object nodeAlone) := rfl
    by_cases here : name = "Node"
    · subst here
      exact defined
    · rw [alone] at defined
      simp [definitionAt, Except.toOption, nodeAlone, Value.get?, Key.lookup, here] at defined
  have agree : AgreeOutside ["definitions"] (answering nodeAlone) (answering nodeAndOther) := by
    refine ⟨⟨_, rfl⟩, ⟨_, rfl⟩, fun name other => ?_⟩
    rw [List.mem_singleton] at other
    simp [answering, Value.get?, Key.lookup, other]
  obtain ⟨everywhere, added, views⟩ := conversion_local
  refine ⟨?_, ?_, everywhere .typescript _ _ _ same, ?_⟩
  · rw [← node]
    exact .of_refers (.member rfl rfl List.mem_cons_self rfl)
  · have evaluated : (Dialect.flow.typeOf (answering nodeAlone) (composedOf "#/definitions/Node")).toOption.map
        (·.text) = some "\x7b| next?: Other |\x7d" := by decide +kernel
    obtain ⟨type, typed, _⟩ := Outcome.eq_ok_of_toOption_map evaluated
    exact ⟨type, typed, added .flow _ _ _ type more typed⟩
  · have first : (View.build (answering nodeAlone) "flow" {}).toOption.map (·.definitions.length) = some 1 := by
      decide +kernel
    have second : (View.build (answering nodeAndOther) "flow" {}).toOption.map (·.definitions.length) =
        some 2 := by decide +kernel
    obtain ⟨left, built, one⟩ := Outcome.eq_ok_of_toOption_map first
    obtain ⟨right, other, two⟩ := Outcome.eq_ok_of_toOption_map second
    refine ⟨left, right, built, other, one, two, views _ _ _ _ left right agree ?_ built other⟩
    intro schema name of
    rw [schemaOf_answering of]
    exact same name

end ClientGen
