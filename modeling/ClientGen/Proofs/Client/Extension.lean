import ClientGen.Proofs.Client.Agreement
import ClientGen.Proofs.Client.Assembly
import ClientGen.Proofs.Outcome

/-! Documents that grow at the end. What a view says of the operations of a document does not depend on the
operations that follow them: a later operation never renames an earlier one, and only raises flags. -/

set_option autoImplicit false

namespace ClientGen

structure Security.Implies (first second : Security) : Prop where
  isSecure : first.isSecure = true → second.isSecure = true
  token : first.token = true → second.token = true
  apiKey : first.apiKey = true → second.apiKey = true
  basic : first.basic = true → second.basic = true

namespace Security.Implies

theorem refl (security : Security) : security.Implies security := ⟨id, id, id, id⟩

theorem trans {first second third : Security} (left : first.Implies second)
    (right : second.Implies third) : first.Implies third :=
  ⟨right.isSecure ∘ left.isSecure, right.token ∘ left.token, right.apiKey ∘ left.apiKey,
    right.basic ∘ left.basic⟩

theorem raise (security method : Security) : security.Implies (security.raise method) := by
  unfold Security.raise
  split
  · exact ⟨id, fun flag => by simp [flag], fun flag => by simp [flag], fun flag => by simp [flag]⟩
  · exact refl security

end Security.Implies

namespace Assembly.Run

variable {className : Option String} {assembly final : Assembly} {operations : List Operation}

theorem grows {document : Value} (ran : Run document className assembly operations final) :
    assembly.view.methods <+: final.view.methods ∧
      assembly.view.security.Implies final.view.security := by
  induction ran with
  | done => exact ⟨List.prefix_refl _, .refl _⟩
  -- Each step appends one method and can raise flags; both go along with the rest of the run.
  | @next assembly _ _ _ _ method _ _ _ _ ih =>
    exact ⟨(List.prefix_append _ _).trans ih.1,
      (Security.Implies.raise assembly.view.security method.security).trans ih.2⟩

theorem congr_of {first second : Value}
    (same : ∀ operation ∈ operations, ∀ name,
      operation.method first name className = operation.method second name className)
    (ran : Run second className assembly operations final) :
    Run first className assembly operations final := by
  induction ran with
  | done => exact .done _
  | next suggested named made _ ih =>
    refine .next suggested named ((same _ List.mem_cons_self _).trans made) (ih fun other among => ?_)
    exact same other (List.mem_cons_of_mem _ among)

theorem congr {first second : Value} (agree : first.AgreeOutside ["paths"] second)
    (ran : Run second className assembly operations final) :
    Run first className assembly operations final :=
  ran.congr_of fun operation _ name => operation.method_congr agree name className

end Assembly.Run

namespace View

theorem operationsIn_append_eq_ok {paths more : List (Key × Value)} {operations : List Operation} :
    operationsIn (paths ++ more) = .ok operations ↔
      ∃ first others, operationsIn paths = .ok first ∧ operationsIn more = .ok others ∧
        operations = first ++ others := by
  induction paths generalizing operations with
  | nil => simp [operationsIn]
  | cons path rest ih =>
    rw [List.cons_append]
    simp only [operationsIn_cons_eq_ok, ih]
    constructor
    · rintro ⟨here, _, read, ⟨first, others, readFirst, readOthers, rfl⟩, rfl⟩
      exact ⟨_, others, ⟨here, first, read, readFirst, rfl⟩, readOthers, (List.append_assoc _ _ _).symm⟩
    · rintro ⟨_, others, ⟨here, first, read, readFirst, rfl⟩, readOthers, rfl⟩
      exact ⟨here, _, read, ⟨first, others, readFirst, readOthers, rfl⟩, List.append_assoc _ _ _⟩

def ShareNothing (entries : List (Key × Value)) : Prop :=
  ∀ key value, (Key.text key, value) ∈ entries → Text.lower key ≠ "parameters"

theorem foldlM_shareEntry {entries : List (Key × Value)} {shared result : Value}
    (nothing : ShareNothing entries) (read : entries.foldlM shareEntry shared = .ok result) :
    result = shared := by
  induction entries generalizing shared with
  | nil => cases read; rfl
  | cons entry rest ih =>
    rw [List.foldlM_cons, Outcome.bind_eq_ok] at read
    obtain ⟨next, here, read⟩ := read
    obtain ⟨key, value⟩ := entry
    cases key with
    | text key =>
      have other := nothing key value (by simp)
      simp only [shareEntry, if_neg other, Except.ok.injEq] at here
      subst next
      exact ih (fun key value member => nothing key value (by simp [member])) read
    | _ => cases here

theorem operationsOf_append {path : Key} {entries more : List (Key × Value)} {operations : List Operation}
    (nothing : ShareNothing more) (read : operationsOf path (.object (entries ++ more)) = .ok operations) :
    ∃ first others, operationsOf path (.object entries) = .ok first ∧ operations = first ++ others := by
  simp only [operationsOf, Value.entries, sharedParameters, Outcome.ok_bind, List.foldlM_append,
    Outcome.bind_eq_ok] at read ⊢
  -- The shared parameters are collected from all entries first, also from those that were added.
  obtain ⟨shared, ⟨before, readBefore, readMore⟩, same⟩ := read
  obtain rfl := foldlM_shareEntry nothing readMore
  cases same
  simp only [List.filter_append, List.map_append]
  exact ⟨_, _, ⟨shared, readBefore, rfl⟩, rfl⟩

/-- The paths of a document that has grown at its end: more paths follow, or more entries follow those of
the last path and share no parameters. -/
inductive GrowsTo : List (Key × Value) → List (Key × Value) → Prop where
  | paths (before more : List (Key × Value)) : GrowsTo before (before ++ more)
  | entries (before : List (Key × Value)) (path : Key) (entries more : List (Key × Value)) :
      ShareNothing more →
      GrowsTo (before ++ [(path, .object entries)]) (before ++ [(path, .object (entries ++ more))])

theorem GrowsTo.operationsIn {shorter longer : List (Key × Value)} {operations : List Operation}
    (grows : GrowsTo shorter longer) (read : operationsIn longer = .ok operations) :
    ∃ first others, View.operationsIn shorter = .ok first ∧ operations = first ++ others := by
  cases grows with
  | paths before more =>
    obtain ⟨first, others, readFirst, _, same⟩ := operationsIn_append_eq_ok.mp read
    exact ⟨first, others, readFirst, same⟩
  | entries before path entries more nothing =>
    obtain ⟨first, _, readFirst, readLast, rfl⟩ := operationsIn_append_eq_ok.mp read
    obtain ⟨last, _, readPath, none, rfl⟩ := operationsIn_cons_eq_ok.mp readLast
    cases none
    obtain ⟨kept, others, readKept, rfl⟩ := operationsOf_append nothing readPath
    refine ⟨first ++ kept, others, ?_, by simp⟩
    exact operationsIn_append_eq_ok.mpr ⟨first, kept, readFirst,
      operationsIn_cons_eq_ok.mpr ⟨kept, [], readKept, rfl, by simp⟩, rfl⟩

/-- When a document that grew at its end has a view, then so had the document before it grew: the same
methods come first, the definitions are the same, and no flag has been cleared. -/
theorem build_before_growth {first second : Value} {shorter longer : List (Key × Value)} {target : String}
    {options : Options} {view : View} (agree : first.AgreeOutside ["paths"] second)
    (before : pathsOf first = .ok shorter) (after : pathsOf second = .ok longer)
    (grows : GrowsTo shorter longer) (built : build second target options = .ok view) :
    ∃ earlier, build first target options = .ok earlier ∧ earlier.methods <+: view.methods ∧
      earlier.definitions = view.definitions ∧ earlier.security.Implies view.security := by
  obtain ⟨start, paths, operations, final, definitions, headed, listed, read, ran, typed, rfl⟩ :=
    build_eq_ok.mp built
  obtain rfl : paths = longer := Except.ok.inj (listed.symm.trans after)
  -- The run over the longer document passes through the state in which the shorter one is done.
  obtain ⟨kept, others, readKept, rfl⟩ := grows.operationsIn read
  obtain ⟨middle, ranKept, ranOthers⟩ := ran.split
  refine ⟨{ middle.view with definitions }, ?_, ranOthers.grows.1, rfl, ranOthers.grows.2⟩
  rw [build_eq_ok]
  exact ⟨start, shorter, kept, middle, definitions, (header_congr agree _ _).trans headed, before,
    readKept, ranKept.congr agree, (definitionsFor_congr agree _).trans typed, rfl⟩

def documentOf (paths : List (Key × Value)) : Value :=
  .object [(.text "swagger", .text "2.0"), (.text "paths", .object paths)]

theorem agree_documentOf (first second : List (Key × Value)) :
    (documentOf first).AgreeOutside ["paths"] (documentOf second) := by
  refine ⟨⟨_, rfl⟩, ⟨_, rfl⟩, fun name other => ?_⟩
  rw [List.mem_singleton] at other
  simp [documentOf, Value.get?, Key.lookup, other]

def operationCalled (name : String) : Value := .object [(.text "operationId", .text name)]

def oneOperation : List (Key × Value) :=
  [(.text "/a", .object [(.text "get", operationCalled "list")])]

def twoOperations : List (Key × Value) :=
  [(.text "/a", .object [(.text "get", operationCalled "list"), (.text "post", operationCalled "list")])]

def twoPaths : List (Key × Value) :=
  twoOperations ++ [(.text "/b", .object [(.text "get", operationCalled "list_1")])]

theorem build_before_growth_repeated :
    ∃ view earlier earliest, build (documentOf twoPaths) "typescript" {} = .ok view ∧
      view.methodNames = ["list", "list_1", "list_1_1"] ∧
      build (documentOf twoOperations) "typescript" {} = .ok earlier ∧
      earlier.methods <+: view.methods ∧ earlier.definitions = view.definitions ∧
      earlier.security.Implies view.security ∧
      build (documentOf oneOperation) "typescript" {} = .ok earliest ∧
      earliest.methods <+: earlier.methods ∧ earliest.definitions = earlier.definitions ∧
      earliest.security.Implies earlier.security := by
  have evaluated : (build (documentOf twoPaths) "typescript" {}).toOption.map methodNames =
      some ["list", "list_1", "list_1_1"] := by decide +kernel
  obtain ⟨view, built, names⟩ := Outcome.eq_ok_of_toOption_map evaluated
  obtain ⟨earlier, builtTwo, methods, definitions, security⟩ :=
    build_before_growth (agree_documentOf twoOperations twoPaths) rfl rfl (.paths _ _) built
  have nothing : ShareNothing [(.text "post", operationCalled "list")] := by
    intro key value member
    rw [List.mem_singleton] at member
    cases member
    decide
  obtain ⟨earliest, builtOne, before⟩ :=
    build_before_growth (agree_documentOf oneOperation twoOperations) rfl rfl
      (.entries [] _ _ _ nothing) builtTwo
  exact ⟨view, earlier, earliest, built, names, builtTwo, methods, definitions, security, builtOne, before⟩

end View

end ClientGen
