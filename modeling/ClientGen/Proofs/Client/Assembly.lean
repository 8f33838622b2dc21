import ClientGen.Client.View
import ClientGen.Outcome
import Mathlib.Data.List.Basic

/-! The walk through a document as a run of single steps, each of which adds the method of one operation. A
view is built exactly when its header can be read, the run over all operations of the document ends and its
definitions have types. -/

set_option autoImplicit false

namespace ClientGen

theorem Operation.method_name {document : Value} {operation : Operation} {name : String}
    {className : Option String} {method : Method}
    (made : operation.method document name className = .ok method) : method.name = name := by
  simp only [Operation.method, Outcome.bind_eq_ok] at made
  obtain ⟨_, _, _, _, _, _, _, _, _, _, _, _, _, _, _, _, _, _, made⟩ := made
  cases made
  rfl

theorem Operation.method_parts {document : Value} {operation : Operation} {name : String}
    {className : Option String} {method : Method}
    (made : operation.method document name className = .ok method) :
    method.path = operation.path ∧ operation.verbWord = .ok method.verb ∧
      Security.ofOperation document operation.details = .ok method.security ∧
      ∃ entries, operation.details = .object entries := by
  simp only [Operation.method, Outcome.bind_eq_ok] at made
  obtain ⟨verb, spoken, description, described, _, _, security, secured, _, _, _, _, _, _, _, _, _, _,
    made⟩ := made
  cases made
  refine ⟨rfl, spoken, secured, ?_⟩
  -- Only of an object can a field be asked, be it there or not.
  cases details : operation.details with
  | object entries => exact ⟨entries, rfl⟩
  | _ => rw [details] at described; cases described

namespace Assembly

variable {document : Value} {className : Option String}

/-- What one step can do: the name is refused, the method fails under the name that was given out, or both
succeed. -/
theorem add_cases (assembly : Assembly) (operation : Operation) :
    (∃ failure, operation.candidate = .error failure ∧
      assembly.add document operation className = (assembly, .error failure)) ∨
    ∃ candidate, operation.candidate = .ok candidate ∧
      ((∃ failure,
        operation.method document (Naming.unique candidate assembly.used) className = .error failure ∧
        assembly.add document operation className =
          ({ assembly with used := assembly.used ++ [Naming.unique candidate assembly.used] },
            .error failure)) ∨
      ∃ method, method.name = Naming.unique candidate assembly.used ∧
        operation.method document (Naming.unique candidate assembly.used) className = .ok method ∧
        assembly.add document operation className =
          (⟨assembly.view.addMethod method, assembly.used ++ [method.name]⟩, .ok method)) := by
  cases suggested : operation.candidate with
  | error failure => exact .inl ⟨failure, rfl, by simp [add, suggested]⟩
  | ok candidate =>
    refine .inr ⟨candidate, rfl, ?_⟩
    cases made : operation.method document (Naming.unique candidate assembly.used) className with
    | error failure => exact .inl ⟨failure, rfl, by simp [add, suggested, Naming.giveOut, made]⟩
    | ok method =>
      have named := Operation.method_name made
      exact .inr ⟨method, named, rfl, by simp [add, suggested, Naming.giveOut, made, named]⟩

/-- A run that adds the methods of operations one after another, and ends. -/
inductive Run (document : Value) (className : Option String) :
    Assembly → List Operation → Assembly → Prop where
  | done (assembly : Assembly) : Run document className assembly [] assembly
  | next {assembly final : Assembly} {operation : Operation} {rest : List Operation}
      {candidate : String} {method : Method} :
      operation.candidate = .ok candidate → method.name = Naming.unique candidate assembly.used →
      operation.method document method.name className = .ok method →
      Run document className ⟨assembly.view.addMethod method, assembly.used ++ [method.name]⟩ rest final →
      Run document className assembly (operation :: rest) final

theorem addOrFail_eq_ok {assembly next : Assembly} {operation : Operation} :
    addOrFail document className assembly operation = .ok next ↔
      ∃ candidate method, operation.candidate = .ok candidate ∧
        method.name = Naming.unique candidate assembly.used ∧
        operation.method document method.name className = .ok method ∧
        next = ⟨assembly.view.addMethod method, assembly.used ++ [method.name]⟩ := by
  unfold addOrFail
  -- There are three things that a step can do, and only the last of them leaves an assembly.
  rcases @add_cases document className assembly operation with
    ⟨failure, suggested, added⟩ |
    ⟨candidate, suggested, ⟨failure, made, added⟩ | ⟨method, named, made, added⟩⟩
  · simp [added, suggested]
  · simp only [added, suggested]
    constructor
    · intro impossible
      cases impossible
    · rintro ⟨_, method, same, named, other, _⟩
      cases same
      rw [named, made] at other
      cases other
  · simp only [added, suggested]
    constructor
    · intro same
      cases same
      exact ⟨candidate, method, rfl, named, named ▸ made, rfl⟩
    · rintro ⟨_, other, same, otherNamed, otherMade, rfl⟩
      cases same
      rw [otherNamed, made] at otherMade
      cases otherMade
      rfl

theorem foldlM_addOrFail_eq_ok {operations : List Operation} {assembly final : Assembly} :
    operations.foldlM (addOrFail document className) assembly = .ok final ↔
      Run document className assembly operations final := by
  induction operations generalizing assembly with
  | nil =>
    constructor
    · intro same
      cases same
      exact .done _
    · intro ran
      cases ran
      rfl
  | cons operation rest ih =>
    rw [List.foldlM_cons, Outcome.bind_eq_ok]
    constructor
    · rintro ⟨next, added, ran⟩
      obtain ⟨candidate, method, suggested, named, made, rfl⟩ := addOrFail_eq_ok.mp added
      exact .next suggested named made (ih.mp ran)
    · intro ran
      cases ran with
      | next suggested named made rest =>
        exact ⟨_, addOrFail_eq_ok.mpr ⟨_, _, suggested, named, made, rfl⟩, ih.mpr rest⟩

theorem Run.append {assembly middle final : Assembly} {first rest : List Operation}
    (ran : Run document className assembly first middle)
    (continued : Run document className middle rest final) :
    Run document className assembly (first ++ rest) final := by
  induction ran with
  | done => exact continued
  | next suggested named made _ ih => exact .next suggested named made (ih continued)

theorem Run.split {assembly final : Assembly} {first rest : List Operation}
    (ran : Run document className assembly (first ++ rest) final) :
    ∃ middle, Run document className assembly first middle ∧ Run document className middle rest final := by
  induction first generalizing assembly with
  | nil => exact ⟨assembly, .done assembly, ran⟩
  | cons operation first ih =>
    cases ran with
    | next suggested named made continued =>
      obtain ⟨middle, before, after⟩ := ih continued
      exact ⟨middle, .next suggested named made before, after⟩

theorem Run.methods {assembly final : Assembly} {operations : List Operation}
    (ran : Run document className assembly operations final) :
    ∃ methods, final.view.methods = assembly.view.methods ++ methods ∧
      List.Forall₂ (fun operation method => operation.method document method.name className = .ok method)
        operations methods := by
  induction ran with
  | done => exact ⟨[], (List.append_nil _).symm, .nil⟩
  | @next _ _ _ _ _ method _ _ made _ ih =>
    obtain ⟨methods, whole, each⟩ := ih
    refine ⟨method :: methods, ?_, .cons made each⟩
    rw [whole, View.addMethod, List.append_assoc, List.singleton_append]

end Assembly

namespace View

theorem header_methods {document : Value} {target : String} {options : Options} {start : View}
    (headed : header document target options = .ok start) : start.methods = [] := by
  simp only [header, Outcome.bind_eq_ok] at headed
  obtain ⟨_, _, _, _, _, _, _, _, _, _, _, _, _, _, same⟩ := headed
  cases same
  rfl

def operationsIn (paths : List (Key × Value)) : Except Failure (List Operation) := do
  return (← paths.mapM fun path => operationsOf path.1 path.2).flatten

theorem operationsIn_cons_eq_ok {path : Key × Value} {rest : List (Key × Value)}
    {operations : List Operation} :
    operationsIn (path :: rest) = .ok operations ↔
      ∃ first others, operationsOf path.1 path.2 = .ok first ∧ operationsIn rest = .ok others ∧
        operations = first ++ others := by
  simp only [operationsIn, List.mapM_cons, Outcome.bind_eq_ok, Outcome.pure_eq, Except.ok.injEq]
  constructor
  · rintro ⟨_, ⟨first, read, others, readRest, rfl⟩, rfl⟩
    exact ⟨first, others.flatten, read, ⟨others, readRest, rfl⟩, rfl⟩
  · rintro ⟨first, _, read, ⟨others, readRest, rfl⟩, rfl⟩
    exact ⟨first :: others, ⟨first, read, others, readRest, rfl⟩, rfl⟩

theorem foldlM_addPath_eq_ok {document : Value} {className : Option String}
    {paths : List (Key × Value)} {assembly final : Assembly} :
    paths.foldlM (Assembly.addPath document className) assembly = .ok final ↔
      ∃ operations, operationsIn paths = .ok operations ∧
        Assembly.Run document className assembly operations final := by
  induction paths generalizing assembly with
  | nil =>
    constructor
    · intro same
      cases same
      exact ⟨[], rfl, .done _⟩
    · rintro ⟨operations, read, ran⟩
      cases read
      cases ran
      rfl
  | cons path rest ih =>
    simp only [List.foldlM_cons, Outcome.bind_eq_ok, Assembly.addPath, operationsIn_cons_eq_ok,
      Assembly.foldlM_addOrFail_eq_ok, ih]
    constructor
    · rintro ⟨middle, ⟨first, read, before⟩, others, readRest, after⟩
      exact ⟨_, ⟨first, others, read, readRest, rfl⟩, before.append after⟩
    · rintro ⟨_, ⟨first, others, read, readRest, rfl⟩, ran⟩
      obtain ⟨middle, before, after⟩ := ran.split
      exact ⟨middle, ⟨first, read, before⟩, others, readRest, after⟩

/-- A view is built exactly when its header, its operations and its definitions can be read and the run over
the operations ends. -/
theorem build_eq_ok {document : Value} {target : String} {options : Options} {view : View} :
    build document target options = .ok view ↔
      ∃ start paths operations final definitions, header document target options = .ok start ∧
        pathsOf document = .ok paths ∧ operationsIn paths = .ok operations ∧
        Assembly.Run document options.className ⟨start, []⟩ operations final ∧
        definitionsFor document target = .ok definitions ∧ view = { final.view with definitions } := by
  simp only [build, Outcome.bind_eq_ok, Outcome.pure_eq, Except.ok.injEq, foldlM_addPath_eq_ok]
  constructor
  · rintro ⟨start, headed, paths, listed, final, ⟨operations, read, ran⟩, definitions, typed, rfl⟩
    exact ⟨start, paths, operations, final, definitions, headed, listed, read, ran, typed, rfl⟩
  · rintro ⟨start, paths, operations, final, definitions, headed, listed, read, ran, typed, rfl⟩
    exact ⟨start, headed, paths, listed, final, ⟨operations, read, ran⟩, definitions, typed, rfl⟩

end View

end ClientGen
