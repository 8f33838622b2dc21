import ClientGen.Proofs.Client.Assembly
import ClientGen.Proofs.Naming.Unique
import ClientGen.Proofs.Outcome

/-! Single steps of an assembly, some of which fail. A step that fails leaves the view alone; the name that it
was given, if it came so far, stays in use and is not given out again. -/

set_option autoImplicit false

namespace ClientGen.Assembly

structure Step where
  document : Value
  operation : Operation
  className : Option String := none

def outcome (assembly : Assembly) (step : Step) : Except Failure Method :=
  (assembly.add step.document step.operation step.className).2

/-- What a step leaves behind, also when it fails. -/
def next (assembly : Assembly) (step : Step) : Assembly :=
  (assembly.add step.document step.operation step.className).1

def after (steps : List Step) : Assembly := steps.foldl next {}

theorem after_append_singleton (steps : List Step) (step : Step) :
    after (steps ++ [step]) = (after steps).next step := by
  rw [after, List.foldl_append]
  rfl

theorem next_of_outcome_ok {assembly : Assembly} {step : Step} {method : Method}
    (succeeded : assembly.outcome step = .ok method) :
    assembly.next step = ⟨assembly.view.addMethod method, assembly.used ++ [method.name]⟩ ∧
      method.name ∉ assembly.used := by
  unfold outcome at succeeded
  unfold next
  rcases @add_cases step.document step.className assembly step.operation with
    ⟨_, _, added⟩ | ⟨candidate, _, ⟨_, _, added⟩ | ⟨_, named, _, added⟩⟩ <;> rw [added] at succeeded ⊢ <;>
    cases succeeded
  refine ⟨rfl, ?_⟩
  rw [named]
  exact (Naming.unique_chosen candidate assembly.used).not_mem

theorem next_of_outcome_error {assembly : Assembly} {step : Step} {failure : Failure}
    (failed : assembly.outcome step = .error failure) :
    (step.operation.candidate = .error failure ∧ assembly.next step = assembly) ∨
      ∃ candidate, step.operation.candidate = .ok candidate ∧
        assembly.next step =
          ⟨assembly.view, assembly.used ++ [Naming.unique candidate assembly.used]⟩ := by
  unfold outcome at failed
  unfold next
  rcases @add_cases step.document step.className assembly step.operation with
    ⟨_, suggested, added⟩ | ⟨candidate, suggested, ⟨_, _, added⟩ | ⟨_, _, _, added⟩⟩ <;>
    rw [added] at failed ⊢ <;> cases failed
  · exact .inl ⟨suggested, rfl⟩
  · exact .inr ⟨candidate, suggested, rfl⟩

structure NamesInUse (assembly : Assembly) : Prop where
  distinct : assembly.view.methodNames.Nodup
  used : ∀ name ∈ assembly.view.methodNames, name ∈ assembly.used

theorem NamesInUse.next {assembly : Assembly} (inUse : NamesInUse assembly) (step : Step) :
    NamesInUse (assembly.next step) := by
  cases came : assembly.outcome step with
  | error failure =>
    -- The view is as before, and the names in use can only have become more.
    rcases next_of_outcome_error came with ⟨_, same⟩ | ⟨_, _, same⟩ <;> rw [same]
    · exact inUse
    · exact ⟨inUse.distinct, fun name member => List.mem_append_left _ (inUse.used name member)⟩
  | ok method =>
    obtain ⟨same, new⟩ := next_of_outcome_ok came
    have names : (assembly.view.addMethod method).methodNames =
        assembly.view.methodNames ++ [method.name] := by
      simp [View.methodNames, View.addMethod]
    rw [same]
    constructor <;> dsimp only <;> rw [names]
    · rw [← List.concat_eq_append]
      exact inUse.distinct.concat fun member => new (inUse.used _ member)
    · intro name member
      rcases List.mem_append.mp member with before | here
      · exact List.mem_append_left _ (inUse.used name before)
      · exact List.mem_append_right _ here

theorem namesInUse_after (steps : List Step) : NamesInUse (after steps) := by
  induction steps using List.reverseRecOn with
  | nil => exact ⟨List.nodup_nil, fun _ member => absurd member List.not_mem_nil⟩
  | append_singleton steps step ih =>
    rw [after_append_singleton]
    exact ih.next step

/-- However steps succeed and fail, the methods that there are have different names, all of which are in use. A
step that succeeds adds one method under a name that was new; one that fails leaves the view as it is, and
reserves nothing when its operation suggests no name, and otherwise the name that it was given. -/
theorem steps_reserve_names (steps : List Step) :
    (after steps).view.methodNames.Nodup ∧
    (∀ name ∈ (after steps).view.methodNames, name ∈ (after steps).used) ∧
    ∀ step,
      (∀ method, (after steps).outcome step = .ok method →
        (after (steps ++ [step])).view.methods = (after steps).view.methods ++ [method] ∧
        method.name ∉ (after steps).used ∧
        (after (steps ++ [step])).used = (after steps).used ++ [method.name]) ∧
      ∀ failure, (after steps).outcome step = .error failure →
        (after (steps ++ [step])).view = (after steps).view ∧
        ((step.operation.candidate = .error failure ∧
            (after (steps ++ [step])).used = (after steps).used) ∨
          ∃ candidate, step.operation.candidate = .ok candidate ∧
            (after (steps ++ [step])).used =
              (after steps).used ++ [Naming.unique candidate (after steps).used]) := by
  have inUse := namesInUse_after steps
  refine ⟨inUse.distinct, inUse.used, fun step => ?_⟩
  rw [after_append_singleton]
  constructor
  · intro method succeeded
    obtain ⟨same, new⟩ := next_of_outcome_ok succeeded
    rw [same]
    exact ⟨rfl, new, rfl⟩
  · intro failure failed
    rcases next_of_outcome_error failed with ⟨refused, same⟩ | ⟨candidate, suggested, same⟩ <;> rw [same]
    · exact ⟨rfl, .inl ⟨refused, rfl⟩⟩
    · exact ⟨rfl, .inr ⟨candidate, suggested, rfl⟩⟩

def duplicate (responses : Value) : Step where
  document := .object []
  operation := ⟨.text "/a", .text "get",
    .object [(.text "operationId", .text "dup"), (.text "responses", responses)], .null⟩

def nameless : Step := ⟨.object [], ⟨.text "/a", .text "get", .null, .null⟩, none⟩

/-- A name is reserved by a step whose responses cannot be read, and none by a step that has no name. -/
theorem steps_reserve_names_interrupted :
    (∃ method, (after [duplicate .null, duplicate (.int 1), nameless]).outcome (duplicate .null) = .ok method ∧
      method.name = "dup_2" ∧
      method.name ∉ (after [duplicate .null, duplicate (.int 1), nameless]).used) ∧
    (∃ failure, (after [duplicate .null]).outcome (duplicate (.int 1)) = .error failure ∧
      (after [duplicate .null, duplicate (.int 1)]).view = (after [duplicate .null]).view) ∧
    (after [duplicate .null, duplicate (.int 1), nameless]).used = ["dup", "dup_1"] ∧
    (after [duplicate .null, duplicate (.int 1), nameless]).view.methodNames.Nodup := by
  have named : ((after [duplicate .null, duplicate (.int 1), nameless]).outcome
      (duplicate .null)).toOption.map (·.name) = some "dup_2" := by decide +kernel
  obtain ⟨method, succeeded, name⟩ := Outcome.eq_ok_of_toOption_map named
  have whole := steps_reserve_names [duplicate .null, duplicate (.int 1), nameless]
  refine ⟨⟨method, succeeded, name, ((whole.2.2 _).1 method succeeded).2.1⟩, ?_, by decide +kernel, whole.1⟩
  have failed : ((after [duplicate .null]).outcome (duplicate (.int 1))).toOption.map (·.name) = none := by
    decide +kernel
  cases came : (after [duplicate .null]).outcome (duplicate (.int 1)) with
  | ok method => rw [came] at failed; cases failed
  | error failure =>
    exact ⟨failure, rfl, ((steps_reserve_names [duplicate .null]).2.2 _ |>.2 failure came).1⟩

end ClientGen.Assembly
