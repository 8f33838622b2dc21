import ClientGen.Client.View
import ClientGen.Outcome
import ClientGen.Proofs.Text.Case

/-! Names that are made of a verb and a path begin with the verb. A name that begins with no verb has to be asked for
by an identifier. -/

set_option autoImplicit false

namespace ClientGen

open Text (Narrow)

namespace Naming

theorem exists_pathMethodName (verb path : String) : ∃ rest, pathMethodName verb path = Text.lower verb ++ rest := by
  unfold pathMethodName
  dsimp only
  split
  · exact ⟨"", (String.append_empty).symm⟩
  · exact ⟨_, rfl⟩

/-- No part at the beginning of the name is a verb, and it has no number. -/
structure IsOwn (name : String) : Prop where
  narrow : Narrow name.toList
  verbless : ∀ start ∈ name.toList.inits, String.ofList (start.map Char.toUpper) ∉ supportedVerbs
  unnumbered : '_' ∉ name.toList

def isOwn (name : String) : Bool :=
  name.toList.all (·.toNat < 128) &&
    name.toList.inits.all (fun start => !supportedVerbs.contains (String.ofList (start.map Char.toUpper))) &&
    !name.toList.contains '_'

theorem IsOwn.of_isOwn {name : String} (own : isOwn name = true) : IsOwn name := by
  simp only [isOwn, Bool.and_eq_true, List.all_eq_true, decide_eq_true_eq, Bool.not_eq_true', List.contains_eq_mem,
    decide_eq_false_iff_not] at own
  exact ⟨own.1.1, own.1.2, own.2⟩

theorem IsOwn.ne_numbered {name : String} (own : IsOwn name) (candidate : String) (n : Nat) :
    name ≠ numbered candidate n := by
  rintro rfl
  refine own.unnumbered ?_
  simp [numbered]

theorem narrow_of_supported {verb : String} (supported : verb ∈ supportedVerbs) : Narrow verb.toList := by
  have each : (supportedVerbs.all fun verb => verb.toList.all (·.toNat < 128)) = true := by decide +kernel
  intro c among
  simpa using List.all_eq_true.mp (List.all_eq_true.mp each verb supported) c among

theorem IsOwn.ne_pathMethodName {name verb : String} (own : IsOwn name) (supported : Text.upper verb ∈ supportedVerbs)
    (path : String) : name ≠ pathMethodName verb path := by
  intro same
  obtain ⟨rest, whole⟩ := exists_pathMethodName verb path
  have start : (Text.lower verb).toList <+: name.toList := by
    rw [same, whole, String.toList_append]
    exact List.prefix_append _ _
  have narrow : Narrow (Text.lower verb).toList := fun c among => own.narrow c (start.subset among)
  refine own.verbless _ (List.mem_inits _ _ |>.mpr start) ?_
  rw [← Text.upper_of_narrow_cases narrow (narrow_of_supported supported), String.ofList_toList]
  exact supported

end Naming

namespace Operation

/-- The operation has this name as its identifier, with underscores in place of characters that names do not have. -/
def IsCalled (operation : Operation) (name : String) : Prop :=
  ∃ identifier, operation.details.field "operationId" = .ok identifier ∧ identifier.isTrue = true ∧
    Naming.normalize identifier.shown = name

theorem candidate_eq_iff {operation : Operation} {name : String} (own : Naming.IsOwn name)
    (supported : View.isSupported operation.verb = true) :
    operation.candidate = .ok name ↔ operation.IsCalled name := by
  unfold candidate Naming.candidate IsCalled
  cases given : operation.details.field "operationId" with
  | error failure => simp
  | ok identifier =>
    simp only [Outcome.ok_bind, Except.ok.injEq, exists_eq_left']
    by_cases holds : identifier.isTrue = true
    · simp [holds]
    · simp only [holds, Bool.false_eq_true, if_false, false_and, iff_false]
      -- A name derived from verb and path begins with the verb, and no own name does.
      intro made
      split at made
      case h_1 _ _ verb path same _ =>
        have among : Text.upper verb ∈ supportedVerbs := by simpa [View.isSupported, same] using supported
        exact own.ne_pathMethodName among path (Except.ok.inj made).symm
      case h_2 => cases made

end Operation

end ClientGen
