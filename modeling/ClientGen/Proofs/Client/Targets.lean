import ClientGen.Proofs.Client.Types

/-! What of a view depends on the target. Targets differ in a flag and in the names that definitions are
exported under, and in nothing else: neither the walk through the paths nor a failure has to do with the
target. -/

set_option autoImplicit false

namespace ClientGen

open Outcome (Related)

/-- How the definition of a document for one target is related to that for another. Flow sets reserved words
apart, so names are the same unless one of the targets is Flow and the other is not. -/
structure Definition.SameFor (first second : String) (left right : Definition) : Prop where
  description : left.description = right.description
  tsType : left.tsType = right.tsType
  flowType : left.flowType = right.flowType
  name : (first = "flow" ↔ second = "flow") → left.name = right.name
  name_first : first = "flow" → second ≠ "flow" → left.name = View.exportName .flow right.name
  name_second : first ≠ "flow" → second = "flow" → right.name = View.exportName .flow left.name

def Assembly.Flagged (isEs6 : Bool) (left right : Assembly) : Prop :=
  right = { left with view := { left.view with isEs6 } }

namespace Assembly

variable {isEs6 : Bool}

theorem addOrFail_flagged (document : Value) (className : Option String) {left right : Assembly}
    (alike : Flagged isEs6 left right) (operation : Operation) :
    Related (fun _ => False) (Flagged isEs6) (addOrFail document className left operation)
      (addOrFail document className right operation) := by
  obtain rfl := alike
  unfold addOrFail add
  cases operation.candidate with
  | error failure => exact .error failure
  | ok candidate =>
    -- The same name is given out, since the names in use are the same.
    dsimp only [Naming.giveOut]
    cases operation.method document (Naming.unique candidate left.used) className with
    | error failure => exact .error failure
    | ok method => exact .ok rfl

theorem addPath_flagged (document : Value) (className : Option String) {left right : Assembly}
    (alike : Flagged isEs6 left right) (path : Key × Value) :
    Related (fun _ => False) (Flagged isEs6) (addPath document className left path)
      (addPath document className right path) := by
  refine .bind_same fun operations _ => .foldlM alike fun left right alike operation _ => ?_
  exact addOrFail_flagged document className alike operation

end Assembly

namespace View

theorem header_flagged (document : Value) (first second : String) (options : Options) :
    Related (fun _ => False)
      (fun left right => right = { left with isEs6 := options.isEs6 || second == "javascript" })
      (header document first options) (header document second options) := by
  refine .bind_same fun _ _ => .bind_same fun _ _ => .bind_same fun _ _ => .bind_same fun _ _ => ?_
  refine .bind_same fun _ _ => .bind_same fun _ _ => .bind_same fun _ _ => ?_
  exact .ok rfl

theorem definitionsFor_sameFor (document : Value) (first second : String) :
    Related (fun _ => False) (List.Forall₂ (Definition.SameFor first second))
      (definitionsFor document first) (definitionsFor document second) := by
  refine .bind_same fun definitions _ => .bind_same fun schemas _ => .mapM ?_
  apply List.forall₂_same.mpr
  intro schema _
  refine .bind_same fun description _ => .bind_same fun tsType _ => .bind_same fun flowType _ => .ok ?_
  cases schema.1 with
  | text name =>
    refine ⟨rfl, rfl, rfl, fun same => ?_, fun flow other => ?_, fun other flow => ?_⟩
    · by_cases flow : first = "flow"
      · simp [flow, same.mp flow]
      · simp [flow, same.not.mp flow]
    · simp [flow, other, exportName]
    · simp [flow, other, exportName]
  | _ => exact ⟨rfl, rfl, rfl, fun _ => rfl, fun _ _ => rfl, fun _ _ => rfl⟩

/-- A document has a view for every target or for none, in which case all targets fail in the same way. The views
for two targets are the same in all but the flag for modern scripts, which the target may raise, and the names of
definitions, which Flow sets apart from words that it has a meaning for. -/
theorem build_targets (document : Value) (options : Options) (first second : String) :
    (∃ failure, build document first options = .error failure ∧ build document second options = .error failure) ∨
    ∃ left right, build document first options = .ok left ∧ build document second options = .ok right ∧
      right = { left with
        isEs6 := options.isEs6 || second == "javascript"
        definitions := right.definitions } ∧
      List.Forall₂ (Definition.SameFor first second) left.definitions right.definitions := by
  have related : Related (fun _ => False)
      (fun left right => right = { left with
          isEs6 := options.isEs6 || second == "javascript"
          definitions := right.definitions } ∧
        List.Forall₂ (Definition.SameFor first second) left.definitions right.definitions)
      (build document first options) (build document second options) := by
    refine (header_flagged document first second options).bind fun left right alike => ?_
    refine .bind_same fun paths _ => ?_
    have start : Assembly.Flagged (options.isEs6 || second == "javascript") ⟨left, []⟩ ⟨right, []⟩ :=
      congrArg (Assembly.mk · []) alike
    have walked := Related.foldlM start fun _ _ alike path (_ : path ∈ paths) =>
      Assembly.addPath_flagged document options.className alike path
    refine walked.bind fun left right alike => ?_
    refine (definitionsFor_sameFor document first second).bind fun definitions others same => .ok ?_
    obtain rfl := alike
    exact ⟨rfl, same⟩
  exact related.same_failure_or

end View

end ClientGen
