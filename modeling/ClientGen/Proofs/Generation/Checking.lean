import ClientGen.Proofs.Generation.Rendering
import ClientGen.Proofs.Lint.Findings
import ClientGen.Standard

/-! Checking code before it is laid out. The check lets the rendered text pass as it is or refuses it, so asking for it
changes nothing but whether there is code. -/

set_option autoImplicit false

namespace ClientGen.Generation

namespace Renderer

variable {render : Renderer} {tools : Tools} {view : View} {target : String} {options : Options}

theorem generate_unchecked (unchecked : target ∈ pretypedTargets ∨ options.isChecked = false) :
    render.generate tools view target options = render.rendered target options view >>= layOut tools options := by
  have skipped : (!pretypedTargets.contains target && options.isChecked) = false := by
    rcases unchecked with pretyped | unasked
    · simp [pretyped]
    · simp [unasked]
  rw [generate_eq_bind]
  refine bind_congr fun source => ?_
  rw [checkSource, skipped]
  rfl

theorem generate_checked (custom : target ∉ pretypedTargets) (asked : options.isChecked = true) :
    render.generate tools view target options = (do
      let source ← render.rendered target options view
      Lint.check tools.judge { esnext := options.esnext } source
      layOut tools options source) := by
  rw [generate_eq_bind]
  refine bind_congr fun source => ?_
  simp only [checkSource, asked, Bool.and_true, List.contains_eq_mem, custom, decide_false, Bool.not_false, if_true]

theorem generate_rejected {source reason : String} {line : Nat} (custom : target ∉ pretypedTargets)
    (asked : options.isChecked = true) (rendered : render.rendered target options view = .ok source)
    (rejects : tools.judge options.esnext source = .rejected line reason) :
    render.generate tools view target options =
      .error (.rejected ⟨"E001", reason, Lint.evidence (Text.lines source.toList) line, line⟩) := by
  have room : (1 : Int) ≤ 999 := by decide
  have failed : Lint.check tools.judge { esnext := options.esnext } source = _ := Lint.check_rejected room rejects
  rw [generate_checked custom asked, rendered, Outcome.ok_bind, failed]
  rfl

theorem generate_passed (custom : target ∉ pretypedTargets) (asked : options.isChecked = true)
    (passes : ∀ source, render.rendered target options view = .ok source →
      ∀ line reason, tools.judge options.esnext source ≠ .rejected line reason) :
    render.generate tools view target options = render.rendered target options view >>= layOut tools options := by
  rw [generate_checked custom asked]
  cases rendered : render.rendered target options view with
  | error failure => rfl
  | ok source =>
    have fine : Lint.check tools.judge { esnext := options.esnext } source = .ok () := by
      cases verdict : tools.judge options.esnext source with
      | rejected line reason => exact absurd verdict (passes source rendered line reason)
      | accepted remarks => exact Lint.check_accepted verdict
    rw [Outcome.ok_bind, fine]
    rfl

theorem rendered_eq : render.rendered target options view =
    render.generate tools view target { options with lint := some false, beautify := false } := by
  rw [generate_unchecked (.inr rfl)]
  change _ = render.rendered target options view >>= pure
  rw [bind_pure]

end Renderer

/-- Whether the code of a target with types of its own is to be checked makes no difference, and neither does the kind
of script that it would be checked as. Custom code is refused exactly if its parser rejects the rendered text, before
that is laid out; otherwise the outcome is the one without a check, whatever the parser remarks. All this holds in any
language of templates, and so in the one that there is. -/
theorem generate_gated (tools : Tools) (view : View) (options : Options) :
    (∀ target, generate tools view target options =
      Renderer.generate Template.fragmentsUnder tools view target options) ∧
    ∀ render : Renderer,
      (∀ target ∈ pretypedTargets, ∀ (judge : Script.Judge) (lint : Option Bool) (esnext : Bool),
        render.generate { tools with judge } view target { options with lint, esnext } =
          render.generate tools view target options) ∧
      (∀ (judge : Script.Judge) (esnext : Bool),
        render.generate { tools with judge } view "custom" { options with lint := some false, esnext } =
          render.generate tools view "custom" { options with lint := some false }) ∧
      ∀ lint ∈ [none, some true], ∀ esnext : Bool,
        let text := render.generate tools view "custom" { options with lint := some false, beautify := false }
        let checked := render.generate tools view "custom" { options with lint, esnext }
        (∀ source line reason, text = .ok source → tools.judge esnext source = .rejected line reason →
          checked = .error (.rejected ⟨"E001", reason, Lint.evidence (Text.lines source.toList) line, line⟩)) ∧
        ((∀ source, text = .ok source → ∀ line reason, tools.judge esnext source ≠ .rejected line reason) →
          checked = render.generate tools view "custom" { options with lint := some false }) := by
  have custom : "custom" ∉ pretypedTargets := by decide
  refine ⟨fun target => generate_eq, fun render =>
    ⟨fun target pretyped judge lint esnext => ?_, fun judge esnext => ?_, fun lint among esnext => ?_⟩⟩
  · rw [Renderer.generate_unchecked (.inl pretyped), Renderer.generate_unchecked (.inl pretyped)]
    rfl
  · rw [Renderer.generate_unchecked (.inr rfl), Renderer.generate_unchecked (.inr rfl)]
    rfl
  · have asked : ({ options with lint, esnext } : Options).isChecked = true := by
      rcases List.mem_pair.mp among with rfl | rfl <;> rfl
    have off : render.generate tools view "custom" { options with lint := some false } = _ :=
      Renderer.generate_unchecked (.inr rfl)
    dsimp only
    rw [← Renderer.rendered_eq, off]
    exact ⟨fun source line reason => Renderer.generate_rejected custom asked, Renderer.generate_passed custom asked⟩

/-! ## Custom code with and without an error -/

def printing (text : String) : Options where
  template := .object [(.text "class", .text text), (.text "method", .text "")]

/-- Templates that are no more than what they are rendered to, whatever marks are in them. -/
def verbatim : Renderer
  | _, .text source, _ => .ok [.copied source.toList]
  | _, _, _ => .error .wrongKind

theorem generate_gated_printing :
    generate Tools.standard .empty "custom" (printing "f(") =
      .error (.rejected ⟨"E001", "Line 1: Unexpected end of input", "f(", 1⟩) ∧
    generate Tools.standard .empty "custom" (printing "f( )") =
      generate Tools.standard .empty "custom" { printing "f( )" with lint := some false } ∧
    verbatim.generate Tools.standard .empty "custom" (printing "\x7b\x7b") =
      .error (.rejected ⟨"E001", "Line 1: Unexpected end of input", "\x7b\x7b", 1⟩) ∧
    generate Tools.standard .empty "flow" { lint := some true, esnext := true } =
      generate Tools.standard .empty "flow" {} := by
  have rejected (render : Renderer) (text : String)
      (rendered : render.rendered "custom" (printing text) .empty = .ok text)
      (rejects : Tools.standard.judge false text = .rejected 1 "Line 1: Unexpected end of input")
      (shown : Lint.evidence (Text.lines text.toList) 1 = text) :
      render.generate Tools.standard .empty "custom" (printing text) =
        .error (.rejected ⟨"E001", "Line 1: Unexpected end of input", text, 1⟩) := by
    obtain ⟨_, gated⟩ := generate_gated Tools.standard .empty (printing text)
    obtain ⟨_, _, checks⟩ := gated render
    have failed := (checks none (by decide) false).1 text 1 _ (Renderer.rendered_eq.symm.trans rendered) rejects
    rw [shown] at failed
    exact failed
  have rendered (text : String)
      (evaluated : (Renderer.rendered Template.fragmentsUnder "custom" (printing text) .empty).toOption.map id =
        some text) : Renderer.rendered Template.fragmentsUnder "custom" (printing text) .empty = .ok text := by
    obtain ⟨source, made, rfl⟩ := Outcome.eq_ok_of_toOption_map evaluated
    exact made
  have accepted : Tools.standard.judge false "f( )" = .accepted [] := by decide +kernel
  obtain ⟨same, gated⟩ := generate_gated Tools.standard .empty {}
  obtain ⟨pretyped, _⟩ := gated Template.fragmentsUnder
  obtain ⟨_, gatedClosed⟩ := generate_gated Tools.standard .empty (printing "f( )")
  obtain ⟨_, _, closed⟩ := gatedClosed Template.fragmentsUnder
  refine ⟨?_, ?_, rejected verbatim "\x7b\x7b" rfl (by decide +kernel) (by decide +kernel), ?_⟩
  · rw [generate_eq]
    exact rejected _ "f(" (rendered "f(" (by decide +kernel)) (by decide +kernel) (by decide +kernel)
  · rw [generate_eq, generate_eq]
    refine (closed none (by decide) false).2 fun source made line reason fails => ?_
    cases (Renderer.rendered_eq.trans made).symm.trans (rendered "f( )" (by decide +kernel))
    cases accepted.symm.trans fails
  · rw [same, generate_eq]
    exact pretyped "flow" (by decide) Tools.standard.judge (some true) true

end ClientGen.Generation
