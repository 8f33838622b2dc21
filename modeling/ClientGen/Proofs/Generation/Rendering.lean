import ClientGen.Generation.Generate
import ClientGen.Proofs.Outcome

/-! Code by any renderer. What is rendered, and what becomes of a rendered text, has nothing to do with the language of
templates, so another one may stand in the place of the one that there is. -/

set_option autoImplicit false

namespace ClientGen.Generation

/-- What renders a template, given those that it can include and what its names stand for, unless one of them cannot be
a name. -/
abbrev Renderer :=
  Template.Partials → Value → Except Failure Template.Env → Except Failure (List Template.Fragment)

namespace Renderer

variable (render : Renderer) (tools : Tools) (target : String) (options : Options)

def source (templates : Templates) (view : View) : Except Failure String := do
  let extra ← options.extraContext.pairs
  (render templates.partials (templates.main.orElse (.text "")) ((namesOf extra).map (· ++ contextOf view))).map
    Template.textOf

def finish (templates : Templates) (view : View) : Except Failure String := do
  let source ← render.source options templates view
  let _ ← checkSource tools target options source
  layOut tools options source

def rendered (view : View) : Except Failure String := do
  let templates ← Templates.forTarget target options.template
  render.source options templates view

def generate (tools : Tools) (view : View) (target : String) (options : Options) : Except Failure String := do
  let templates ← Templates.forTarget target options.template
  render.finish tools target options templates view

/-- The code of a document. The templates are checked twice, as they are by the renderer that there is. -/
def code (document : Value) : Except Failure String := do
  let _ ← Templates.forTarget target options.template
  let view ← viewOf document target options
  render.generate tools view target options

theorem generate_eq_bind (view : View) : render.generate tools view target options = (do
    let source ← render.rendered target options view
    let _ ← checkSource tools target options source
    layOut tools options source) := by
  unfold generate rendered finish
  rw [bind_assoc]

end Renderer

variable {tools : Tools} {target : String} {options : Options}

theorem renderView_eq_rendered {view : View} :
    renderView view target options = Renderer.rendered Template.fragmentsUnder target options view := by
  unfold renderView fragmentsOf Renderer.rendered Renderer.source
  simp only [Outcome.map_bind]

theorem generate_eq {view : View} :
    generate tools view target options = Renderer.generate Template.fragmentsUnder tools view target options := by
  rw [Renderer.generate_eq_bind, ← renderView_eq_rendered]
  rfl

theorem code_eq {document : Value} :
    code tools document target options = Renderer.code Template.fragmentsUnder tools target options document := by
  unfold code Renderer.code
  simp only [generate_eq]

end ClientGen.Generation
