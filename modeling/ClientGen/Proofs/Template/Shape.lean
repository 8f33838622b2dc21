import ClientGen.Proofs.Template.Copies

/-! Templates of a client: what goes around the methods, and the method itself, which is included in a loop. The
rendering of such a template is that of its parts put together, and each method is rendered on its own. -/

set_option autoImplicit false

namespace ClientGen.Template

open Outcome (Related Yields)

/-- The loop over the methods of a view, with an empty line before each. -/
def methodsLoop : Node :=
  .loop "method" (.var "methods") none [.text ['\n'], .inclusion (.literal (.text "method")) false] []

def Node.isMethodsLoop : Node → Bool
  | .loop variableName (.var elements) none [.text lead, .inclusion (.literal (.text template)) false] [] =>
    variableName == "method" && elements == "methods" && lead == ['\n'] && template == "method"
  | _ => false

theorem Node.eq_methodsLoop {node : Node} (loops : node.isMethodsLoop = true) : node = methodsLoop := by
  unfold isMethodsLoop at loops
  split at loops
  · simp only [Bool.and_eq_true, beq_iff_eq] at loops
    obtain ⟨⟨⟨rfl, rfl⟩, rfl⟩, rfl⟩ := loops
    rfl
  · cases loops

def aroundMethods? : List Node → Option (List Node × List Node)
  | [] => none
  | node :: rest =>
    if node.isMethodsLoop then some ([], rest)
    else (aroundMethods? rest).map fun (before, after) => (node :: before, after)

theorem eq_of_aroundMethods? {nodes before after : List Node} (found : aroundMethods? nodes = some (before, after)) :
    nodes = before ++ methodsLoop :: after := by
  induction nodes generalizing before with
  | nil => cases found
  | cons node rest ih =>
    unfold aroundMethods? at found
    split at found
    case isTrue loops =>
      cases found
      rw [Node.eq_methodsLoop loops, List.nil_append]
    case isFalse =>
      obtain ⟨⟨earlier, _⟩, found, same⟩ := Option.map_eq_some_iff.mp found
      cases same
      rw [ih found, List.cons_append]

/-! ## Rendering the parts -/

theorem renderNodes_append (inclusion : Inclusion) (env : Env) (first rest : List Node) :
    renderNodes inclusion env (first ++ rest) = do
      let before ← renderNodes inclusion env first
      let after ← renderNodes inclusion before.2 rest
      return (before.1 ++ after.1, after.2) := by
  induction first generalizing env with
  | nil => exact (bind_pure (renderNodes inclusion env rest)).symm
  | cons node others ih => simp [renderNodes, ih, List.append_assoc]

theorem methodsLoop_render (inclusion : Inclusion) (env : Env) :
    methodsLoop.render inclusion env = do
      let methods ← (env.get "methods").elements
      let blocks ← (turns env "method" methods).mapM fun turn => inclusion turn (.text "method") false
      return ((blocks.map (.copied ['\n'] :: ·)).flatten, env) := by
  have body (turn : Env) :
      (renderNodes inclusion turn [.text ['\n'], .inclusion (.literal (.text "method")) false]).map (·.1) =
        (inclusion turn (.text "method") false).map (.copied ['\n'] :: ·) := by
    have evaluated : Expr.eval turn (.literal (.text "method")) = .ok (.text "method") := rfl
    simp only [renderNodes, Node.render, evaluated, Outcome.ok_bind]
    cases inclusion turn (.text "method") false with
    | error failure => rfl
    | ok included => simp
  have evaluated : Expr.eval env (.var "methods") = .ok (env.get "methods") := rfl
  rw [methodsLoop, Node.render, evaluated, Outcome.ok_bind]
  cases (env.get "methods").elements with
  | error failure => rfl
  | ok methods =>
    simp only [Outcome.ok_bind, passing, body, Outcome.mapM_map]
    cases methods with
    | nil => rfl
    | cons d others =>
      rw [if_neg (by simp)]
      cases (turns env "method" (d :: others)).mapM fun turn => inclusion turn (.text "method") false <;> rfl

theorem renderNodes_around {before : List Node} (keep : nodesKeepNames before = true) (inclusion : Inclusion)
    (env : Env) (after : List Node) :
    renderNodes inclusion env (before ++ methodsLoop :: after) = do
      let head ← renderNodes inclusion env before
      let methods ← (env.get "methods").elements
      let blocks ← (turns env "method" methods).mapM fun turn => inclusion turn (.text "method") false
      let tail ← renderNodes inclusion env after
      return (head.1 ++ (blocks.map (.copied ['\n'] :: ·)).flatten ++ tail.1, tail.2) := by
  -- A template with a loop over methods is rendered part by part, since what comes before the loop sets no name.
  rw [renderNodes_append]
  cases rendered : renderNodes inclusion env before with
  | error failure => rfl
  | ok head =>
    have kept : head.2 = env := renderNodes_keepNames keep head rendered
    simp only [Outcome.ok_bind, kept, renderNodes, methodsLoop_render, bind_assoc, pure_bind, List.append_assoc]

theorem mapM_turns {α : Type} {f : Env → Except Failure α} {g : Datum → Except Failure α} {env : Env}
    {variableName : String}
    (same : ∀ d record, f ((variableName, d) :: ("loop", record) :: env) = g d) (elements : List Datum) :
    (turns env variableName elements).mapM f = elements.mapM g := by
  unfold turns
  generalize loopRecord elements = record
  rw [List.range_eq_range']
  generalize 0 = start
  induction elements generalizing start with
  | nil => rfl
  | cons d rest ih =>
    rw [List.length_cons, List.range'_succ, List.zipWith_cons_cons, List.mapM_cons, List.mapM_cons, same, ih]

theorem exists_turns {α β γ : Type} {f : Env → Except Failure β} {measure : β → γ} {expected : α → γ} {env : Env}
    {variableName : String} {toDatum : α → Datum}
    (each : ∀ x record, ∃ b, f ((variableName, toDatum x) :: ("loop", record) :: env) = .ok b ∧ measure b = expected x)
    (xs : List α) :
    ∃ bs, (turns env variableName (xs.map toDatum)).mapM f = .ok bs ∧ bs.map measure = xs.map expected := by
  unfold turns
  generalize loopRecord (xs.map toDatum) = record
  rw [List.range_eq_range']
  generalize 0 = start
  induction xs generalizing start with
  | nil => exact ⟨[], rfl, rfl⟩
  | cons x rest ih =>
    obtain ⟨bs, others, alike⟩ := ih (start + 1)
    obtain ⟨b, here, same⟩ := each x (record start)
    refine ⟨b :: bs, ?_, by rw [List.map_cons, List.map_cons, same, alike]⟩
    rw [List.map_cons, List.length_cons, List.range'_succ, List.zipWith_cons_cons, List.mapM_cons, others, here]
    rfl

theorem renderWithin_congr {known : Names} {nodes : List Node} (inside : nodesWithin [] known nodes = true)
    {a b : Env} (agree : AgreeOn known a b) (partials others : Partials) (depth more : Nat) :
    renderWithin partials (depth + 1) a nodes = renderWithin others (more + 1) b nodes := by
  refine Related.eq ?_
  exact (renderNodes_congr (.none known _ _) agree nodes inside).map fun _ _ rendered => rendered.1

theorem renderWithin_hide {text : List Char} {nodes : List Node} (hide : nodesHide text [] none nodes = true)
    (partials : Partials) (depth : Nat) (env : Env) :
    Yields (¬ Emits · text) (renderWithin partials depth env nodes) := by
  cases depth with
  | zero => exact .error _
  | succ depth => exact (renderNodes_hide_always (.none _ text) hide env).map fun _ quiet => quiet

end ClientGen.Template
