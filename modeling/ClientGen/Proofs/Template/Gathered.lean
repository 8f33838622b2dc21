import ClientGen.Proofs.Template.Copies

/-! What is found in the texts that a template copies. Where all that is found stands under tests of single names, it
can be told from the names that are true, before the template is rendered. -/

set_option autoImplicit false

namespace ClientGen.Template

open Outcome (Yields)

variable {α : Type} (find : List Char → List α)

/-- What is found in the texts that are copied, in order. What is printed for an expression does not count. -/
def gathered (fragments : List Fragment) : List α :=
  fragments.flatMap fun
    | .copied s => find s
    | .printed _ => []

theorem gathered_append (first rest : List Fragment) :
    gathered find (first ++ rest) = gathered find first ++ gathered find rest :=
  List.flatMap_append

theorem gathered_flatten {parts : List (List Fragment)} (none : ∀ part ∈ parts, gathered find part = []) :
    gathered find parts.flatten = [] := by
  induction parts with
  | nil => rfl
  | cons part rest ih =>
    obtain ⟨here, later⟩ := List.forall_mem_cons.mp none
    rw [List.flatten_cons, gathered_append, here, ih later, List.nil_append]

mutual

/-- Nothing is found in any text of the node. Included are only templates of these names. -/
def Node.lacks (included : List String) : Node → Bool
  | .text s => (find s).isEmpty
  | .output _ | .assign _ _ => true
  | .choice branches otherwise => branchesLack included branches && nodesLack included otherwise
  | .loop _ _ _ body otherwise => nodesLack included body && nodesLack included otherwise
  | .inclusion template _ => template.namesOneOf included

def branchesLack (included : List String) : List (Expr × List Node) → Bool
  | [] => true
  | (_, nodes) :: rest => nodesLack included nodes && branchesLack included rest

def nodesLack (included : List String) : List Node → Bool
  | [] => true
  | node :: rest => node.lacks included && nodesLack included rest

end

mutual

/-- What is found in the texts of the node, with the names that have to be true for it. -/
def Node.gathers (included : List String) : Node → Option (List (List String × α))
  | .text s => some ((find s).map ([], ·))
  | .choice [(.var flag, body)] [] =>
    (nodesGather included body).map (List.map fun (flags, a) => (flag :: flags, a))
  | node => if node.lacks find included then some [] else none

def nodesGather (included : List String) : List Node → Option (List (List String × α))
  | [] => some []
  | node :: rest => do return (← node.gathers included) ++ (← nodesGather included rest)

end

def Lacking (inclusion : Inclusion) (included : List String) : Prop :=
  ∀ name ∈ included, ∀ (env : Env) (mayBeMissing : Bool),
    Yields (gathered find · = []) (inclusion env (.text name) mayBeMissing)

theorem Lacking.none (inclusion : Inclusion) : Lacking find inclusion [] := fun _ among => absurd among List.not_mem_nil

section
variable {find} {inclusion : Inclusion} {included : List String}

mutual

theorem Node.render_lacks (lacking : Lacking find inclusion included) {env : Env} {node : Node}
    (lacks : node.lacks find included = true) :
    Yields (gathered find ·.1 = []) (node.render inclusion env) := by
  match node with
  | .text s => exact .ok (by simpa [gathered, Node.lacks] using lacks)
  | .output e => exact .bind_any fun d _ => .ok rfl
  | .assign name e => exact .bind_any fun d _ => .ok rfl
  | .choice branches otherwise =>
    simp only [Node.lacks, Bool.and_eq_true] at lacks
    refine (renderBranches_lack lacking lacks.1).bind fun chosen _ nothing => ?_
    cases chosen with
    | some rendered => exact .ok (nothing rendered rfl)
    | none => exact renderNodes_lack lacking lacks.2
  | .loop variableName elements test body otherwise =>
    simp only [Node.lacks, Bool.and_eq_true] at lacks
    refine .bind_any fun d _ => .bind_any fun all _ => .bind_any fun passed _ => ?_
    split
    · exact (renderNodes_lack lacking lacks.2).bind fun rendered _ nothing => .ok nothing
    · refine (Yields.mapM (Q := (gathered find · = [])) fun turn _ => ?_).bind fun parts _ nothing => .ok ?_
      · exact (renderNodes_lack lacking lacks.1).map fun _ nothing => nothing
      · exact gathered_flatten find nothing
  | .inclusion template mayBeMissing =>
    obtain ⟨name, among, evaluated⟩ := Expr.eval_of_namesOneOf lacks
    rw [Node.render, evaluated, Outcome.ok_bind]
    exact .bind_any fun rendered done => .ok (lacking name among env mayBeMissing rendered done)

theorem renderBranches_lack (lacking : Lacking find inclusion included) {env : Env}
    {branches : List (Expr × List Node)} (lack : branchesLack find included branches = true) :
    Yields (fun chosen => ∀ rendered ∈ chosen, gathered find rendered.1 = [])
      (renderBranches inclusion env branches) := by
  match branches with
  | [] => exact .ok nofun
  | (test, nodes) :: rest =>
    simp only [branchesLack, Bool.and_eq_true] at lack
    refine .bind_any fun d _ => ?_
    split
    · refine (renderNodes_lack lacking lack.1).bind fun rendered _ nothing => .ok ?_
      rintro _ ⟨⟩
      exact nothing
    · exact renderBranches_lack lacking lack.2

theorem renderNodes_lack (lacking : Lacking find inclusion included) {env : Env} {nodes : List Node}
    (lack : nodesLack find included nodes = true) :
    Yields (gathered find ·.1 = []) (renderNodes inclusion env nodes) := by
  match nodes with
  | [] => exact .ok rfl
  | node :: rest =>
    simp only [nodesLack, Bool.and_eq_true] at lack
    refine (Node.render_lacks lacking lack.1).bind fun first _ nothing => ?_
    refine (renderNodes_lack lacking lack.2).bind fun more _ neither => .ok ?_
    rw [gathered_append, nothing, neither, List.append_nil]

end

theorem lacking_of_partials {partials : Partials}
    (each : ∀ name ∈ included, ∀ source, partials.lookup name = some source →
      ∃ nodes, ofSource source = .ok nodes ∧ nodesLack find [] nodes = true) (depth : Nat) :
    Lacking find (includeFrom partials (renderWithin partials depth)) included := by
  intro name among env mayBeMissing
  unfold includeFrom Datum.text
  dsimp only
  split
  case h_1 source listed =>
    obtain ⟨nodes, read, lack⟩ := each name among source listed
    rw [read, Outcome.ok_bind]
    cases depth with
    | zero => exact .error _
    | succ depth => exact (renderNodes_lack (.none find _) lack).map fun _ nothing => nothing
  case h_2 =>
    split
    · exact .ok rfl
    · exact .error _

def selected (env : Env) (found : List (List String × α)) : List α :=
  (found.filter fun (flags, _) => flags.all fun flag => (env.get flag).isTrue).map Prod.snd

theorem selected_append (env : Env) (first rest : List (List String × α)) :
    selected env (first ++ rest) = selected env first ++ selected env rest := by
  unfold selected
  rw [List.filter_append, List.map_append]

theorem selected_always (env : Env) (all : List α) : selected env (all.map ([], ·)) = all := by
  simp [selected, List.filter_map, Function.comp_def]

theorem selected_under (env : Env) (flag : String) (found : List (List String × α)) :
    selected env (found.map fun (flags, a) => (flag :: flags, a)) =
      if (env.get flag).isTrue then selected env found else [] := by
  cases holds : (env.get flag).isTrue <;> simp [selected, List.filter_map, Function.comp_def, holds]

mutual

theorem Node.render_gathers (lacking : Lacking find inclusion included) {env : Env} {node : Node}
    (keeps : node.keepsNames = true) {found : List (List String × α)}
    (gathers : node.gathers find included = some found) :
    Yields (gathered find ·.1 = selected env found) (node.render inclusion env) := by
  unfold Node.gathers at gathers
  split at gathers
  case h_1 s =>
    cases gathers
    refine .ok ?_
    rw [selected_always]
    exact List.append_nil _
  case h_2 flag body =>
    simp only [Node.keepsNames, branchesKeepNames, Bool.and_eq_true] at keeps
    obtain ⟨inner, gather, rfl⟩ := Option.map_eq_some_iff.mp gathers
    have within : Yields (gathered find ·.1 = selected env inner) (renderNodes inclusion env body) :=
      renderNodes_gather lacking keeps.1.1 gather
    rw [Node.render, renderBranches, Expr.eval, Outcome.ok_bind, selected_under]
    by_cases holds : (env.get flag).isTrue = true
    · rw [if_pos holds, if_pos holds]
      refine Yields.bind (P := fun chosen => ∃ rendered, chosen = some rendered ∧
        gathered find rendered.1 = selected env inner) ?_ ?_
      · exact within.bind fun rendered _ same => .ok ⟨rendered, rfl, same⟩
      · rintro _ _ ⟨rendered, rfl, same⟩
        exact .ok same
    · rw [if_neg holds, if_neg holds]
      exact .ok rfl
  case h_3 =>
    split at gathers
    case isTrue lacks =>
      cases gathers
      exact Node.render_lacks lacking lacks
    case isFalse => cases gathers

theorem renderNodes_gather (lacking : Lacking find inclusion included) {env : Env} {nodes : List Node}
    (keep : nodesKeepNames nodes = true) {found : List (List String × α)}
    (gather : nodesGather find included nodes = some found) :
    Yields (gathered find ·.1 = selected env found) (renderNodes inclusion env nodes) := by
  match nodes with
  | [] =>
    cases gather
    exact .ok rfl
  | node :: rest =>
    simp only [nodesKeepNames, Bool.and_eq_true] at keep
    simp only [nodesGather, Option.bind_eq_bind, Option.bind_eq_some_iff, Option.pure_def, Option.some.injEq] at gather
    obtain ⟨here, gathers, later, gather, rfl⟩ := gather
    refine (Node.render_gathers lacking keep.1 gathers).bind fun first done same => ?_
    have kept : first.2 = env := Node.render_keepsNames keep.1 first done
    dsimp only
    rw [kept]
    refine (renderNodes_gather lacking keep.2 gather).bind fun more _ alike => .ok ?_
    rw [gathered_append, selected_append, same, alike]

end

end

theorem fragments_gather {find} {included : List String} {partials : Partials} {source : Value} {nodes : List Node}
    (each : ∀ name ∈ included, ∀ source, partials.lookup name = some source →
      ∃ nodes, ofSource source = .ok nodes ∧ nodesLack find [] nodes = true)
    (read : ofSource source = .ok nodes) (keep : nodesKeepNames nodes = true) {found : List (List String × α)}
    (gather : nodesGather find included nodes = some found) (env : Env) :
    Yields (gathered find · = selected env found) (fragments partials source env) := by
  rw [fragments_of_read read, inclusionDepth, renderWithin]
  exact (renderNodes_gather (lacking_of_partials each _) keep gather).map fun _ same => same

end ClientGen.Template
