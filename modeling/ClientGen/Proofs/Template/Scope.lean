import ClientGen.Proofs.Outcome
import ClientGen.Template.Render

/-! Which names a template reads. What nodes are rendered to depends on no other names, and on other templates
only through those that the nodes include. -/

set_option autoImplicit false

namespace ClientGen.Template

open Outcome (Related)

abbrev Names := String → Bool

def Names.with (known : Names) (name : String) : Names := fun other => other == name || known other

def AgreeOn (known : Names) (a b : Env) : Prop := ∀ name, known name = true → a.get name = b.get name

namespace AgreeOn

variable {known : Names} {a b : Env}

theorem mono {fewer : Names} (less : ∀ name, fewer name = true → known name = true) (agree : AgreeOn known a b) :
    AgreeOn fewer a b :=
  fun name among => agree name (less name among)

theorem less {name : String} (agree : AgreeOn (known.with name) a b) : AgreeOn known a b :=
  agree.mono fun other among => by simp [Names.with, among]

theorem cons (agree : AgreeOn known a b) (name : String) (d : Datum) :
    AgreeOn (known.with name) ((name, d) :: a) ((name, d) :: b) := by
  intro other among
  unfold Env.get
  rw [List.lookup_cons, List.lookup_cons]
  by_cases same : other = name
  · simp [same]
  · rw [beq_false_of_ne same]
    exact agree other (by simpa [Names.with, same] using among)

end AgreeOn

def Expr.within (known : Names) : Expr → Bool
  | .literal _ => true
  | .var s => known s
  | .member e _ | .filter e _ | .negation e => e.within known
  | .item a b | .either a b | .both a b | .joined a b => a.within known && b.within known

theorem Expr.eval_congr {known : Names} {a b : Env} (agree : AgreeOn known a b) {e : Expr}
    (inside : e.within known = true) : e.eval a = e.eval b := by
  induction e with
  | literal v => rfl
  | var s => exact congrArg Except.ok (agree s inside)
  | member e name ih => simp only [eval, ih inside]
  | filter e name ih => simp only [eval, ih inside]
  | negation e ih => simp only [eval, ih inside]
  | item e index ih ihIndex | either e index ih ihIndex | both e index ih ihIndex | joined e index ih ihIndex =>
    simp only [within, Bool.and_eq_true] at inside
    simp only [eval, ih inside.1, ihIndex inside.2]

def Expr.namesOneOf (included : List String) : Expr → Bool
  | .literal (.text name) => included.contains name
  | _ => false

theorem Expr.eval_of_namesOneOf {included : List String} {e : Expr} (named : e.namesOneOf included = true) :
    ∃ name ∈ included, ∀ env : Env, e.eval env = .ok (.text name) := by
  cases e with
  | literal v =>
    cases v with
    | text name => exact ⟨name, List.contains_iff_mem.mp named, fun _ => rfl⟩
    | _ => cases named
  | _ => cases named

/-- The names that are known after a node. What a branch of a choice sets is not known to be set. -/
def Node.binds (known : Names) : Node → Names
  | .assign name _ => known.with name
  | _ => known

mutual

/-- A node reads known names only, and includes no other templates than these. -/
def Node.within (included : List String) (known : Names) : Node → Bool
  | .text _ => true
  | .output e | .assign _ e => e.within known
  | .choice branches otherwise => branchesWithin included known branches && nodesWithin included known otherwise
  | .loop variableName elements test body otherwise =>
    elements.within known && test.all (Expr.within (known.with variableName)) &&
      nodesWithin included ((known.with "loop").with variableName) body && nodesWithin included known otherwise
  | .inclusion template _ => template.namesOneOf included

def branchesWithin (included : List String) (known : Names) : List (Expr × List Node) → Bool
  | [] => true
  | (test, nodes) :: rest =>
    test.within known && nodesWithin included known nodes && branchesWithin included known rest

def nodesWithin (included : List String) (known : Names) : List Node → Bool
  | [] => true
  | node :: rest => node.within included known && nodesWithin included (node.binds known) rest

end

/-- Two ways of inclusion that give the templates of these names the same rendering. -/
def SameInclusion (included : List String) (known : Names) (inclusion other : Inclusion) : Prop :=
  ∀ name ∈ included, ∀ (a b : Env) (mayBeMissing : Bool), AgreeOn known a b →
    inclusion a (.text name) mayBeMissing = other b (.text name) mayBeMissing

namespace SameInclusion

variable {included : List String} {known : Names} {inclusion other : Inclusion}

theorem more (same : SameInclusion included known inclusion other) (name : String) :
    SameInclusion included (known.with name) inclusion other :=
  fun template among a b mayBeMissing agree => same template among a b mayBeMissing agree.less

theorem binds (same : SameInclusion included known inclusion other) (node : Node) :
    SameInclusion included (node.binds known) inclusion other := by
  cases node with
  | assign name e => exact same.more name
  | _ => exact same

theorem none (known : Names) (inclusion other : Inclusion) : SameInclusion [] known inclusion other :=
  fun _ among => absurd among List.not_mem_nil

end SameInclusion

theorem passing_congr {known : Names} {a b : Env} (agree : AgreeOn known a b) (variableName : String)
    {test : Option Expr} (inside : test.all (Expr.within (known.with variableName)) = true) (elements : List Datum) :
    passing a variableName test elements = passing b variableName test elements := by
  cases test with
  | none => rfl
  | some test =>
    refine congrArg (elements.filterM ·) ?_
    funext d
    rw [Expr.eval_congr (agree.cons variableName d) inside]

theorem turns_agree {known : Names} {a b : Env} (agree : AgreeOn known a b) (variableName : String)
    (elements : List Datum) :
    List.Forall₂ (AgreeOn ((known.with "loop").with variableName)) (turns a variableName elements)
      (turns b variableName elements) := by
  unfold turns
  generalize loopRecord elements = record
  generalize List.range elements.length = places
  induction places generalizing elements with
  | nil => exact .nil
  | cons i rest ih =>
    cases elements with
    | nil => exact .nil
    | cons d others => exact .cons ((agree.cons "loop" _).cons variableName d) (ih others)

theorem AgreeOn.of_binds {known : Names} {a b : Env} (node : Node) (agree : AgreeOn (node.binds known) a b) :
    AgreeOn known a b := by
  cases node with
  | assign name e => exact agree.less
  | _ => exact agree

def SameRendering (known : Names) (left right : List Fragment × Env) : Prop :=
  left.1 = right.1 ∧ AgreeOn known left.2 right.2

mutual

theorem Node.render_congr {included : List String} {known : Names} {inclusion other : Inclusion}
    (same : SameInclusion included known inclusion other) {a b : Env} (agree : AgreeOn known a b) (node : Node)
    (inside : node.within included known = true) :
    Related (fun _ => False) (SameRendering (node.binds known)) (node.render inclusion a) (node.render other b) := by
  match node with
  | .text s => exact .ok ⟨rfl, agree⟩
  | .output e =>
    rw [Node.render, Node.render, Expr.eval_congr agree inside]
    exact .bind_same fun d _ => .ok ⟨rfl, agree⟩
  | .assign name e =>
    rw [Node.render, Node.render, Expr.eval_congr agree inside]
    exact .bind_same fun d _ => .ok ⟨rfl, agree.cons name d⟩
  | .choice branches otherwise =>
    simp only [Node.within, Bool.and_eq_true] at inside
    rw [Node.render, Node.render]
    refine (renderBranches_congr same agree branches inside.1).bind fun left right chosen => ?_
    cases chosen with
    | some rendered => exact .ok rendered
    | none => exact renderNodes_congr same agree otherwise inside.2
  | .loop variableName elements test body otherwise =>
    simp only [Node.within, Bool.and_eq_true] at inside
    obtain ⟨⟨⟨inElements, inTest⟩, inBody⟩, inOtherwise⟩ := inside
    rw [Node.render, Node.render, Expr.eval_congr agree inElements]
    refine .bind_same fun d _ => .bind_same fun all _ => ?_
    rw [passing_congr agree variableName inTest]
    refine .bind_same fun passed _ => ?_
    split
    · exact (renderNodes_congr same agree otherwise inOtherwise).bind fun _ _ rendered => .ok ⟨rendered.1, agree⟩
    · refine Related.bind (R := List.Forall₂ Eq) (.mapM ?_) fun parts others rendered => ?_
      · refine (turns_agree agree variableName passed).imp fun turn again known => ?_
        exact (renderNodes_congr (same.more "loop" |>.more variableName) known body inBody).map fun _ _ rendered =>
          rendered.1
      · rw [List.forall₂_eq_eq_eq] at rendered
        rw [rendered]
        exact .ok ⟨rfl, agree⟩
  | .inclusion template mayBeMissing =>
    obtain ⟨name, among, evaluated⟩ := Expr.eval_of_namesOneOf inside
    rw [Node.render, Node.render, evaluated, evaluated, Outcome.ok_bind, Outcome.ok_bind,
      same name among a b mayBeMissing agree]
    exact .bind_same fun rendered _ => .ok ⟨rfl, agree⟩

theorem renderBranches_congr {included : List String} {known : Names} {inclusion other : Inclusion}
    (same : SameInclusion included known inclusion other) {a b : Env} (agree : AgreeOn known a b)
    (branches : List (Expr × List Node)) (inside : branchesWithin included known branches = true) :
    Related (fun _ => False) (Option.Rel (SameRendering known)) (renderBranches inclusion a branches)
      (renderBranches other b branches) := by
  match branches with
  | [] => exact .ok .none
  | (test, nodes) :: rest =>
    simp only [branchesWithin, Bool.and_eq_true] at inside
    rw [renderBranches, renderBranches, Expr.eval_congr agree inside.1.1]
    refine .bind_same fun d _ => ?_
    split
    · exact (renderNodes_congr same agree nodes inside.1.2).bind fun _ _ rendered => .ok (.some rendered)
    · exact renderBranches_congr same agree rest inside.2

theorem renderNodes_congr {included : List String} {known : Names} {inclusion other : Inclusion}
    (same : SameInclusion included known inclusion other) {a b : Env} (agree : AgreeOn known a b)
    (nodes : List Node) (inside : nodesWithin included known nodes = true) :
    Related (fun _ => False) (SameRendering known) (renderNodes inclusion a nodes) (renderNodes other b nodes) := by
  match nodes with
  | [] => exact .ok ⟨rfl, agree⟩
  | node :: rest =>
    simp only [nodesWithin, Bool.and_eq_true] at inside
    rw [renderNodes, renderNodes]
    refine (Node.render_congr same agree node inside.1).bind fun left right first => ?_
    refine (renderNodes_congr (same.binds node) first.2 rest inside.2).bind fun more others later => .ok ?_
    exact ⟨congrArg₂ (· ++ ·) first.1 later.1, later.2.of_binds node⟩

end

end ClientGen.Template
