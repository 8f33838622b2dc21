import ClientGen.Proofs.Template.Scope
import ClientGen.Text.Part
import Mathlib.Tactic.MkIffOfInductiveProp

/-! Under which conditions a text of a template comes to be copied. A text that occurs only in branches with a
certain test is copied exactly when the test is true, whatever the names mean and whatever is printed between the
texts. -/

set_option autoImplicit false

namespace ClientGen.Template

open Outcome (Yields)

/-- A template copies a text that has this one in it. What is printed for an expression does not count. -/
def Emits (fragments : List Fragment) (text : List Char) : Prop :=
  ∃ copied, .copied copied ∈ fragments ∧ Text.isPartOf text copied = true

section
variable {text : List Char}

theorem not_emits_nil : ¬ Emits [] text := by
  rintro ⟨_, among, _⟩
  cases among

theorem not_emits_printed (shown : String) : ¬ Emits [.printed shown] text := by
  rintro ⟨_, among, _⟩
  rw [List.mem_singleton] at among
  cases among

theorem emits_copied {copied : List Char} : Emits [.copied copied] text ↔ Text.isPartOf text copied = true := by
  constructor
  · rintro ⟨_, among, part⟩
    rw [List.mem_singleton] at among
    cases among
    exact part
  · exact fun part => ⟨copied, List.mem_singleton_self _, part⟩

theorem Emits.of_infix {part : List Char} {fragments : List Fragment} (emits : Emits fragments text)
    (within : part <:+: text) : Emits fragments part := by
  obtain ⟨copied, among, occurs⟩ := emits
  rw [Text.isPartOf_iff_infix] at occurs
  exact ⟨copied, among, Text.isPartOf_iff_infix.mpr (within.trans occurs)⟩

theorem emits_append {first rest : List Fragment} :
    Emits (first ++ rest) text ↔ Emits first text ∨ Emits rest text := by
  simp only [Emits, List.mem_append, or_and_right, exists_or]

theorem emits_flatten {parts : List (List Fragment)} :
    Emits parts.flatten text ↔ ∃ part ∈ parts, Emits part text := by
  constructor
  · rintro ⟨copied, among, occurs⟩
    obtain ⟨part, listed, among⟩ := List.mem_flatten.mp among
    exact ⟨part, listed, copied, among, occurs⟩
  · rintro ⟨part, listed, copied, among, occurs⟩
    exact ⟨copied, List.mem_flatten.mpr ⟨part, listed, among⟩, occurs⟩

end

mutual

def Node.keepsNames : Node → Bool
  | .assign _ _ => false
  | .choice branches otherwise => branchesKeepNames branches && nodesKeepNames otherwise
  | _ => true

def branchesKeepNames : List (Expr × List Node) → Bool
  | [] => true
  | (_, nodes) :: rest => nodesKeepNames nodes && branchesKeepNames rest

def nodesKeepNames : List Node → Bool
  | [] => true
  | node :: rest => node.keepsNames && nodesKeepNames rest

end

section
variable {inclusion : Inclusion} {env : Env}

mutual

theorem Node.render_keepsNames {node : Node} (keeps : node.keepsNames = true) :
    Yields (·.2 = env) (node.render inclusion env) := by
  match node with
  | .text s => exact .ok rfl
  | .output e => exact .bind_any fun d _ => .ok rfl
  | .choice branches otherwise =>
    simp only [Node.keepsNames, Bool.and_eq_true] at keeps
    refine (renderBranches_keepNames keeps.1).bind fun chosen _ kept => ?_
    cases chosen with
    | some rendered => exact .ok (kept rendered rfl)
    | none => exact renderNodes_keepNames keeps.2
  | .loop variableName elements test body otherwise =>
    refine .bind_any fun d _ => .bind_any fun all _ => .bind_any fun passed _ => ?_
    split
    · exact .bind_any fun rendered _ => .ok rfl
    · exact .bind_any fun parts _ => .ok rfl
  | .inclusion template mayBeMissing => exact .bind_any fun d _ => .bind_any fun rendered _ => .ok rfl

theorem renderBranches_keepNames {branches : List (Expr × List Node)}
    (keep : branchesKeepNames branches = true) :
    Yields (fun chosen => ∀ rendered ∈ chosen, rendered.2 = env) (renderBranches inclusion env branches) := by
  match branches with
  | [] => exact .ok nofun
  | (test, nodes) :: rest =>
    simp only [branchesKeepNames, Bool.and_eq_true] at keep
    refine .bind_any fun d _ => ?_
    split
    · exact (renderNodes_keepNames keep.1).bind fun rendered _ kept => .ok (by rintro _ ⟨⟩; exact kept)
    · exact renderBranches_keepNames keep.2

theorem renderNodes_keepNames {nodes : List Node} (keep : nodesKeepNames nodes = true) :
    Yields (·.2 = env) (renderNodes inclusion env nodes) := by
  match nodes with
  | [] => exact .ok rfl
  | node :: rest =>
    simp only [nodesKeepNames, Bool.and_eq_true] at keep
    refine (Node.render_keepsNames keep.1).bind fun first _ kept => ?_
    dsimp only
    rw [kept]
    exact (renderNodes_keepNames keep.2).bind fun more _ kept => .ok kept

end

end

mutual

/-- No text with this one in it stands outside the branches with a guarded test. Within loops, whose names are
others, no test is guarded. Included are only templates of these names. -/
def Node.hides (text : List Char) (included : List String) (guard : Option (Expr → Bool)) : Node → Bool
  | .text s => !Text.isPartOf text s
  | .output _ | .assign _ _ => true
  | .choice branches otherwise =>
    branchesHide text included guard branches && nodesHide text included guard otherwise
  | .loop _ _ _ body otherwise => nodesHide text included none body && nodesHide text included none otherwise
  | .inclusion template _ => template.namesOneOf included

def branchesHide (text : List Char) (included : List String) (guard : Option (Expr → Bool)) :
    List (Expr × List Node) → Bool
  | [] => true
  | (test, nodes) :: rest =>
    (guard.any (· test) || nodesHide text included guard nodes) && branchesHide text included guard rest

def nodesHide (text : List Char) (included : List String) (guard : Option (Expr → Bool)) : List Node → Bool
  | [] => true
  | node :: rest => node.hides text included guard && nodesHide text included guard rest

end

def Shut (env : Env) (guard : Option (Expr → Bool)) : Prop :=
  ∀ isGuarded ∈ guard, ∀ test, isGuarded test = true → ∀ d, test.eval env = .ok d → d.isTrue = false

theorem Shut.never (env : Env) : Shut env none := nofun

def Silent (inclusion : Inclusion) (included : List String) (text : List Char) : Prop :=
  ∀ name ∈ included, ∀ (env : Env) (mayBeMissing : Bool) (fragments : List Fragment),
    inclusion env (.text name) mayBeMissing = .ok fragments → ¬ Emits fragments text

theorem Silent.none (inclusion : Inclusion) (text : List Char) : Silent inclusion [] text :=
  fun _ among => absurd among List.not_mem_nil

section
variable {inclusion : Inclusion} {included : List String} {text : List Char}

mutual

theorem Node.render_hides (silent : Silent inclusion included text) {guard : Option (Expr → Bool)} {env : Env}
    (shut : Shut env guard) {node : Node} (keeps : guard.isSome = true → node.keepsNames = true)
    (hides : node.hides text included guard = true) :
    Yields (fun rendered => ¬ Emits rendered.1 text) (node.render inclusion env) := by
  match node with
  | .text s => exact .ok (by rw [emits_copied]; simpa [Node.hides] using hides)
  | .output e => exact .bind_any fun d _ => .ok (not_emits_printed _)
  | .assign name e => exact .bind_any fun d _ => .ok not_emits_nil
  | .choice branches otherwise =>
    simp only [Node.hides, Node.keepsNames, Bool.and_eq_true] at hides keeps
    refine (renderBranches_hide silent shut (keeps · |>.1) hides.1).bind fun chosen _ quiet => ?_
    cases chosen with
    | some rendered => exact .ok (quiet rendered rfl)
    | none => exact renderNodes_hide silent shut (keeps · |>.2) hides.2
  | .loop variableName elements test body otherwise =>
    simp only [Node.hides, Bool.and_eq_true] at hides
    refine .bind_any fun d _ => .bind_any fun all _ => .bind_any fun passed _ => ?_
    split
    · exact (renderNodes_hide silent (.never _) nofun hides.2).bind fun rendered _ quiet => .ok quiet
    · refine (Yields.mapM (Q := (¬ Emits · text)) fun turn _ => ?_).bind fun parts _ quiet => .ok ?_
      · exact (renderNodes_hide silent (.never _) nofun hides.1).map fun _ quiet => quiet
      · rw [emits_flatten]
        rintro ⟨part, listed, emits⟩
        exact quiet part listed emits
  | .inclusion template mayBeMissing =>
    obtain ⟨name, among, evaluated⟩ := Expr.eval_of_namesOneOf hides
    rw [Node.render, evaluated, Outcome.ok_bind]
    exact .bind_any fun rendered done => .ok (silent name among env mayBeMissing rendered done)

theorem renderBranches_hide (silent : Silent inclusion included text) {guard : Option (Expr → Bool)} {env : Env}
    (shut : Shut env guard) {branches : List (Expr × List Node)}
    (keep : guard.isSome = true → branchesKeepNames branches = true)
    (hide : branchesHide text included guard branches = true) :
    Yields (fun chosen => ∀ rendered ∈ chosen, ¬ Emits rendered.1 text)
      (renderBranches inclusion env branches) := by
  match branches with
  | [] => exact .ok nofun
  | (test, nodes) :: rest =>
    simp only [branchesHide, branchesKeepNames, Bool.and_eq_true] at hide keep
    refine .bind_any fun d evaluated => ?_
    split
    case isFalse => exact renderBranches_hide silent shut (keep · |>.2) hide.2
    case isTrue taken =>
      rcases Bool.or_eq_true_iff.mp hide.1 with guarded | inside
      · cases guard with
        | none => cases guarded
        | some isGuarded =>
          rw [shut isGuarded rfl test guarded d evaluated] at taken
          cases taken
      · refine (renderNodes_hide silent shut (keep · |>.1) inside).bind fun rendered _ quiet => .ok ?_
        rintro _ ⟨⟩
        exact quiet

theorem renderNodes_hide (silent : Silent inclusion included text) {guard : Option (Expr → Bool)} {env : Env}
    (shut : Shut env guard) {nodes : List Node} (keep : guard.isSome = true → nodesKeepNames nodes = true)
    (hide : nodesHide text included guard nodes = true) :
    Yields (fun rendered => ¬ Emits rendered.1 text) (renderNodes inclusion env nodes) := by
  match nodes with
  | [] => exact .ok not_emits_nil
  | node :: rest =>
    simp only [nodesHide, nodesKeepNames, Bool.and_eq_true] at hide keep
    refine (Node.render_hides silent shut (keep · |>.1) hide.1).bind fun first done quiet => ?_
    have shutAfter : Shut first.2 guard := by
      cases guard with
      | none => exact nofun
      | some isGuarded =>
        rw [Node.render_keepsNames (keep rfl).1 first done]
        exact shut
    refine (renderNodes_hide silent shutAfter (keep · |>.2) hide.2).bind fun more _ silence => .ok ?_
    rw [emits_append, not_or]
    exact ⟨quiet, silence⟩

end

theorem renderNodes_hide_always (silent : Silent inclusion included text) {nodes : List Node}
    (hide : nodesHide text included none nodes = true) (env : Env) :
    Yields (fun rendered => ¬ Emits rendered.1 text) (renderNodes inclusion env nodes) :=
  renderNodes_hide silent (.never env) nofun hide

end

def Node.copies (text : List Char) : Node → Bool
  | .text s => Text.isPartOf text s
  | _ => false

def Node.shows (text : List Char) (isGuarded : Expr → Bool) : Node → Bool
  | .choice ((test, nodes) :: _) _ => isGuarded test && nodes.any (Node.copies text)
  | _ => false

section
variable {inclusion : Inclusion} {text : List Char}

theorem renderNodes_copies {nodes : List Node} (copies : nodes.any (Node.copies text) = true) {env : Env} :
    Yields (fun rendered => Emits rendered.1 text) (renderNodes inclusion env nodes) := by
  induction nodes generalizing env with
  | nil => cases copies
  | cons node rest ih =>
    rw [renderNodes]
    rcases Bool.or_eq_true_iff.mp (List.any_cons ▸ copies) with here | later
    · refine .bind_any fun first done => .bind_any fun more _ => .ok (emits_append.mpr (.inl ?_))
      cases node with
      | text s =>
        cases done
        exact emits_copied.mpr here
      | _ => cases here
    · refine .bind_any fun first _ => (ih later).bind fun more _ emits => .ok (emits_append.mpr (.inr emits))

theorem Node.render_shows {isGuarded : Expr → Bool} {node : Node} (shows : node.shows text isGuarded = true)
    {env : Env} :
    Yields (fun rendered => ∃ test d, isGuarded test = true ∧ test.eval env = .ok d ∧
      (d.isTrue = true → Emits rendered.1 text)) (node.render inclusion env) := by
  intro rendered done
  cases node with
  | choice branches otherwise =>
    cases branches with
    | nil => cases shows
    | cons branch rest =>
      obtain ⟨test, nodes⟩ := branch
      simp only [Node.shows, Bool.and_eq_true] at shows
      simp only [Node.render, renderBranches, Outcome.bind_eq_ok] at done
      obtain ⟨chosen, ⟨d, evaluated, decided⟩, same⟩ := done
      refine ⟨test, d, shows.1, evaluated, fun holds => ?_⟩
      rw [if_pos holds] at decided
      obtain ⟨inner, done, chose⟩ := Outcome.bind_eq_ok.mp decided
      cases chose
      cases same
      exact renderNodes_copies shows.2 _ done
  | _ => cases shows

theorem renderNodes_shows {isGuarded : Expr → Bool} {nodes : List Node}
    (shows : nodes.any (Node.shows text isGuarded) = true) (keep : nodesKeepNames nodes = true) {env : Env} :
    Yields (fun rendered => ∃ test d, isGuarded test = true ∧ test.eval env = .ok d ∧
      (d.isTrue = true → Emits rendered.1 text)) (renderNodes inclusion env nodes) := by
  induction nodes with
  | nil => cases shows
  | cons node rest ih =>
    simp only [nodesKeepNames, Bool.and_eq_true] at keep
    rw [renderNodes]
    rcases Bool.or_eq_true_iff.mp (List.any_cons ▸ shows) with here | later
    · refine (Node.render_shows here).bind fun first _ decided => .bind_any fun more _ => .ok ?_
      obtain ⟨test, d, guarded, evaluated, emits⟩ := decided
      exact ⟨test, d, guarded, evaluated, fun holds => emits_append.mpr (.inl (emits holds))⟩
    · refine (Node.render_keepsNames keep.1).bind fun first _ kept => ?_
      dsimp only
      rw [kept]
      refine (ih later keep.2).bind fun more _ decided => .ok ?_
      obtain ⟨test, d, guarded, evaluated, emits⟩ := decided
      exact ⟨test, d, guarded, evaluated, fun holds => emits_append.mpr (.inr (emits holds))⟩

end

/-- The first text occurs only where the guarded test is true, and where it is true the second one does. -/
@[mk_iff]
structure GuardedBy (isGuarded : Expr → Bool) (included : List String) (hidden shown : List Char)
    (nodes : List Node) : Prop where
  hide : nodesHide hidden included (some isGuarded) nodes = true
  shows : nodes.any (Node.shows shown isGuarded) = true

theorem GuardedBy.decides {isGuarded : Expr → Bool} {included : List String} {hidden shown : List Char}
    {nodes : List Node} (guarded : GuardedBy isGuarded included hidden shown nodes)
    (keep : nodesKeepNames nodes = true) {inclusion : Inclusion} (silent : Silent inclusion included hidden)
    {env : Env} {evaluated : Except Failure Datum} (test : ∀ e, isGuarded e = true → e.eval env = evaluated) :
    Yields (fun rendered => ∃ d, evaluated = .ok d ∧ (Emits rendered.1 hidden → d.isTrue = true) ∧
      (d.isTrue = true → Emits rendered.1 shown)) (renderNodes inclusion env nodes) := by
  intro rendered done
  obtain ⟨e, d, among, same, shows⟩ := renderNodes_shows guarded.shows keep rendered done
  rw [test e among] at same
  refine ⟨d, same, fun emits => ?_, shows⟩
  by_contra untrue
  refine renderNodes_hide silent (fun isOther given e among other evaluated => ?_) (fun _ => keep) guarded.hide
    rendered done emits
  cases given
  rw [test e among, same] at evaluated
  cases evaluated
  exact Bool.eq_false_iff.mpr untrue

end ClientGen.Template
