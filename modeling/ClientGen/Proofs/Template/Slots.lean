import ClientGen.Proofs.Template.Comments
import ClientGen.Proofs.Template.Shape

/-! What a template prints into comments can be told from the template: some of its nodes, which print by themselves
what the whole prints there. -/

set_option autoImplicit false

namespace ClientGen.Template

open Outcome (Yields)

def Expr.plainText? : Expr → Option String
  | .literal (.text s) => if s.toList.all (fun c => c != '*' && c != '/') then some s else none
  | _ => none

def Node.isAssign : Node → Bool
  | .assign _ _ => true
  | _ => false

mutual

/-- Where a template stands after a node, and those parts of the node that print into comments. The included templates
that are known are given by such parts. -/
def Node.comments (known : List (String × List Node)) (start : Position) : Node → Option (Position × List Node)
  | .text s => (start.across s).map (·, [])
  | .output e =>
    match e.plainText? with
    | some s => (start.across s.toList).map (·, [])
    | none =>
      match start with
      | .code => some (.code, [])
      | .comment => some (.printed, [.output e])
      | _ => none
  | .choice branches otherwise => do
    let (last, others) ← nodesComments known start otherwise
    let (ending, kept) ← branchesComments known start last branches
    return (ending, if kept.all (·.2.isEmpty) && others.isEmpty then [] else [.choice kept others])
  | .loop variableName elements test body otherwise => do
    let (ending, kept) ← nodesComments known start body
    let (last, others) ← nodesComments known start otherwise
    if ending = start ∧ last = start then
      some (start, if kept.all Node.isAssign && others.all Node.isAssign then [] else
        [.loop variableName elements test kept others])
    else none
  | .assign name e => some (start, [.assign name e])
  | .inclusion template _ =>
    match start, template with
    | .code, .literal (.text name) => (known.lookup name).map (.code, ·)
    | _, _ => none

def branchesComments (known : List (String × List Node)) (start last : Position) :
    List (Expr × List Node) → Option (Position × List (Expr × List Node))
  | [] => some (last, [])
  | (test, nodes) :: rest => do
    let (here, kept) ← nodesComments known start nodes
    let (there, others) ← branchesComments known start last rest
    let ending ← here.join there
    return (ending, (test, kept) :: others)

def nodesComments (known : List (String × List Node)) (start : Position) : List Node → Option (Position × List Node)
  | [] => some (start, [])
  | node :: rest => do
    let (middle, kept) ← node.comments known start
    let (ending, others) ← nodesComments known middle rest
    return (ending, kept ++ others)

end

/-- A rendering of nodes, of which these parts print into comments what they print by themselves. -/
def Follows (other : Inclusion) (env : Env) (start ending : Position) (kept : List Node)
    (rendered : List Fragment × Env) : Prop :=
  ∃ fragments, renderNodes other env kept = .ok (fragments, rendered.2) ∧
    Passes start (marksOf rendered.1) ending (fragments.map Fragment.text)

def Covers (inclusion other : Inclusion) (known : List (String × List Node)) : Prop :=
  ∀ name kept, known.lookup name = some kept → ∀ (env : Env) (mayBeMissing : Bool),
    Yields (fun fragments => Follows other env .code .code kept (fragments, env))
      (inclusion env (.text name) mayBeMissing)

theorem Covers.none (inclusion other : Inclusion) : Covers inclusion other [] := by
  rintro _ _ ⟨⟩

theorem Expr.eval_of_plainText? {e : Expr} {s : String} (plain : e.plainText? = some s) :
    (∀ env : Env, e.eval env = .ok (.text s)) ∧ ∀ c ∈ s.toList, c ≠ '*' ∧ c ≠ '/' := by
  unfold plainText? at plain
  split at plain
  · split at plain
    case isTrue each =>
      cases plain
      exact ⟨fun _ => rfl, by simpa using each⟩
    case isFalse => cases plain
  · cases plain

theorem renderNodes_singleton (inclusion : Inclusion) (env : Env) (node : Node) :
    renderNodes inclusion env [node] = node.render inclusion env := by
  rw [renderNodes]
  cases node.render inclusion env <;> simp [renderNodes]

theorem renderNodes_assigns (other : Inclusion) (env : Env) {nodes : List Node}
    (assigns : nodes.all Node.isAssign = true) : Yields (·.1 = []) (renderNodes other env nodes) := by
  induction nodes generalizing env with
  | nil => exact .ok rfl
  | cons node rest ih =>
    rw [List.all_cons, Bool.and_eq_true] at assigns
    cases node with
    | assign name e =>
      rw [renderNodes, Node.render, bind_assoc]
      exact .bind_any fun d _ => (ih _ assigns.2).bind fun more _ none => .ok none
    | _ => cases assigns.1

theorem loop_assigns (other : Inclusion) (env : Env) (variableName : String) (elements : Expr) (test : Option Expr)
    {body otherwise : List Node} (assigns : (body.all Node.isAssign && otherwise.all Node.isAssign) = true) :
    Yields (· = ([], env)) ((Node.loop variableName elements test body otherwise).render other env) := by
  rw [Bool.and_eq_true] at assigns
  refine .bind_any fun d _ => .bind_any fun all _ => .bind_any fun passed _ => ?_
  split
  · exact (renderNodes_assigns other env assigns.2).bind fun rendered _ none => .ok (by rw [none])
  · have each (turn : Env) : Yields (· = []) ((renderNodes other turn body).map (·.1)) :=
      (renderNodes_assigns other turn assigns.1).map fun _ none => none
    refine (Yields.mapM fun turn _ => each turn).bind fun parts _ none => .ok ?_
    rw [List.flatten_eq_nil_iff.mpr none]

theorem choice_empty (other : Inclusion) (env : Env) {branches : List (Expr × List Node)} {otherwise : List Node}
    (empty : (branches.all (·.2.isEmpty) && otherwise.isEmpty) = true) :
    Yields (· = ([], env)) ((Node.choice branches otherwise).render other env) := by
  rw [Bool.and_eq_true, List.isEmpty_iff] at empty
  obtain ⟨empty, rfl⟩ := empty
  have chosen :
      Yields (fun chosen => ∀ rendered ∈ chosen, rendered = ([], env)) (renderBranches other env branches) := by
    induction branches with
    | nil => exact .ok fun _ among => absurd among (Option.not_mem_none _)
    | cons branch rest ih =>
      obtain ⟨test, nodes⟩ := branch
      rw [List.all_cons, Bool.and_eq_true, List.isEmpty_iff] at empty
      obtain ⟨rfl, empty⟩ := empty
      refine .bind_any fun d _ => ?_
      split
      · refine .ok ?_
        rintro _ ⟨⟩
        rfl
      · exact ih empty
  refine chosen.bind fun chosen _ none => ?_
  cases chosen with
  | some rendered => exact .ok (none rendered rfl)
  | none => exact .ok rfl

section
variable {inclusion other : Inclusion} {known : List (String × List Node)} {env : Env}
  {start ending : Position} {fragments : List Fragment} {rendered : List Fragment × Env}

theorem follows_unless {node : Node} {prune : Bool} (made : node.render other env = .ok (fragments, rendered.2))
    (passes : Passes start (marksOf rendered.1) ending (fragments.map Fragment.text))
    (nothing : prune = true → Yields (· = ([], env)) (node.render other env)) :
    Follows other env start ending (if prune then [] else [node]) rendered := by
  cases prune with
  | false => exact ⟨fragments, (renderNodes_singleton other env node).trans made, passes⟩
  | true =>
    obtain ⟨rfl, kept⟩ := Prod.mk.inj (nothing rfl _ made)
    exact ⟨[], by rw [kept]; rfl, passes⟩

theorem passes_turns {f g : Env → Except Failure (List Fragment)}
    (each : ∀ turn, Yields (fun fragments => ∃ pieces, g turn = .ok pieces ∧
      Passes start (marksOf fragments) start (pieces.map Fragment.text)) (f turn)) (envs : List Env) :
    Yields (fun parts => ∃ pieces, envs.mapM g = .ok pieces ∧
      Passes start (marksOf parts.flatten) start (pieces.flatten.map Fragment.text)) (envs.mapM f) := by
  induction envs with
  | nil => exact .ok ⟨[], rfl, .nil start⟩
  | cons turn rest ih =>
    rw [List.mapM_cons, List.mapM_cons]
    refine (each turn).bind fun part _ ⟨piece, made, here⟩ => ih.bind fun parts _ ⟨pieces, others, later⟩ => .ok ?_
    refine ⟨piece :: pieces, by rw [made, others]; rfl, ?_⟩
    rw [List.flatten_cons, List.flatten_cons, marksOf_append, List.map_append]
    exact here.append later

theorem reaches_of_branches {branches : List (Expr × List Node)} {last : Position} {kept : List (Expr × List Node)}
    (traced : branchesComments known start last branches = some (ending, kept)) : last.Reaches ending := by
  induction branches generalizing ending kept with
  | nil =>
    cases traced
    exact .inl rfl
  | cons branch rest ih =>
    simp only [branchesComments, Option.bind_eq_bind, Option.bind_eq_some_iff, Option.pure_def,
      Option.some.injEq] at traced
    obtain ⟨here, _, there, later, joined, join, same⟩ := traced
    cases same
    exact (ih later).trans (Position.reaches_of_join join).2

theorem output_follows {e : Expr} {kept : List Node}
    (traced : (Node.output e).comments known start = some (ending, kept)) :
    Yields (Follows other env start ending kept) ((Node.output e).render inclusion env) := by
  unfold Node.comments at traced
  rw [Node.render]
  split at traced
  case h_1 s plain =>
    simp only [Option.map_eq_some_iff, Prod.mk.injEq] at traced
    obtain ⟨_, moved, rfl, rfl⟩ := traced
    obtain ⟨evaluated, each⟩ := Expr.eval_of_plainText? plain
    rw [evaluated]
    exact .ok ⟨[], rfl, marksOf_printed s ▸ .across (.inr each) moved⟩
  case h_2 =>
    refine .bind_any fun d evaluated => .ok ?_
    split at traced <;> cases traced
    · exact ⟨[], rfl, marksOf_printed d.shown ▸ .printed_code d.shown⟩
    · refine ⟨[.printed d.shown], ?_, marksOf_printed d.shown ▸ .printed_comment d.shown⟩
      rw [renderNodes_singleton, Node.render, evaluated]
      rfl

theorem loop_follows {variableName : String} {elements : Expr} {test : Option Expr}
    {body otherwise keptBody others : List Node}
    (inBody : ∀ turn, Yields (Follows other turn start start keptBody) (renderNodes inclusion turn body))
    (inOtherwise : Yields (Follows other env start start others) (renderNodes inclusion env otherwise)) :
    Yields (Follows other env start start (if keptBody.all Node.isAssign && others.all Node.isAssign then []
        else [.loop variableName elements test keptBody others]))
      ((Node.loop variableName elements test body otherwise).render inclusion env) := by
  refine .bind_any fun d evaluated => .bind_any fun all listed => .bind_any fun passed tested => ?_
  have again : (Node.loop variableName elements test keptBody others).render other env =
      if passed.isEmpty then do return ((← renderNodes other env others).1, env)
      else do
        let parts ← (turns env variableName passed).mapM fun turn => (renderNodes other turn keptBody).map (·.1)
        return (parts.flatten, env) := by
    rw [Node.render, evaluated, Outcome.ok_bind, listed, Outcome.ok_bind, tested, Outcome.ok_bind]
  by_cases empty : passed.isEmpty = true
  · rw [if_pos empty]
    refine inOtherwise.bind fun rendered _ ⟨fragments, made, passes⟩ => .ok ?_
    refine follows_unless ?_ passes (loop_assigns other env _ _ _)
    rw [again, if_pos empty, made]
    rfl
  · rw [if_neg empty]
    have each (turn : Env) : Yields (fun part => ∃ piece, (renderNodes other turn keptBody).map (·.1) = .ok piece ∧
        Passes start (marksOf part) start (piece.map Fragment.text)) ((renderNodes inclusion turn body).map (·.1)) :=
      (inBody turn).map fun _ ⟨piece, made, passes⟩ => ⟨piece, by rw [made]; rfl, passes⟩
    refine (passes_turns each _).bind fun parts _ ⟨pieces, made, passes⟩ => .ok ?_
    refine follows_unless ?_ passes (loop_assigns other env _ _ _)
    rw [again, if_neg empty, made]
    rfl

def BranchFollows (other : Inclusion) (env : Env) (start ending : Position) (kept : List (Expr × List Node)) :
    Option (List Fragment × Env) → Prop
  | none => renderBranches other env kept = .ok none
  | some rendered => ∃ fragments, renderBranches other env kept = .ok (some (fragments, rendered.2)) ∧
      Passes start (marksOf rendered.1) ending (fragments.map Fragment.text)

mutual

theorem Node.render_comments (covers : Covers inclusion other known) {env : Env} {start ending : Position} {node : Node}
    {kept : List Node} (traced : node.comments known start = some (ending, kept)) :
    Yields (Follows other env start ending kept) (node.render inclusion env) := by
  match node with
  | .text s =>
    simp only [Node.comments, Option.map_eq_some_iff, Prod.mk.injEq] at traced
    obtain ⟨_, moved, rfl, rfl⟩ := traced
    exact .ok ⟨[], rfl, marksOf_copied s ▸ .across (.inl rfl) moved⟩
  | .output e =>
    exact output_follows traced
  | .assign name e =>
    cases traced
    refine .bind_any fun d evaluated => .ok ⟨[], ?_, .nil _⟩
    rw [renderNodes_singleton, Node.render, evaluated]
    rfl
  | .choice branches otherwise =>
    simp only [Node.comments, Option.bind_eq_bind, Option.bind_eq_some_iff, Option.pure_def,
      Option.some.injEq] at traced
    obtain ⟨⟨last, others⟩, inOtherwise, ⟨_, keptBranches⟩, inBranches, same⟩ := traced
    cases same
    refine (renderBranches_comments covers inBranches).bind fun chosen _ follows => ?_
    cases chosen with
    | some rendered =>
      obtain ⟨fragments, made, passes⟩ := follows
      exact .ok (follows_unless (by rw [Node.render, made]; rfl) passes (choice_empty other env))
    | none =>
      intro rendered done
      obtain ⟨fragments, made, passes⟩ := renderNodes_comments covers inOtherwise rendered done
      refine follows_unless ?_ (passes.reach (reaches_of_branches inBranches)) (choice_empty other env)
      rw [Node.render, show renderBranches other env keptBranches = .ok none from follows]
      exact made
  | .loop variableName elements test body otherwise =>
    simp only [Node.comments, Option.bind_eq_bind, Option.bind_eq_some_iff, Option.ite_none_right_eq_some,
      Option.some.injEq] at traced
    obtain ⟨⟨_, keptBody⟩, inBody, ⟨position, others⟩, inOtherwise, ⟨rfl, rfl⟩, same⟩ := traced
    cases same
    exact loop_follows (fun turn => renderNodes_comments covers inBody) (renderNodes_comments covers inOtherwise)
  | .inclusion template mayBeMissing =>
    unfold Node.comments at traced
    split at traced
    · obtain ⟨_, found, same⟩ := Option.map_eq_some_iff.mp traced
      cases same
      exact (covers _ _ found env mayBeMissing).bind fun included _ follows => .ok follows
    · cases traced

theorem renderBranches_comments (covers : Covers inclusion other known) {env : Env} {start last ending : Position}
    {branches kept : List (Expr × List Node)}
    (traced : branchesComments known start last branches = some (ending, kept)) :
    Yields (BranchFollows other env start ending kept) (renderBranches inclusion env branches) := by
  match branches with
  | [] =>
    cases traced
    exact .ok rfl
  | (test, nodes) :: rest =>
    simp only [branchesComments, Option.bind_eq_bind, Option.bind_eq_some_iff, Option.pure_def,
      Option.some.injEq] at traced
    obtain ⟨⟨here, keptNodes⟩, inNodes, ⟨there, others⟩, inRest, joined, join, same⟩ := traced
    cases same
    obtain ⟨reachesHere, reachesThere⟩ := Position.reaches_of_join join
    refine .bind_any fun d evaluated => ?_
    split
    case isTrue holds =>
      refine (renderNodes_comments covers inNodes).bind fun rendered _ ⟨fragments, made, passes⟩ => .ok ?_
      refine ⟨fragments, ?_, passes.reach reachesHere⟩
      rw [renderBranches, evaluated, Outcome.ok_bind, if_pos holds, made]
      rfl
    case isFalse fails =>
      intro chosen done
      have follows := renderBranches_comments covers inRest chosen done
      have skipped : renderBranches other env ((test, keptNodes) :: others) = renderBranches other env others := by
        rw [renderBranches, evaluated, Outcome.ok_bind, if_neg fails]
      cases chosen with
      | none => exact skipped.trans follows
      | some rendered =>
        obtain ⟨fragments, made, passes⟩ := follows
        exact ⟨fragments, skipped.trans made, passes.reach reachesThere⟩

theorem renderNodes_comments (covers : Covers inclusion other known) {env : Env} {start ending : Position}
    {nodes kept : List Node} (traced : nodesComments known start nodes = some (ending, kept)) :
    Yields (Follows other env start ending kept) (renderNodes inclusion env nodes) := by
  match nodes with
  | [] =>
    cases traced
    exact .ok ⟨[], rfl, .nil _⟩
  | node :: rest =>
    simp only [nodesComments, Option.bind_eq_bind, Option.bind_eq_some_iff, Option.pure_def,
      Option.some.injEq] at traced
    obtain ⟨⟨middle, here⟩, inNode, ⟨_, others⟩, inRest, same⟩ := traced
    cases same
    refine (Node.render_comments covers inNode).bind fun first _ ⟨pieces, made, passes⟩ => ?_
    refine (renderNodes_comments covers inRest).bind fun more _ ⟨later, completed, passesLater⟩ => .ok ?_
    refine ⟨pieces ++ later, ?_, ?_⟩
    · rw [renderNodes_append, made, Outcome.ok_bind, completed]
      rfl
    · rw [marksOf_append, List.map_append]
      exact passes.append passesLater

end

end

def IsPartOf (partials : Partials) (part : String × List Node) : Prop :=
  nodesKeepNames part.2 = true ∧ ∃ source nodes, partials.lookup part.1 = some source ∧
    ofSource source = .ok nodes ∧ nodesComments [] .code nodes = some (.code, part.2)

theorem covers_of_partials {partials : Partials} {known : List (String × List Node)}
    (each : ∀ part ∈ known, IsPartOf partials part) (other : Inclusion) (depth : Nat) :
    Covers (includeFrom partials (renderWithin partials depth)) other known := by
  intro name kept found env mayBeMissing
  obtain ⟨before, after, rfl, _⟩ := List.lookup_eq_some_iff.mp found
  obtain ⟨keep, source, nodes, listed, read, traced⟩ := each (name, kept) (List.mem_append_right _ List.mem_cons_self)
  simp only [includeFrom, Datum.text, listed, read, Outcome.ok_bind]
  cases depth with
  | zero => exact .error _
  | succ depth =>
    refine (renderNodes_comments (.none _ other) traced).map fun rendered ⟨slots, made, passes⟩ => ⟨slots, ?_, passes⟩
    have kept : rendered.2 = env := renderNodes_keepNames keep (slots, rendered.2) made
    rw [made, kept]

/-- The comments of a template are ended by templates exactly if nothing that is printed into one ends it. -/
theorem fragments_comments {partials : Partials} {known : List (String × List Node)} {source : Value}
    {nodes kept : List Node} (each : ∀ part ∈ known, IsPartOf partials part) (read : ofSource source = .ok nodes)
    (traced : nodesComments known .code nodes = some (.code, kept))
    (other : Inclusion) (env : Env) :
    Yields (fun fragments => ∃ slots after, renderNodes other env kept = .ok (slots, after) ∧
      (ClosesComments (marksOf fragments) ↔ ∀ slot ∈ slots, ¬ EndsComment slot.text))
      (fragments partials source env) := by
  rw [fragments_of_read read, inclusionDepth, renderWithin]
  refine (renderNodes_comments (covers_of_partials each other _) traced).map fun rendered ⟨slots, made, passes⟩ => ?_
  obtain ⟨_, closes⟩ := passes [] trivial
  have nothing : ClosesComments [] := fun _ opened => by simp at opened
  refine ⟨slots, _, made, ?_⟩
  simpa [Position.Good, nothing] using closes

/-! ## The texts that parts print -/

/-- The texts that the nodes print one after another. They copy none and set no name. -/
def Prints (inclusion : Inclusion) (env : Env) (nodes : List Node) (texts : List String) : Prop :=
  ∃ fragments, renderNodes inclusion env nodes = .ok (fragments, env) ∧ fragments.map Fragment.text = texts

namespace Prints

variable {inclusion : Inclusion} {env : Env} {nodes body others : List Node} {first second texts : List String}

theorem nil : Prints inclusion env [] [] := ⟨[], rfl, rfl⟩

theorem cons {node : Node} {fragments : List Fragment} (rendered : node.render inclusion env = .ok (fragments, env))
    (rest : Prints inclusion env nodes texts) :
    Prints inclusion env (node :: nodes) (fragments.map Fragment.text ++ texts) := by
  obtain ⟨more, made, rfl⟩ := rest
  refine ⟨fragments ++ more, ?_, List.map_append⟩
  rw [renderNodes, rendered]
  simp only [Outcome.ok_bind, made]
  rfl

theorem append (begun : Prints inclusion env nodes first) (rest : Prints inclusion env others second) :
    Prints inclusion env (nodes ++ others) (first ++ second) := by
  obtain ⟨fragments, made, rfl⟩ := begun
  obtain ⟨more, later, rfl⟩ := rest
  refine ⟨fragments ++ more, ?_, List.map_append⟩
  rw [renderNodes_append, made, Outcome.ok_bind, later]
  rfl

theorem output {e : Expr} {d : Datum} (value : e.eval env = .ok d) (rest : Prints inclusion env nodes texts) :
    Prints inclusion env (.output e :: nodes) (d.shown :: texts) := by
  have printed : (Node.output e).render inclusion env = .ok ([.printed d.shown], env) := by
    rw [Node.render, value]
    rfl
  exact cons printed rest

theorem choice {test : Expr} {d : Datum} (value : test.eval env = .ok d) (branch : Prints inclusion env body first)
    (otherwise : Prints inclusion env others second) (rest : Prints inclusion env nodes texts) :
    Prints inclusion env (.choice [(test, body)] others :: nodes)
      ((if d.isTrue then first else second) ++ texts) := by
  obtain ⟨fragments, rendered, rfl⟩ := branch
  obtain ⟨alternative, instead, rfl⟩ := otherwise
  have chosen : (Node.choice [(test, body)] others).render inclusion env =
      .ok (if d.isTrue then fragments else alternative, env) := by
    rw [Node.render, renderBranches, value, Outcome.ok_bind]
    by_cases holds : d.isTrue = true
    · rw [if_pos holds, if_pos holds, rendered]
      rfl
    · rw [if_neg holds, if_neg holds, ← instead]
      rfl
  have both := cons chosen rest
  rwa [apply_ite (List.map Fragment.text)] at both

theorem loop {α : Type} {variableName : String} {elements : Expr} {list : Datum} {toDatum : α → Datum} {xs : List α}
    {f : α → List String} (value : elements.eval env = .ok list) (listed : list.elements = .ok (xs.map toDatum))
    (each : ∀ x record, Prints inclusion ((variableName, toDatum x) :: ("loop", record) :: env) body (f x))
    (rest : Prints inclusion env nodes texts) :
    Prints inclusion env (.loop variableName elements none body [] :: nodes) (xs.flatMap f ++ texts) := by
  obtain ⟨parts, made, same⟩ : ∃ parts, ((turns env variableName (xs.map toDatum)).mapM fun turn =>
      (renderNodes inclusion turn body).map (·.1)) = .ok parts ∧
      parts.map (List.map Fragment.text) = xs.map f := by
    refine exists_turns (fun x record => ?_) xs
    obtain ⟨fragments, rendered, same⟩ := each x record
    exact ⟨fragments, by rw [rendered]; rfl, same⟩
  have repeated : (Node.loop variableName elements none body []).render inclusion env = .ok (parts.flatten, env) := by
    rw [Node.render, value, Outcome.ok_bind, listed]
    simp only [Outcome.ok_bind, passing, made]
    split
    case isTrue none =>
      rw [List.isEmpty_iff.mp none] at made
      cases made
      rfl
    case isFalse => rfl
  have both := cons repeated rest
  rwa [List.map_flatten, same, ← List.flatMap_def] at both

end Prints

end ClientGen.Template
