import ClientGen.Proofs.Template.Copies
import Mathlib.Data.List.Infix

/-! Comments in what templates are rendered to. Texts are printed into comments as they are, so a comment goes on to
where its template ends it unless one of these texts ends it before. -/

set_option autoImplicit false

namespace ClientGen.Template

/-- A character of a rendering, and whether it is copied from a template. -/
abbrev Mark := Char × Bool

def Fragment.marks : Fragment → List Mark
  | .copied text => text.map (·, true)
  | .printed text => text.toList.map (·, false)

def marksOf (fragments : List Fragment) : List Mark := fragments.flatMap Fragment.marks

/-- What is left from the first end of a comment on. -/
def fromEnd : List Mark → List Mark
  | first :: second :: rest =>
    if first.1 = '*' ∧ second.1 = '/' then first :: second :: rest else fromEnd (second :: rest)
  | _ => []

/-- A comment that goes on like this is ended, and by characters of a template. -/
def EndedByTemplate (inside : List Mark) : Prop := [('*', true), ('/', true)] <+: fromEnd inside

/-- Wherever a template opens a documentation comment, a template ends it. The second star can be part of the end. -/
def ClosesComments (marks : List Mark) : Prop :=
  ∀ inside, ('/', true) :: ('*', true) :: ('*', true) :: inside <:+ marks → EndedByTemplate (('*', true) :: inside)

def EndsComment (text : String) : Prop := ['*', '/'] <:+: text.toList

theorem toList_textOf (fragments : List Fragment) : (textOf fragments).toList = (marksOf fragments).map (·.1) := by
  induction fragments with
  | nil => rfl
  | cons fragment rest ih =>
    have here : fragment.text.toList = fragment.marks.map (·.1) := by
      cases fragment <;> simp [Fragment.text, Fragment.marks, Function.comp_def]
    rw [textOf, List.map_cons, String.join_cons, String.toList_append, here, ← textOf, ih, marksOf, marksOf,
      List.flatMap_cons, List.map_append]

theorem marksOf_append (first rest : List Fragment) : marksOf (first ++ rest) = marksOf first ++ marksOf rest :=
  List.flatMap_append

theorem marksOf_copied (text : List Char) : marksOf [.copied text] = text.map (·, true) := List.append_nil _

theorem marksOf_printed (text : String) : marksOf [.printed text] = text.toList.map (·, false) :=
  List.append_nil _

/-! ## Where a template stands after each character -/

/-- Where a template stands: outside of comments, after the first or second character that opens one, inside of a
comment or after a star there, or after something that was printed there. -/
inductive Position where
  | code
  | slash
  | opening
  | comment
  | star
  | printed
  deriving DecidableEq

namespace Position

/-- What has to hold for what follows, so that comments are ended by templates. -/
def Good : Position → List Mark → Prop
  | code, marks => ClosesComments marks
  | slash, marks => ClosesComments (('/', true) :: marks)
  | opening, marks => ClosesComments (('/', true) :: ('*', true) :: marks)
  | comment, marks | printed, marks => EndedByTemplate marks ∧ ClosesComments marks
  | star, marks => EndedByTemplate (('*', true) :: marks) ∧ ClosesComments marks

/-- What can follow. Something printed may end with a star, so no slash comes next. -/
def Allows : Position → List Mark → Prop
  | printed, marks => ∀ mark ∈ marks.head?, mark.1 ≠ '/'
  | _, _ => True

def next (c : Char) : Position → Option Position
  | code => some (if c = '/' then slash else code)
  | slash => some (if c = '*' then opening else if c = '/' then slash else code)
  | opening => some (if c = '*' then star else if c = '/' then slash else code)
  | star => some (if c = '/' then slash else if c = '*' then star else comment)
  | comment | printed => if c = '/' then none else some (if c = '*' then star else comment)

def across (start : Position) (text : List Char) : Option Position :=
  text.foldlM (fun position c => position.next c) start

end Position

theorem fromEnd_cons {c : Char} {own : Bool} (other : c ≠ '*') (marks : List Mark) :
    fromEnd ((c, own) :: marks) = fromEnd marks := by
  cases marks with
  | nil => rfl
  | cons mark rest => rw [fromEnd, if_neg fun both => other both.1]

theorem fromEnd_star {own : Bool} {marks : List Mark} (other : ∀ mark ∈ marks.head?, mark.1 ≠ '/') :
    fromEnd (('*', own) :: marks) = fromEnd marks := by
  cases marks with
  | nil => rfl
  | cons mark rest => rw [fromEnd, if_neg fun both => other mark rfl both.2]

theorem closesComments_cons {mark : Mark} {marks : List Mark} :
    ClosesComments (mark :: marks) ↔
      (∀ inside, mark :: marks = ('/', true) :: ('*', true) :: ('*', true) :: inside →
        EndedByTemplate (('*', true) :: inside)) ∧ ClosesComments marks := by
  unfold ClosesComments
  simp only [List.suffix_cons_iff, or_imp, forall_and]
  exact and_congr_left fun _ => forall_congr' fun inside => imp_congr_left eq_comm

theorem closesComments_cons_of_ne {mark : Mark} {marks : List Mark} (other : mark ≠ ('/', true)) :
    ClosesComments (mark :: marks) ↔ ClosesComments marks := by
  rw [closesComments_cons, and_iff_right]
  intro inside same
  exact absurd (List.cons.inj same).1 other

theorem closesComments_slash {mark : Mark} {marks : List Mark} (other : mark ≠ ('*', true)) :
    ClosesComments (('/', true) :: mark :: marks) ↔ ClosesComments (mark :: marks) := by
  rw [closesComments_cons, and_iff_right]
  intro inside same
  exact absurd (List.cons.inj (List.cons.inj same).2).1 other

theorem closesComments_slash_star {mark : Mark} {marks : List Mark} (other : mark ≠ ('*', true)) :
    ClosesComments (('/', true) :: ('*', true) :: mark :: marks) ↔ ClosesComments (mark :: marks) := by
  rw [closesComments_cons, and_iff_right, closesComments_cons_of_ne (by simp)]
  intro inside same
  exact absurd (List.cons.inj (List.cons.inj (List.cons.inj same).2).2).1 other

theorem closesComments_opened {marks : List Mark} :
    ClosesComments (('/', true) :: ('*', true) :: ('*', true) :: marks) ↔
      EndedByTemplate (('*', true) :: marks) ∧ ClosesComments marks := by
  rw [closesComments_cons, closesComments_cons_of_ne (by simp), closesComments_cons_of_ne (by simp)]
  refine and_congr_left fun _ => ⟨fun each => each marks rfl, ?_⟩
  rintro ended _ ⟨⟩
  exact ended

theorem endedByTemplate_cons {c : Char} {own : Bool} (other : c ≠ '*') {marks : List Mark} :
    EndedByTemplate ((c, own) :: marks) ↔ EndedByTemplate marks := by
  rw [EndedByTemplate, fromEnd_cons other, EndedByTemplate]

theorem endedByTemplate_star {own : Bool} {marks : List Mark} (other : ∀ mark ∈ marks.head?, mark.1 ≠ '/') :
    EndedByTemplate (('*', own) :: marks) ↔ EndedByTemplate marks := by
  rw [EndedByTemplate, fromEnd_star other, EndedByTemplate]

namespace Position

theorem good_next {position following : Position} {c : Char} {own : Bool} (moved : position.next c = some following)
    (plain : own = true ∨ c ≠ '*' ∧ c ≠ '/') (rest : List Mark) :
    position.Allows ((c, own) :: rest) ∧ (position.Good ((c, own) :: rest) ↔ following.Good rest) := by
  by_cases slash : c = '/'
  · subst slash
    obtain rfl : own = true := plain.resolve_right fun neither => neither.2 rfl
    cases position with
    | code => cases moved; exact ⟨trivial, .rfl⟩
    | slash => cases moved; exact ⟨trivial, closesComments_slash (by simp)⟩
    | opening => cases moved; exact ⟨trivial, closesComments_slash_star (by simp)⟩
    | star => cases moved; exact ⟨trivial, and_iff_right (List.prefix_append _ _)⟩
    | comment | printed => cases moved
  by_cases star : c = '*'
  · subst star
    obtain rfl : own = true := plain.resolve_right fun neither => neither.1 rfl
    have inCode : ClosesComments (('*', true) :: rest) ↔ ClosesComments rest := closesComments_cons_of_ne (by simp)
    have noSlash : ∀ mark ∈ (('*', true) :: rest).head?, mark.1 ≠ '/' := by
      rintro _ ⟨⟩
      simp
    cases position with
    | code => cases moved; exact ⟨trivial, inCode⟩
    | slash => cases moved; exact ⟨trivial, .rfl⟩
    | opening => cases moved; exact ⟨trivial, closesComments_opened⟩
    | comment => cases moved; exact ⟨trivial, and_congr_right fun _ => inCode⟩
    | star => cases moved; exact ⟨trivial, and_congr (endedByTemplate_star noSlash) inCode⟩
    | printed => cases moved; exact ⟨noSlash, and_congr_right fun _ => inCode⟩
  have notSlash : (c, own) ≠ ('/', true) := by simp [slash]
  have notStar : (c, own) ≠ ('*', true) := by simp [star]
  have noSlash : ∀ mark ∈ ((c, own) :: rest).head?, mark.1 ≠ '/' := by
    rintro _ ⟨⟩
    exact slash
  have inCode : ClosesComments ((c, own) :: rest) ↔ ClosesComments rest := closesComments_cons_of_ne notSlash
  have inComment := and_congr (@endedByTemplate_cons c own star rest) inCode
  cases position <;> simp only [next, slash, star, if_false, Option.some.injEq] at moved <;> subst moved
  case code => exact ⟨trivial, inCode⟩
  case slash => exact ⟨trivial, (closesComments_slash notStar).trans inCode⟩
  case opening => exact ⟨trivial, (closesComments_slash_star notStar).trans inCode⟩
  case comment => exact ⟨trivial, inComment⟩
  case star => exact ⟨trivial, (and_congr_left fun _ => endedByTemplate_star noSlash).trans inComment⟩
  case printed => exact ⟨noSlash, inComment⟩

end Position

theorem closesComments_printed (text : List Char) (rest : List Mark) :
    ClosesComments (text.map (·, false) ++ rest) ↔ ClosesComments rest := by
  induction text with
  | nil => exact .rfl
  | cons c text ih => exact (closesComments_cons_of_ne (by simp)).trans ih

theorem endedByTemplate_printed {text : List Char} {rest : List Mark} (allowed : Position.printed.Allows rest) :
    EndedByTemplate (text.map (·, false) ++ rest) ↔ EndedByTemplate rest ∧ ¬ ['*', '/'] <:+: text := by
  induction text with
  | nil => simp
  | cons c text ih =>
    rw [List.map_cons, List.cons_append, List.infix_cons_iff, not_or]
    by_cases ends : ['*', '/'] <+: c :: text
    · obtain ⟨after, same⟩ := ends
      cases same
      simp [EndedByTemplate, fromEnd]
    · rw [and_iff_right ends, ← ih]
      by_cases star : c = '*'
      · subst star
        refine endedByTemplate_star fun mark first slash => ?_
        cases text with
        | nil => exact allowed mark first slash
        | cons d text =>
          cases first
          exact ends (by simpa [List.cons_prefix_cons] using slash.symm)
      · exact endedByTemplate_cons star

/-- From one position to another in such a way that comments are ended by templates exactly if none of the texts, which
are printed into comments, ends one. -/
def Passes (start : Position) (marks : List Mark) (ending : Position) (texts : List String) : Prop :=
  ∀ rest, ending.Allows rest → start.Allows (marks ++ rest) ∧
    (start.Good (marks ++ rest) ↔ ending.Good rest ∧ ∀ text ∈ texts, ¬ EndsComment text)

namespace Passes

variable {start middle ending : Position} {marks more : List Mark} {texts others : List String}

theorem nil (position : Position) : Passes position [] position [] := fun _ allowed => ⟨allowed, by simp⟩

theorem append (first : Passes start marks middle texts) (second : Passes middle more ending others) :
    Passes start (marks ++ more) ending (texts ++ others) := by
  intro rest allowed
  obtain ⟨allowedBetween, later⟩ := second rest allowed
  obtain ⟨allowedBefore, here⟩ := first (more ++ rest) allowedBetween
  rw [List.append_assoc]
  refine ⟨allowedBefore, here.trans ?_⟩
  rw [later, and_assoc, List.forall_mem_append]
  exact and_congr_right fun _ => and_comm

theorem across {text : List Char} {own : Bool} (plain : own = true ∨ ∀ c ∈ text, c ≠ '*' ∧ c ≠ '/')
    (moved : start.across text = some ending) : Passes start (text.map (·, own)) ending [] := by
  induction text generalizing start with
  | nil =>
    cases moved
    exact nil _
  | cons c text ih =>
    obtain ⟨following, stepped, moved⟩ := Option.bind_eq_some_iff.mp moved
    have later := ih (plain.imp_right fun each d among => each d (List.mem_cons_of_mem c among)) moved
    have here : Passes start [(c, own)] following [] := fun rest _ => by
      simpa using Position.good_next stepped (plain.imp_right fun each => each c List.mem_cons_self) rest
    exact here.append later

theorem printed_code (text : String) : Passes .code (text.toList.map (·, false)) .code [] := fun rest _ =>
  ⟨trivial, by simpa [Position.Good] using closesComments_printed text.toList rest⟩

theorem printed_comment (text : String) : Passes .comment (text.toList.map (·, false)) .printed [text] := by
  intro rest allowed
  refine ⟨trivial, ?_⟩
  simp only [Position.Good, endedByTemplate_printed allowed, closesComments_printed, List.mem_singleton, forall_eq,
    EndsComment]
  exact and_right_comm

end Passes

namespace Position

def Reaches (first second : Position) : Prop := first = second ∨ first = comment ∧ second = printed

def join (first second : Position) : Option Position :=
  if first = second then some first
  else if first = comment ∧ second = printed ∨ first = printed ∧ second = comment then some printed
  else none

theorem reaches_of_join {first second joined : Position} (join : first.join second = some joined) :
    first.Reaches joined ∧ second.Reaches joined := by
  unfold Position.join at join
  split at join
  case isTrue same =>
    cases join
    exact ⟨.inl rfl, .inl same.symm⟩
  case isFalse =>
    split at join
    case isTrue either =>
      cases join
      rcases either with ⟨rfl, rfl⟩ | ⟨rfl, rfl⟩
      · exact ⟨.inr ⟨rfl, rfl⟩, .inl rfl⟩
      · exact ⟨.inl rfl, .inr ⟨rfl, rfl⟩⟩
    case isFalse => cases join

theorem Reaches.trans {first second third : Position} (before : first.Reaches second) (after : second.Reaches third) :
    first.Reaches third := by
  rcases before with rfl | ⟨rfl, rfl⟩
  · exact after
  · rcases after with rfl | ⟨impossible, _⟩
    · exact .inr ⟨rfl, rfl⟩
    · cases impossible

end Position

theorem Passes.reach {start middle ending : Position} {marks : List Mark} {texts : List String}
    (passes : Passes start marks middle texts) (reaches : middle.Reaches ending) : Passes start marks ending texts := by
  rcases reaches with rfl | ⟨rfl, rfl⟩
  · exact passes
  · exact fun rest _ => passes rest trivial

end ClientGen.Template
