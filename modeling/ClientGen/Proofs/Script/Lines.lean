import ClientGen.Proofs.Text.Lines
import ClientGen.Script.Scanner
import Mathlib.Data.List.TakeDrop

/-! The lines of a script are those that its scanner counts: past white space and comments, it stands on the line whose
number it has. -/

set_option autoImplicit false

namespace ClientGen.Script

variable {text rest : List Char} {line : Nat} {c : Char}

/-- The lines of a script, which end with line feeds, carriage returns, both together, and the two separators of
Unicode. -/
def lines (text : List Char) : List (List Char) := (Text.unifyBreaks text).splitOnP isLineEnd

theorem lines_cons_of_inside (inside : ¬ isLineEnd c = true) :
    lines (c :: rest) = (lines rest).modifyHead (c :: ·) := by
  have plain : c ≠ '\r' := by
    rintro rfl
    exact inside rfl
  rw [lines, Text.unifyBreaks, List.splitOnP_cons_eq_if_modifyHead, if_neg inside]
  · rfl
  · exact fun _ paired _ => plain paired
  · exact plain

theorem lines_paired (rest : List Char) : lines ('\r' :: '\n' :: rest) = [] :: lines rest := by
  rw [lines, Text.unifyBreaks, List.splitOnP_cons_eq_if_modifyHead, if_pos (by decide)]
  rfl

theorem lines_cons_of_end (ends : isLineEnd c = true) (single : ∀ after, c = '\r' → rest ≠ '\n' :: after) :
    lines (c :: rest) = [] :: lines rest := by
  by_cases carriage : c = '\r'
  · subst carriage
    rw [lines, Text.unifyBreaks, List.splitOnP_cons_eq_if_modifyHead, if_pos (by decide)]
    · rfl
    · exact fun after paired => single after rfl paired
  · rw [lines, Text.unifyBreaks, List.splitOnP_cons_eq_if_modifyHead, if_pos ends]
    · rfl
    · exact single
    · exact carriage

theorem not_isLineEnd_of_isBlank (blank : isBlank c = true) : ¬ isLineEnd c = true := by
  intro ends
  simp only [isLineEnd, Bool.or_eq_true, decide_eq_true_eq] at ends
  obtain ((rfl | rfl) | code) | code := ends
  · exact absurd blank (by decide)
  · exact absurd blank (by decide)
  all_goals
    rw [isBlank, code] at blank
    exact absurd blank (by decide)

private theorem modifyHead_nil_append (lines : List (List Char)) : lines.modifyHead ([] ++ ·) = lines :=
  congrFun List.modifyHead_id lines

theorem lines_append_of_inside {front : List Char} (inside : ∀ c ∈ front, ¬ isLineEnd c = true) :
    lines (front ++ rest) = (lines rest).modifyHead (front ++ ·) := by
  induction front with
  | nil => exact (modifyHead_nil_append _).symm
  | cons c front ih =>
    rw [List.forall_mem_cons] at inside
    rw [List.cons_append, lines_cons_of_inside inside.1, ih inside.2, List.modifyHead_modifyHead]
    rfl

theorem Scanner.rest_skipWhile (s : Scanner) (kind : Char → Bool) :
    (s.skipWhile kind).rest = s.rest.dropWhile kind := by
  rw [skipWhile, List.span_eq_takeWhile_dropWhile]

/-- With this to be read, one is on the line with this number: from there on, the lines are what is to be read, behind
what is read of the first one. -/
structure OnLine (text : List Char) (line : Nat) (rest : List Char) : Prop where
  shown : ∃ begun : List Char, (lines text).drop (line - 1) = (lines rest).modifyHead (begun ++ ·)
  counted : rest ≠ [] → 1 ≤ line

namespace OnLine

theorem start (text : List Char) : OnLine text (Scanner.start text).line text where
  shown := by
    refine ⟨[], ?_⟩
    have first : (Scanner.start text).line - 1 = 0 := by
      unfold Scanner.start
      split <;> rfl
    rw [first, List.drop_zero]
    exact (modifyHead_nil_append _).symm
  counted := by
    intro some
    simp [Scanner.start, some]

theorem inside (front : List Char) (on : OnLine text line (front ++ rest))
    (inside : ∀ c ∈ front, ¬ isLineEnd c = true) : OnLine text line rest := by
  obtain ⟨begun, shown⟩ := on.shown
  refine ⟨⟨begun ++ front, ?_⟩, fun left => on.counted (List.append_ne_nil_of_right_ne_nil front left)⟩
  rw [shown, lines_append_of_inside inside, List.modifyHead_modifyHead]
  simp [Function.comp_def]

theorem past {before : List Char} (on : OnLine text line before) (left : before ≠ [])
    (ends : lines before = [] :: lines rest) : OnLine text (line + 1) rest := by
  obtain ⟨begun, shown⟩ := on.shown
  have counted := on.counted left
  refine ⟨⟨[], ?_⟩, fun _ => by omega⟩
  calc (lines text).drop (line + 1 - 1)
    _ = ((lines text).drop (line - 1)).tail := by
      rw [List.tail_drop]
      congr 1
      omega
    _ = lines rest := by
      rw [shown, ends]
      rfl
    _ = (lines rest).modifyHead ([] ++ ·) := (modifyHead_nil_append _).symm

theorem paired (on : OnLine text line ('\r' :: '\n' :: rest)) : OnLine text (line + 1) rest :=
  on.past (List.cons_ne_nil _ _) (lines_paired rest)

theorem single (on : OnLine text line (c :: rest)) (ends : isLineEnd c = true)
    (single : ∀ after, c = '\r' → rest ≠ '\n' :: after) : OnLine text (line + 1) rest :=
  on.past (List.cons_ne_nil _ _) (lines_cons_of_end ends single)

variable {s : Scanner}

theorem skip {count : Nat} (on : OnLine text s.line s.rest) (inside : ∀ c ∈ s.rest.take count, ¬ isLineEnd c = true) :
    OnLine text (s.skip count).line (s.skip count).rest := by
  rw [← List.take_append_drop count s.rest] at on
  exact on.inside _ inside

theorem skipWhile (kind : Char → Bool) (on : OnLine text s.line s.rest)
    (inside : ∀ c ∈ s.rest.takeWhile kind, ¬ isLineEnd c = true) :
    OnLine text (s.skipWhile kind).line (s.skipWhile kind).rest := by
  rw [Scanner.rest_skipWhile]
  rw [← List.takeWhile_append_dropWhile (p := kind) (l := s.rest)] at on
  exact on.inside _ inside

theorem skipBreak (on : OnLine text s.line s.rest) (ends : isLineEnd (s.ahead 0) = true) :
    OnLine text s.skipBreak.line s.skipBreak.rest := by
  change OnLine text (s.line + 1) (s.rest.drop (if s.startsWith "\r\n" then 2 else 1))
  unfold Scanner.startsWith
  unfold Scanner.ahead at ends
  generalize s.rest = rest at *
  split
  next starts =>
    obtain ⟨after, rfl⟩ := List.isPrefixOf_iff_prefix.mp starts
    exact on.paired
  next apart =>
    cases rest with
    | nil => simp [isLineEnd] at ends
    | cons c rest =>
      refine on.single ends fun after carriage feed => apart ?_
      rw [carriage, feed]
      rfl

theorem skipLine (on : OnLine text s.line s.rest) : OnLine text s.skipLine.line s.skipLine.rest := by
  have past := on.skipWhile (fun c => !isLineEnd c) fun c among => by
    simpa using List.mem_takeWhile_imp among
  simp only [Scanner.skipLine]
  split
  next => exact past
  next left =>
    refine past.skipBreak ?_
    have stop := List.head?_dropWhile_not (fun c => !isLineEnd c) s.rest
    rw [Scanner.rest_skipWhile] at left
    rw [Scanner.ahead, Scanner.rest_skipWhile]
    cases ending : s.rest.dropWhile fun c => !isLineEnd c with
    | nil => simp [ending] at left
    | cons c behind => simpa [ending] using stop

theorem skipBlockIn (on : OnLine text s.line rest) :
    OnLine text (s.skipBlockIn rest).1.line (s.skipBlockIn rest).1.rest := by
  fun_induction Scanner.skipBlockIn s rest with
  | case1 s rest => exact on.inside ['*', '/'] (by simp [isLineEnd])
  | case2 s rest ih => exact ih on.paired
  | case3 s c rest _ unpaired ends ih =>
    exact ih (on.single ends unpaired)
  | case4 s c rest _ unpaired inside ih => exact ih (on.inside [c] (by simpa using inside))
  | case5 s => exact on

theorem skipBlock (on : OnLine text s.line s.rest) : OnLine text s.skipBlock.line s.skipBlock.rest := by
  have past := on.skipBlockIn
  unfold Scanner.skipBlock
  split
  next same =>
    rw [same] at past
    exact past
  next same =>
    rw [same] at past
    exact past

theorem skipMark {mark : String} (on : OnLine text s.line s.rest) (starts : s.startsWith mark = true)
    (inside : mark.toList.any isLineEnd = false) :
    OnLine text (s.skip mark.toList.length).line (s.skip mark.toList.length).rest := by
  refine on.skip fun c among => List.any_eq_false.mp inside c ?_
  rwa [List.prefix_iff_eq_take.mp (List.isPrefixOf_iff_prefix.mp starts)]

theorem skipGaps {bound : Nat} {fresh : Bool} (on : OnLine text s.line s.rest) :
    OnLine text (s.skipGaps bound fresh).line (s.skipGaps bound fresh).rest := by
  -- Along the scanner: blanks and line ends one at a time, and each kind of comment as a whole.
  fun_induction Scanner.skipGaps bound fresh s with
  | case1 | case2 | case9 => exact on
  | case3 bound fresh s c rest read blank ih =>
    refine ih (on.skip ?_)
    rw [read]
    simpa using not_isLineEnd_of_isBlank blank
  | case4 bound fresh s c rest read _ ends ih =>
    refine ih (on.skipBreak ?_)
    rwa [Scanner.ahead, read]
  | case5 bound fresh s c rest _ _ _ starts ih => exact ih (on.skipMark starts (by decide)).skipLine
  | case6 bound fresh s c rest _ _ _ _ starts ih => exact ih (on.skipMark starts (by decide)).skipBlock
  | case7 bound fresh s c rest _ _ _ _ _ starts ih =>
    exact ih (on.skipMark (Bool.and_eq_true_iff.mp starts).2 (by decide)).skipLine
  | case8 bound fresh s c rest _ _ _ _ _ _ starts ih =>
    exact ih (on.skipMark (Bool.and_eq_true_iff.mp starts).2 (by decide)).skipLine

/-- Past all white space and comments, the scanner is on the line that it counts. -/
theorem skipGap (on : OnLine text s.line s.rest) : OnLine text s.skipGap.line s.skipGap.rest := on.skipGaps

end OnLine

end ClientGen.Script
