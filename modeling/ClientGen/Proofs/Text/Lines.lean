import ClientGen.Script.Letter
import ClientGen.Text.Lines
import Mathlib.Data.List.DropRight

/-! The lines of a text, told by all line boundaries of Unicode and by those of scripts, which are fewer. Where a
boundary of the first kind only stands in a line, the later lines have other numbers. -/

set_option autoImplicit false

namespace ClientGen.Text

variable {c d : Char} {rest text first second : List Char}

/-! ## Lines without the blanks around them -/

theorem trimRightBlanks_cons (c : Char) (rest : List Char) :
    trimRightBlanks (c :: rest) =
      if trimRightBlanks rest = [] ∧ isBlank c = true then [] else c :: trimRightBlanks rest := by
  simp only [trimRightBlanks, List.reverse_cons, List.dropWhile_append, List.reverse_eq_nil_iff, List.isEmpty_iff]
  by_cases blank : isBlank c = true <;> split <;> simp_all

theorem trimRightBlanks_eq_nil_iff : trimRightBlanks text = [] ↔ ∀ c ∈ text, isBlank c = true := by
  simp [trimRightBlanks]

theorem trimRightBlanks_cons_congr (same : trimRightBlanks first = trimRightBlanks second) (c : Char) :
    trimRightBlanks (c :: first) = trimRightBlanks (c :: second) := by
  rw [trimRightBlanks_cons, trimRightBlanks_cons, same]

theorem trimBlanks_cons (c : Char) (rest : List Char) :
    trimBlanks (c :: rest) = if isBlank c = true then trimBlanks rest else c :: trimRightBlanks rest := by
  rw [trimBlanks, List.dropWhile_cons]
  split
  next => rfl
  next marked => rw [trimRightBlanks_cons, if_neg fun both => marked both.2]

theorem trimBlanks_eq (text : List Char) : trimBlanks text = (trimRightBlanks text).dropWhile isBlank := by
  induction text with
  | nil => rfl
  | cons c rest ih =>
    rw [trimBlanks_cons, trimRightBlanks_cons]
    by_cases blank : isBlank c = true
    · by_cases empty : trimRightBlanks rest = []
      · rw [if_pos blank, if_pos ⟨empty, blank⟩, ih, empty]
      · rw [if_pos blank, if_neg fun both => empty both.1, List.dropWhile_cons_of_pos blank, ih]
    · rw [if_neg blank, if_neg fun both => blank both.2, List.dropWhile_cons_of_neg blank]

theorem trimBlanks_congr (same : trimRightBlanks first = trimRightBlanks second) :
    trimBlanks first = trimBlanks second := by
  rw [trimBlanks_eq, trimBlanks_eq, same]

theorem trimBlanks_eq_nil_iff : trimBlanks text = [] ↔ ∀ c ∈ text, isBlank c = true := by
  induction text with
  | nil => simp [trimBlanks, trimRightBlanks]
  | cons c rest ih =>
    rw [trimBlanks_cons, List.forall_mem_cons]
    split
    next blank => rw [ih, and_iff_right blank]
    next marked => simp [marked]

theorem trimBlanks_of_cons (same : trimBlanks (c :: first) = trimBlanks (c :: second)) :
    trimBlanks first = trimBlanks second := by
  rw [trimBlanks_cons, trimBlanks_cons] at same
  split at same
  next => exact same
  next => exact trimBlanks_congr (List.cons.inj same).2

/-! ## Lines between line ends -/

/-- The line before which so many others end; beyond the last line, it is empty. -/
def nthLine (ends : Char → Bool) (text : List Char) (index : Nat) : List Char :=
  (text.splitOnP ends)[index]?.getD []

section
variable {ends : Char → Bool}

@[simp] theorem nthLine_nil (ends : Char → Bool) (index : Nat) : nthLine ends [] index = [] := by
  cases index <;> simp [nthLine]

theorem nthLine_zero (ends : Char → Bool) (c : Char) (rest : List Char) :
    nthLine ends (c :: rest) 0 = if ends c = true then [] else c :: nthLine ends rest 0 := by
  obtain ⟨line, more, split⟩ := List.exists_cons_of_ne_nil (List.splitOnP_ne_nil ends rest)
  rw [nthLine, nthLine, List.splitOnP_cons_eq_if_modifyHead, split]
  split <;> rfl

theorem nthLine_succ (ends : Char → Bool) (c : Char) (rest : List Char) (index : Nat) :
    nthLine ends (c :: rest) (index + 1) =
      if ends c = true then nthLine ends rest index else nthLine ends rest (index + 1) := by
  obtain ⟨line, more, split⟩ := List.exists_cons_of_ne_nil (List.splitOnP_ne_nil ends rest)
  rw [nthLine, nthLine, nthLine, List.splitOnP_cons_eq_if_modifyHead, split]
  split <;> rfl

def firstLines (ends : Char → Bool) (text : List Char) (count : Nat) : List Char :=
  ((text.splitOnP ends).take count).flatten

@[simp] theorem firstLines_nil (ends : Char → Bool) (count : Nat) : firstLines ends [] count = [] := by
  cases count <;> simp [firstLines]

@[simp] theorem firstLines_zero (ends : Char → Bool) (text : List Char) : firstLines ends text 0 = [] := rfl

theorem firstLines_succ (ends : Char → Bool) (c : Char) (rest : List Char) (count : Nat) :
    firstLines ends (c :: rest) (count + 1) =
      if ends c = true then firstLines ends rest count else c :: firstLines ends rest (count + 1) := by
  obtain ⟨line, more, split⟩ := List.exists_cons_of_ne_nil (List.splitOnP_ne_nil ends rest)
  rw [firstLines, firstLines, firstLines, List.splitOnP_cons_eq_if_modifyHead, split]
  split <;> rfl

theorem mem_firstLines_iff {count : Nat} :
    c ∈ firstLines ends text count ↔ ∃ index < count, c ∈ nthLine ends text index := by
  constructor
  · intro among
    obtain ⟨line, taken, stands⟩ := List.mem_flatten.mp among
    obtain ⟨index, early, rfl⟩ := List.mem_take_iff_getElem.mp taken
    refine ⟨index, by omega, ?_⟩
    rwa [nthLine, List.getElem?_eq_getElem (by omega), Option.getD_some]
  · rintro ⟨index, early, stands⟩
    rw [nthLine] at stands
    cases found : (text.splitOnP ends)[index]? with
    | none =>
      rw [found] at stands
      cases stands
    | some line =>
      rw [found] at stands
      have taken : ((text.splitOnP ends).take count)[index]? = some line := by rw [List.getElem?_take_of_lt early, found]
      exact List.mem_flatten.mpr ⟨line, List.mem_of_getElem? taken, stands⟩

theorem mem_nthLine_cons {index : Nat} (inside : ¬ ends c = true) (stands : d ∈ nthLine ends rest index) :
    d ∈ nthLine ends (c :: rest) index := by
  cases index with
  | zero =>
    rw [nthLine_zero, if_neg inside]
    exact List.mem_cons_of_mem c stands
  | succ index => rwa [nthLine_succ, if_neg inside]

end

/-! ## Two ways to tell lines -/

theorem isLineEnd_of_script (ends : Script.isLineEnd c = true) : isLineEnd c = true := by
  simp only [Script.isLineEnd, Bool.or_eq_true, decide_eq_true_eq] at ends
  obtain ((rfl | rfl) | code) | code := ends
  · decide
  · decide
  all_goals simp [isLineEnd, code]

/-- Whether a line of a text ends here, but none of a script. -/
def isForeignEnd (c : Char) : Bool := isLineEnd c && !Script.isLineEnd c

theorem ends_cases (c : Char) :
    (isLineEnd c = true ∧ Script.isLineEnd c = true ∧ isForeignEnd c = false) ∨
    (isLineEnd c = true ∧ ¬ Script.isLineEnd c = true ∧ isForeignEnd c = true) ∨
    (¬ isLineEnd c = true ∧ ¬ Script.isLineEnd c = true ∧ isForeignEnd c = false) := by
  unfold isForeignEnd
  cases own : Script.isLineEnd c with
  | true => simp [isLineEnd_of_script own]
  | false => cases isLineEnd c <;> simp

/-- Nothing but blanks stands behind the first foreign line end. -/
def BlankBehind (text : List Char) : Prop := ∀ c ∈ text.dropWhile fun c => !isForeignEnd c, isBlank c = true

instance (text : List Char) : Decidable (BlankBehind text) := List.decidableBAll _ _

theorem blankBehind_cons_of_foreign (foreign : isForeignEnd c = true) :
    BlankBehind (c :: rest) ↔ ∀ d ∈ c :: rest, isBlank d = true := by
  rw [BlankBehind, List.dropWhile_cons_of_neg (by simpa using foreign)]

theorem blankBehind_cons_of_own (own : isForeignEnd c = false) : BlankBehind (c :: rest) ↔ BlankBehind rest := by
  rw [BlankBehind, List.dropWhile_cons_of_pos (by simpa using own)]
  rfl

theorem mem_nthLine_before {index : Nat} (stands : d ∈ nthLine isLineEnd text index) :
    ∃ before ≤ index, d ∈ nthLine Script.isLineEnd text before := by
  -- Lines of scripts are lines of the text put together, so no character is in a later one of them.
  induction text generalizing index with
  | nil => simp at stands
  | cons c rest ih =>
    cases index with
    | zero =>
      rw [nthLine_zero] at stands
      split at stands
      next => cases stands
      next plain =>
        have inside : ¬ Script.isLineEnd c = true := mt isLineEnd_of_script plain
        obtain rfl | later := List.mem_cons.mp stands
        · exact ⟨0, Nat.le_refl 0, by simp [nthLine_zero, inside]⟩
        · obtain ⟨before, early, found⟩ := ih later
          exact ⟨before, early, mem_nthLine_cons inside found⟩
    | succ index =>
      rw [nthLine_succ] at stands
      by_cases own : Script.isLineEnd c = true
      · rw [if_pos (isLineEnd_of_script own)] at stands
        obtain ⟨before, early, found⟩ := ih stands
        exact ⟨before + 1, by omega, by rwa [nthLine_succ, if_pos own]⟩
      · have ⟨before, early, found⟩ : ∃ before ≤ index + 1, d ∈ nthLine Script.isLineEnd rest before := by
          split at stands
          next =>
            obtain ⟨before, early, found⟩ := ih stands
            exact ⟨before, by omega, found⟩
          next => exact ih stands
        exact ⟨before, early, mem_nthLine_cons own found⟩

variable {count index : Nat}

theorem blankBehind_firstLines_of_foreign (foreign : isForeignEnd c = true) :
    BlankBehind (firstLines Script.isLineEnd (c :: rest) (count + 1)) ↔
      ∀ index < count + 1, ∀ d ∈ nthLine Script.isLineEnd (c :: rest) index, isBlank d = true := by
  have inside : ¬ Script.isLineEnd c = true := by simpa using (Bool.and_eq_true_iff.mp foreign).2
  have whole : firstLines Script.isLineEnd (c :: rest) (count + 1) = c :: firstLines Script.isLineEnd rest (count + 1) := by
    rw [firstLines_succ, if_neg inside]
  rw [whole, blankBehind_cons_of_foreign foreign, ← whole]
  constructor
  · exact fun blank index early d stands => blank d (mem_firstLines_iff.mpr ⟨index, early, stands⟩)
  · intro blank d among
    obtain ⟨index, early, stands⟩ := mem_firstLines_iff.mp among
    exact blank index early d stands

theorem trimRightBlanks_nthLine (behind : BlankBehind (firstLines Script.isLineEnd text count)) (early : index < count) :
    trimRightBlanks (nthLine isLineEnd text index) = trimRightBlanks (nthLine Script.isLineEnd text index) := by
  induction text generalizing count index with
  | nil => simp
  | cons c rest ih =>
    obtain ⟨count, rfl⟩ := Nat.exists_eq_add_one.mpr (by omega : 0 < count)
    obtain ⟨ends, own, -⟩ | ⟨-, -, foreign⟩ | ⟨plain, inside, native⟩ := ends_cases c
    · rw [firstLines_succ, if_pos own] at behind
      cases index with
      | zero => rw [nthLine_zero, nthLine_zero, if_pos ends, if_pos own]
      | succ index =>
        rw [nthLine_succ, nthLine_succ, if_pos ends, if_pos own]
        exact ih behind (by omega)
    · have blank := (blankBehind_firstLines_of_foreign foreign).mp behind
      rw [trimRightBlanks_eq_nil_iff.mpr (blank index early), trimRightBlanks_eq_nil_iff]
      intro d stands
      obtain ⟨before, reached, found⟩ := mem_nthLine_before stands
      exact blank before (by omega) d found
    · rw [firstLines_succ, if_neg inside, blankBehind_cons_of_own native] at behind
      cases index with
      | zero =>
        rw [nthLine_zero, nthLine_zero, if_neg plain, if_neg inside]
        exact trimRightBlanks_cons_congr (ih behind early) c
      | succ index =>
        rw [nthLine_succ, nthLine_succ, if_neg plain, if_neg inside]
        exact ih behind early

theorem isBlank_of_same (foreign : isForeignEnd c = true)
    (same : ∀ index < count, trimBlanks (nthLine isLineEnd (c :: rest) index) =
      trimBlanks (nthLine Script.isLineEnd (c :: rest) index))
    (early : index < count) : ∀ d ∈ nthLine Script.isLineEnd (c :: rest) index, isBlank d = true := by
  -- A foreign line end at the start moves the lines on by one. If they are the same but for blanks, each of them is
  -- as blank as the one before it.
  have ⟨ends, own⟩ := Bool.and_eq_true_iff.mp foreign
  have inside : ¬ Script.isLineEnd c = true := by simpa using own
  induction index using Nat.strongRecOn with
  | ind index ih =>
    rw [← trimBlanks_eq_nil_iff, ← same index early, trimBlanks_eq_nil_iff]
    intro d stands
    cases index with
    | zero =>
      rw [nthLine_zero, if_pos ends] at stands
      cases stands
    | succ index =>
      rw [nthLine_succ, if_pos ends] at stands
      obtain ⟨before, reached, found⟩ := mem_nthLine_before stands
      exact ih before (by omega) (by omega) d (mem_nthLine_cons inside found)

theorem blankBehind_of_same
    (same : ∀ index < count, trimBlanks (nthLine isLineEnd text index) = trimBlanks (nthLine Script.isLineEnd text index)) :
    BlankBehind (firstLines Script.isLineEnd text count) := by
  induction text generalizing count with
  | nil => simp [BlankBehind]
  | cons c rest ih =>
    cases count with
    | zero => simp [BlankBehind]
    | succ count =>
      obtain ⟨ends, own, -⟩ | ⟨-, -, foreign⟩ | ⟨plain, inside, native⟩ := ends_cases c
      · rw [firstLines_succ, if_pos own]
        refine ih fun index early => ?_
        have next := same (index + 1) (by omega)
        rwa [nthLine_succ, nthLine_succ, if_pos ends, if_pos own] at next
      · exact (blankBehind_firstLines_of_foreign foreign).mpr fun index early => isBlank_of_same foreign same early
      · rw [firstLines_succ, if_neg inside, blankBehind_cons_of_own native]
        refine ih fun index early => ?_
        have here := same index early
        cases index with
        | zero =>
          rw [nthLine_zero, nthLine_zero, if_neg plain, if_neg inside] at here
          exact trimBlanks_of_cons here
        | succ index => rwa [nthLine_succ, nthLine_succ, if_neg plain, if_neg inside] at here

theorem trimBlanks_nthLine_iff :
    (∀ index < count, trimBlanks (nthLine isLineEnd text index) = trimBlanks (nthLine Script.isLineEnd text index)) ↔
      BlankBehind (firstLines Script.isLineEnd text count) :=
  ⟨blankBehind_of_same, fun behind _ early => trimBlanks_congr (trimRightBlanks_nthLine behind early)⟩

end ClientGen.Text
