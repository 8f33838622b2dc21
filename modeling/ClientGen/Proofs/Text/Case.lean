import ClientGen.Text.Case
import ClientGen.Text.Class
import Mathlib

/-! Texts whose lower case and upper case are both of ASCII. They are of ASCII themselves: of all other characters only
the sign of the kelvin has its small letter there, and it has no other capital. -/

set_option autoImplicit false

namespace ClientGen.Text

theorem shift_cases (runs : CaseRuns) (code : Nat) : runs.shift code = 0 ∨
    ∃ run ∈ runs, run.1 ≤ code ∧ code ≤ run.2.1 ∧ runs.shift code = run.2.2.2 := by
  induction runs with
  | nil => exact .inl rfl
  | cons run rest ih =>
    unfold CaseRuns.shift
    split
    next within =>
      simp only [Bool.and_eq_true, decide_eq_true_eq] at within
      exact .inr ⟨run, List.mem_cons_self, within.1.1, within.1.2, rfl⟩
    next =>
      rcases ih with none | ⟨found, among, bounds⟩
      · exact .inl none
      · exact .inr ⟨found, List.mem_cons_of_mem _ among, bounds⟩

theorem lowerRuns_wide : ∀ run ∈ lowerRuns, run.2.1 < 128 ∨ run.1 = 0x212A ∧ run.2.1 = 0x212A ∨
    (128 ≤ run.1 + run.2.2.2 ∧ run.2.1 + run.2.2.2 < 0xD800) ∨
    (0xE000 ≤ run.1 + run.2.2.2 ∧ run.2.1 + run.2.2.2 < 0x110000) := by
  decide +kernel

theorem narrow_of_lowerChar {c : Char} (narrow : ∀ d ∈ lowerChar c, d.toNat < 128) :
    c.toNat < 128 ∨ c.toNat = 0x212A := by
  rcases Nat.lt_or_ge c.toNat 128 with small | wide
  · exact .inl small
  refine .inr ?_
  unfold lowerChar mapCase at narrow
  rw [if_neg (Nat.not_lt.mpr wide)] at narrow
  split at narrow
  next codes found =>
    obtain ⟨before, after, whole, _⟩ := List.lookup_eq_some_iff.mp found
    have listed : (c.toNat, codes) ∈ lowerExpansions := by simp [whole]
    obtain ⟨_, rfl⟩ := Prod.mk.inj (List.mem_singleton.mp listed)
    simp at narrow
  next =>
    have small := narrow _ (List.mem_singleton_self _)
    rcases shift_cases lowerRuns c.toNat with none | ⟨run, among, low, high, same⟩
    · rw [none, Int.add_zero, Int.toNat_natCast, Char.ofNat_toNat] at small
      omega
    · have bounds := lowerRuns_wide run among
      by_contra other
      have valid : (c.toNat + run.2.2.2).toNat.isValidChar := by
        unfold Nat.isValidChar
        omega
      rw [same, Char.toNat_ofNat, if_pos valid] at small
      omega

def Narrow (text : List Char) : Prop := ∀ c ∈ text, c.toNat < 128

instance (text : List Char) : Decidable (Narrow text) := List.decidableBAll _ text

theorem narrow_append {first rest : List Char} : Narrow (first ++ rest) ↔ Narrow first ∧ Narrow rest :=
  List.forall_mem_append

theorem narrow_of_lowerFrom {before text : List Char} (narrow : Narrow (lowerFrom before text)) :
    ∀ c ∈ text, c.toNat < 128 ∨ c.toNat = 0x212A := by
  induction text generalizing before with
  | nil => exact nofun
  | cons c rest ih =>
    obtain ⟨here, later⟩ := narrow_append.mp narrow
    refine List.forall_mem_cons.mpr ⟨?_, ih later⟩
    split at here
    · -- Both forms of a sigma are outside of ASCII.
      have wide : ∀ sigma ∈ ['ς', 'σ'], ¬ Narrow [sigma] := by simp [Narrow]
      split at here
      · exact absurd here (wide _ List.mem_cons_self)
      · exact absurd here (wide _ (List.mem_cons_of_mem _ List.mem_cons_self))
    · exact narrow_of_lowerChar here

theorem narrow_of_cases {text : String} (lowerNarrow : Narrow (lower text).toList)
    (upperNarrow : Narrow (upper text).toList) : Narrow text.toList := by
  rw [lower, String.toList_ofList] at lowerNarrow
  rw [upper, String.toList_ofList] at upperNarrow
  intro c among
  rcases narrow_of_lowerFrom lowerNarrow c among with small | kelvin
  · exact small
  · have large : upperChar c = [c] := by
      rw [← Char.ofNat_toNat c, kelvin]
      decide +kernel
    exact upperNarrow c (List.mem_flatMap.mpr ⟨c, among, by rw [large]; exact List.mem_singleton_self c⟩)

theorem lowerFrom_of_forall {before text : List Char} (plain : ∀ c ∈ text, c ≠ 'Σ' ∧ lowerChar c = [c.toLower]) :
    lowerFrom before text = text.map Char.toLower := by
  induction text generalizing before with
  | nil => rfl
  | cons c rest ih =>
    obtain ⟨⟨noSigma, small⟩, later⟩ := List.forall_mem_cons.mp plain
    rw [lowerFrom, if_neg noSigma, small, ih later]
    rfl

theorem lowerFrom_of_narrow {before text : List Char} (narrow : Narrow text) :
    lowerFrom before text = text.map Char.toLower := by
  refine lowerFrom_of_forall fun c among => ⟨?_, if_pos (narrow c among)⟩
  rintro rfl
  exact absurd (narrow _ among) (by decide)

theorem lowerRuns_digitless :
    ∀ range ∈ digitRanges, ∀ run ∈ lowerRuns, range.2 < run.1 ∨ run.2.1 < range.1 := by
  decide +kernel

theorem lowerChar_of_isDecimalDigit {c : Char} (digit : isDecimalDigit c = true) : lowerChar c = [c.toLower] := by
  obtain ⟨range, among, low, high⟩ := Ranges.exists_of_covers digit
  have noShift : lowerRuns.shift c.toNat = 0 := by
    rcases shift_cases lowerRuns c.toNat with none | ⟨run, listed, first, last, _⟩
    · exact none
    · have := lowerRuns_digitless range among run listed
      omega
  unfold lowerChar mapCase
  split
  next => rfl
  next wide =>
    have apart : ∀ range ∈ digitRanges, range.2 < 0x130 ∨ 0x130 < range.1 := by decide
    have other : lowerExpansions.lookup c.toNat = none := by
      have := apart range among
      rw [List.lookup_eq_none_iff]
      simp [lowerExpansions]
      omega
    have noCapital : ¬ c.isUpper = true := by
      have code : c.val.toNat = c.toNat := rfl
      simp only [Char.isUpper, decide_eq_true_eq, ge_iff_le, UInt32.le_iff_toNat_le, not_and]
      exact fun _ high => wide (by simp at high; omega)
    rw [other, noShift, Char.toLower_eq_of_not_isUpper noCapital]
    simp

theorem flatMap_upperChar_of_narrow {text : List Char} (narrow : Narrow text) :
    text.flatMap upperChar = text.map Char.toUpper := by
  induction text with
  | nil => rfl
  | cons c rest ih =>
    obtain ⟨here, later⟩ := List.forall_mem_cons.mp narrow
    rw [List.flatMap_cons, upperChar, if_pos here, ih later]
    rfl

theorem upper_of_narrow_cases {text : String} (lowerNarrow : Narrow (lower text).toList)
    (upperNarrow : Narrow (upper text).toList) : (upper text).toList = (lower text).toList.map Char.toUpper := by
  have narrow := narrow_of_cases lowerNarrow upperNarrow
  rw [lower, upper, String.toList_ofList, String.toList_ofList, lowerFrom_of_narrow narrow,
    flatMap_upperChar_of_narrow narrow, List.map_map]
  exact List.map_congr_left fun c _ => (Char.toUpper_toLower_eq_toUpper c).symm

end ClientGen.Text
