import ClientGen.Text.Class
import ClientGen.Text.Identifier
import Mathlib.Data.List.Basic

/-! Identifiers can be continued: letters, decimal digits of all scripts and underscores may follow the first
character. -/

set_option autoImplicit false

namespace ClientGen.Text

theorem Ranges.covers_of_mem {ranges : Ranges} (sorted : ranges.Pairwise fun first second => first.1 ≤ second.1)
    {range : Nat × Nat} (among : range ∈ ranges) {code : Nat} (low : range.1 ≤ code) (high : code ≤ range.2) :
    ranges.covers code = true := by
  -- In ranges that begin one after another, the search stops at none that comes before the one that is sought.
  induction ranges with
  | nil => cases among
  | cons first rest ih =>
    obtain ⟨before, sorted⟩ := List.pairwise_cons.mp sorted
    rw [covers]
    rcases List.mem_cons.mp among with rfl | later
    · rw [if_neg (Nat.not_lt.mpr low), decide_eq_true high, Bool.true_or]
    · have := before range later
      rw [if_neg (by omega), ih sorted later, Bool.or_true]

theorem sorted_identifierPartRanges :
    identifierPartRanges.Pairwise fun first second => first.1 ≤ second.1 := by
  have chain : (identifierPartRanges.map Prod.fst).IsChain (· ≤ ·) := by decide +kernel
  exact List.pairwise_map.mp chain.pairwise

def Ranges.includes (ranges : Ranges) (inner : Nat × Nat) : Bool :=
  ranges.any fun outer => outer.1.ble inner.1 && inner.2.ble outer.2

def wordRanges : Ranges := [(65, 90), (95, 95), (97, 122)] ++ digitRanges

theorem includes_wordRanges : wordRanges.all identifierPartRanges.includes = true := by
  decide +kernel

theorem isIdentifierPart_of_mem {range : Nat × Nat} (among : range ∈ wordRanges) {c : Char}
    (low : range.1 ≤ c.toNat) (high : c.toNat ≤ range.2) : isIdentifierPart c = true := by
  obtain ⟨outer, listed, within⟩ := List.any_eq_true.mp (List.all_eq_true.mp includes_wordRanges range among)
  obtain ⟨below, above⟩ := Bool.and_eq_true_iff.mp within
  rw [Nat.ble_eq] at below above
  exact Ranges.covers_of_mem sorted_identifierPartRanges listed (Nat.le_trans below low) (Nat.le_trans high above)

theorem isIdentifierPart_of_isDecimalDigit {c : Char} (digit : isDecimalDigit c = true) :
    isIdentifierPart c = true := by
  obtain ⟨range, among, low, high⟩ := Ranges.exists_of_covers digit
  exact isIdentifierPart_of_mem (List.mem_append_right _ among) low high

theorem isIdentifierPart_underscore : isIdentifierPart '_' = true :=
  have among : (95, 95) ∈ wordRanges := by simp [wordRanges]
  isIdentifierPart_of_mem among (Nat.le_refl 95) (Nat.le_refl 95)

theorem isIdentifier_append {name rest : List Char} (identifier : isIdentifier name = true)
    (parts : ∀ c ∈ rest, isIdentifierPart c = true) : isIdentifier (name ++ rest) = true := by
  cases name with
  | nil => cases identifier
  | cons first others =>
    obtain ⟨starts, continues⟩ := Bool.and_eq_true_iff.mp identifier
    rw [List.cons_append, isIdentifier, List.all_append, starts, continues, List.all_eq_true.mpr parts]
    rfl

end ClientGen.Text
