import ClientGen.Naming.MethodName
import Mathlib.Data.Finset.Card
import Mathlib.Data.Finset.Image
import Mathlib.Order.Bounds.Defs
import Mathlib.Order.Interval.Finset.Nat

/-! Which name is given out. Numbered forms of a name differ from the name and from each other, so among
one more of them than names are in use one is free, and the search for it ends at the least. -/

set_option autoImplicit false

namespace ClientGen.Naming

theorem numbered_injective (name : String) : Function.Injective (numbered name) := by
  intro m n same
  have digits := congrArg String.toList ((String.append_right_inj _).mp same)
  simp only [Nat.toString_eq_repr, Nat.toList_repr] at digits
  rw [← Nat.ofDigitChars_ten_toDigits (n := m), digits, Nat.ofDigitChars_ten_toDigits]

theorem numbered_ne (name : String) (n : Nat) : numbered name n ≠ name := by
  intro same
  have lengths := congrArg String.length same
  simp only [numbered, String.length_append] at lengths
  have : "_".length = 1 := rfl
  omega

/-- The name that a candidate leads to while others are in use: itself when it is new, and otherwise
numbered by the least number from one on that makes it new. -/
def Chosen (candidate : String) (used : List String) (name : String) : Prop :=
  (candidate ∉ used ∧ name = candidate) ∨
    (candidate ∈ used ∧ ∃ k, IsLeast {k | 0 < k ∧ numbered candidate k ∉ used} k ∧
      name = numbered candidate k)

theorem Chosen.not_mem {candidate name : String} {used : List String}
    (chosen : Chosen candidate used name) : name ∉ used := by
  rcases chosen with ⟨new, rfl⟩ | ⟨_, k, least, rfl⟩
  · exact new
  · exact least.1.2

theorem exists_free {name : String} {used : List String} (taken : name ∈ used) :
    ∃ k, 0 < k ∧ k ≤ used.toFinset.card ∧ numbered name k ∉ used := by
  -- If all numbers up to the count of names in use were taken, there would be one name more than that.
  by_contra none
  have every : ∀ k, 0 < k → k ≤ used.toFinset.card → numbered name k ∈ used :=
    fun k positive bounded => by_contra fun new => none ⟨k, positive, bounded, new⟩
  let numbers := (Finset.Icc 1 used.toFinset.card).image (numbered name)
  have fresh : name ∉ numbers := by
    intro member
    obtain ⟨k, _, same⟩ := Finset.mem_image.mp member
    exact numbered_ne name k same
  have within : insert name numbers ⊆ used.toFinset := by
    intro other member
    rw [List.mem_toFinset]
    rcases Finset.mem_insert.mp member with rfl | member
    · exact taken
    · obtain ⟨k, range, rfl⟩ := Finset.mem_image.mp member
      rw [Finset.mem_Icc] at range
      exact every k range.1 range.2
  have counted := Finset.card_le_card within
  rw [Finset.card_insert_of_notMem fresh,
    Finset.card_image_of_injective _ (numbered_injective name), Nat.card_Icc] at counted
  omega

theorem unique_of_not_mem {name : String} {used : List String} (new : name ∉ used) :
    unique name used = name := by
  simp [unique, new]

theorem unique_of_mem {name : String} {used : List String} (taken : name ∈ used) :
    ∃ k, k ≤ used.toFinset.card ∧ IsLeast {k | 0 < k ∧ numbered name k ∉ used} k ∧
      unique name used = numbered name k := by
  -- The search ends at the least free number, which is at most the count of names in use.
  obtain ⟨free, positive, bounded, new⟩ := exists_free taken
  have card := used.toFinset_card_le
  cases found : (List.range' 1 (used.length + 1)).find? fun n => !used.contains (numbered name n) with
  | none =>
    rw [List.find?_range'_eq_none] at found
    have := found free positive (by omega)
    simp [new] at this
  | some k =>
    obtain ⟨new_k, range, earlier⟩ := List.find?_range'_eq_some.mp found
    rw [List.mem_range'_1] at range
    have least : IsLeast {k | 0 < k ∧ numbered name k ∉ used} k := by
      refine ⟨⟨range.1, by simpa using new_k⟩, fun other otherFree => ?_⟩
      by_contra before
      have := earlier other otherFree.1 (Nat.lt_of_not_le before)
      simp [otherFree.2] at this
    refine ⟨k, (least.2 ⟨positive, new⟩).trans bounded, least, ?_⟩
    unfold unique
    rw [found, if_pos (by simpa using taken)]
    rfl

theorem unique_chosen (name : String) (used : List String) : Chosen name used (unique name used) := by
  by_cases taken : name ∈ used
  · obtain ⟨k, _, least, same⟩ := unique_of_mem taken
    exact .inr ⟨taken, k, least, same⟩
  · exact .inl ⟨taken, unique_of_not_mem taken⟩

end ClientGen.Naming
