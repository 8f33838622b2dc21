import ClientGen.Number.Binary64
import Mathlib.Tactic.Ring

/-! Floating-point numbers counted in units of the smallest positive one. A finite number is told by this count, up
to the sign of zero, and it equals a whole number exactly if their counts are the same. -/

set_option autoImplicit false

namespace ClientGen.Binary64

theorem twoTo_eq (n : Nat) : twoTo n = 2 ^ n := rfl

variable {x y : Binary64}

theorem fraction_lt (x : Binary64) : x.fraction < 2 ^ 52 := Nat.mod_lt _ (twoTo_pos 52)

theorem mantissa_lt (x : Binary64) : x.mantissa < 2 ^ 53 := by
  have := x.fraction_lt
  unfold mantissa
  rw [twoTo_eq]
  split <;> omega

/-- How many times the unit of the mantissa is the double of the smallest number. -/
def doublings (x : Binary64) : Nat := x.storedExponent - 1

theorem exponent_eq (x : Binary64) : x.exponent = (x.doublings : Int) - 1074 := by
  unfold exponent doublings
  split <;> omega

theorem normal (x : Binary64) : 2 ^ 52 ≤ x.mantissa ∨ x.doublings = 0 := by
  unfold mantissa doublings
  rw [twoTo_eq]
  split <;> omega

def units (x : Binary64) : Nat := x.mantissa * 2 ^ x.doublings

def scaled (x : Binary64) : Int := if x.isNegative then -(x.units : Int) else x.units

theorem doublings_le_of_units_eq (same : x.units = y.units) : y.doublings ≤ x.doublings := by
  by_contra less
  rw [Nat.not_le] at less
  -- The number of the greater unit has a long mantissa, and none is long enough to make up for a doubling.
  have long : 2 ^ 52 ≤ y.mantissa := y.normal.resolve_right (by omega)
  have bound : x.units < y.units := calc
    x.units < 2 ^ 53 * 2 ^ x.doublings := Nat.mul_lt_mul_of_pos_right x.mantissa_lt (Nat.two_pow_pos _)
    _ = 2 ^ 52 * 2 ^ (x.doublings + 1) := by ring
    _ ≤ 2 ^ 52 * 2 ^ y.doublings := Nat.mul_le_mul_left _ (Nat.pow_le_pow_right (by decide) less)
    _ ≤ y.units := Nat.mul_le_mul_right _ long
  omega

theorem eq_of_units_eq (same : x.units = y.units) (sign : x.isNegative = y.isNegative) : x = y := by
  -- The count tells the unit, the unit the mantissa, and both together what is stored.
  have doublings : x.doublings = y.doublings :=
    Nat.le_antisymm (doublings_le_of_units_eq same.symm) (doublings_le_of_units_eq same)
  have mantissa : x.mantissa = y.mantissa := by
    rw [units, units, doublings] at same
    exact Nat.eq_of_mul_eq_mul_right (Nat.two_pow_pos _) same
  have stored : x.storedExponent = y.storedExponent ∧ x.fraction = y.fraction := by
    have := x.fraction_lt
    have := y.fraction_lt
    unfold Binary64.mantissa at mantissa
    unfold Binary64.doublings at doublings
    rw [twoTo_eq] at mantissa
    split at mantissa <;> split at mantissa <;> omega
  have bits : x.bits.toNat = y.bits.toNat := by
    have := x.bits.toNat_lt
    have := y.bits.toNat_lt
    obtain ⟨exponents, fractions⟩ := stored
    rw [storedExponent, storedExponent, twoTo_eq, twoTo_eq] at exponents
    rw [fraction, fraction, twoTo_eq] at fractions
    rw [isNegative, isNegative, twoTo_eq, decide_eq_decide] at sign
    omega
  obtain ⟨bitsOfX⟩ := x
  obtain ⟨bitsOfY⟩ := y
  exact congrArg mk (UInt64.toNat_inj.mp bits)

theorem isZero_iff : x.isZero = true ↔ x.units = 0 := by
  have bits := x.bits.toNat_lt
  rw [units, Nat.mul_eq_zero, or_iff_left (Nat.two_pow_pos _).ne']
  rw [isZero, beq_iff_eq, mantissa, storedExponent, fraction, twoTo_eq, twoTo_eq, twoTo_eq]
  by_cases least : x.bits.toNat / 2 ^ 52 % 2 ^ 11 = 0
  · rw [if_pos least]
    omega
  · rw [if_neg least]
    omega

theorem isFinite_of_isZero (zero : x.isZero = true) : x.isFinite = true := by
  simp only [isZero, isFinite, storedExponent, twoTo_eq, beq_iff_eq, bne_iff_ne] at zero ⊢
  omega

theorem isNaN_of_isFinite (finite : x.isFinite = true) : x.isNaN = false := by
  simp only [isFinite, bne_iff_ne] at finite
  simp [isNaN, finite]

theorem scaled_eq_iff : x.scaled = y.scaled ↔
    x.units = y.units ∧ (x.isNegative = y.isNegative ∨ x.isZero = true ∧ y.isZero = true) := by
  rw [isZero_iff, isZero_iff]
  unfold scaled
  cases x.isNegative <;> cases y.isNegative <;> simp <;> omega

theorem same_iff_scaled (finite : x.isFinite = true) (other : y.isFinite = true) :
    x.same y = true ↔ x.scaled = y.scaled := by
  rw [scaled_eq_iff]
  simp only [same, isNaN_of_isFinite finite, isNaN_of_isFinite other, Bool.not_false, Bool.true_and, Bool.or_eq_true,
    beq_iff_eq, Bool.and_eq_true]
  constructor
  · rintro (bits | ⟨zero, none⟩)
    · obtain rfl : x = y := congrArg mk bits
      exact ⟨rfl, .inl rfl⟩
    · exact ⟨(isZero_iff.mp zero).trans (isZero_iff.mp none).symm, .inr ⟨zero, none⟩⟩
  · rintro ⟨units, sign | zeros⟩
    · exact .inl (congrArg bits (eq_of_units_eq units sign))
    · exact .inr zeros

theorem same_iff_of_infinite (infinite : x.isFinite = false) :
    x.same y = true ↔ x.isNaN = false ∧ x = y := by
  have some : x.isZero = false := by
    by_contra zero
    simp [isFinite_of_isZero (Bool.not_eq_false _ ▸ zero)] at infinite
  simp only [same, some, Bool.false_and, Bool.or_false, Bool.and_eq_true, Bool.not_eq_true', beq_iff_eq]
  constructor
  · rintro ⟨⟨number, _⟩, bits⟩
    exact ⟨number, congrArg mk bits⟩
  · rintro ⟨number, rfl⟩
    exact ⟨⟨number, number⟩, rfl⟩

theorem not_same_of_infinite (finite : x.isFinite = true) (infinite : y.isFinite = false) : x.same y ≠ true := by
  intro same
  have swapped : y.same x = true := by
    simpa only [Binary64.same, Bool.and_comm, Bool.beq_comm (a := x.bits)] using same
  obtain ⟨_, rfl⟩ := (same_iff_of_infinite infinite).mp swapped
  simp [finite] at infinite

def unitsOfOne : Nat := twoTo 1074

theorem unitsOfOne_pos : 0 < unitsOfOne := twoTo_pos 1074

def unitsOf (n : Int) : Int := n * unitsOfOne

theorem unitsOf_inj {m n : Int} : unitsOf m = unitsOf n ↔ m = n :=
  Int.mul_eq_mul_right_iff (Int.natCast_ne_zero.mpr unitsOfOne_pos.ne')

theorem units_eq_iff {m : Nat} : x.units = m * unitsOfOne ↔
    if 0 ≤ x.exponent then x.mantissa * twoTo x.exponent.toNat = m
    else x.mantissa = m * twoTo (-x.exponent).toNat := by
  rw [exponent_eq, units, unitsOfOne]
  split
  next whole =>
    have split : 2 ^ x.doublings = twoTo ((x.doublings : Int) - 1074).toNat * twoTo 1074 := by
      rw [twoTo_eq, twoTo_eq, ← Nat.pow_add]
      congr 1
      omega
    rw [split, ← Nat.mul_assoc]
    exact Nat.mul_left_inj (twoTo_pos 1074).ne'
  next parts =>
    have split : twoTo 1074 = twoTo (-((x.doublings : Int) - 1074)).toNat * 2 ^ x.doublings := by
      rw [twoTo_eq, twoTo_eq, ← Nat.pow_add]
      congr 1
      omega
    rw [split, ← Nat.mul_assoc]
    exact Nat.mul_left_inj (Nat.two_pow_pos _).ne'

theorem equalsInt_iff {n : Int} : x.equalsInt n = true ↔ x.isFinite = true ∧ x.scaled = unitsOf n := by
  have counts : x.equalsInt n = true ↔ x.isFinite = true ∧
      ((x.units = 0 ∧ n = 0) ∨ x.isNegative = decide (n < 0) ∧ x.units = n.natAbs * unitsOfOne) := by
    rw [units_eq_iff, ← isZero_iff]
    simp only [equalsInt, Bool.and_eq_true, Bool.or_eq_true, beq_iff_eq, Int.natAbs_eq_zero]
    split <;> simp only [beq_iff_eq]
  rw [counts, scaled, unitsOf]
  refine and_congr_right fun _ => ?_
  have value : n * unitsOfOne =
      if n < 0 then -((n.natAbs * unitsOfOne : Nat) : Int) else (n.natAbs * unitsOfOne : Nat) := by
    push_cast
    split
    next below => rw [abs_of_neg below, Int.neg_mul, Int.neg_neg]
    next above => rw [abs_of_nonneg (Int.not_lt.mp above)]
  have nothing : n.natAbs * unitsOfOne = 0 ↔ n = 0 := by
    rw [Nat.mul_eq_zero, or_iff_left unitsOfOne_pos.ne', Int.natAbs_eq_zero]
  rw [value]
  generalize n.natAbs * unitsOfOne = magnitude at nothing ⊢
  cases x.isNegative <;> by_cases below : n < 0 <;> simp [below] <;> omega

end ClientGen.Binary64
