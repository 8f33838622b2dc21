import ClientGen.Number.Binary64

/-! The decimal text of a floating-point number: the fewest digits that read back as the same number,
and of those the nearest to it. -/

set_option autoImplicit false

namespace ClientGen

/-- The decimal number `digits · 10 ^ scale`. -/
structure Decimal where
  digits : Nat
  scale : Int
  deriving DecidableEq, Repr

namespace Decimal

def stripZeros : Nat → Decimal → Decimal
  | 0, d => d
  | fuel + 1, d =>
    if d.digits % 10 = 0 then stripZeros fuel ⟨d.digits / 10, d.scale + 1⟩ else d

structure Layout where
  /-- Positions of the point, counted from before the first digit, that are written without an
  exponent: those above the first bound and up to the second. -/
  above : Int
  upTo : Int
  exponentWidth : Nat

private def padded (width n : Nat) : String :=
  let digits := toString n
  String.ofList (List.replicate (width - digits.length) '0') ++ digits

/-- The text of a positive decimal; a number without a fractional part ends in `.0` unless it has an
exponent. -/
def write (layout : Layout) (d : Decimal) : String :=
  let digits := (toString d.digits).toList
  let point : Int := digits.length + d.scale
  if layout.above < point && point ≤ layout.upTo then
    if point ≤ 0 then
      "0." ++ String.ofList (List.replicate (-point).toNat '0' ++ digits)
    else if point.toNat < digits.length then
      String.ofList (digits.take point.toNat ++ '.' :: digits.drop point.toNat)
    else
      String.ofList (digits ++ List.replicate (point.toNat - digits.length) '0') ++ ".0"
  else
    let mantissa := match digits with
      | first :: rest@(_ :: _) => String.ofList (first :: '.' :: rest)
      | short => String.ofList short
    let power := point - 1
    mantissa ++ "e" ++ (if power < 0 then "-" else "+") ++ padded layout.exponentWidth power.natAbs

def isNumeral (c : Char) : Bool := c.isDigit || c = '.' || c = 'e' || c = '-' || c = '+'

theorem all_isNumeral_toString (n : Nat) : (toString n).toList.all isNumeral = true := by
  refine List.all_eq_true.mpr fun c written => ?_
  have digit : c.isDigit = true :=
    Nat.isDigit_of_mem_toDigits (by decide) (by decide) (Nat.toList_repr ▸ written)
  simp [isNumeral, digit]

private theorem all_isNumeral_zeros (n : Nat) : (List.replicate n '0').all isNumeral = true := by
  refine List.all_eq_true.mpr fun c among => ?_
  rw [List.eq_of_mem_replicate among]
  rfl

private theorem all_isNumeral_padded (width n : Nat) : (padded width n).toList.all isNumeral = true := by
  unfold padded
  rw [String.toList_append, String.toList_ofList, List.all_append, Bool.and_eq_true]
  exact ⟨all_isNumeral_zeros _, all_isNumeral_toString n⟩

theorem all_isNumeral_write (layout : Layout) (d : Decimal) :
    (d.write layout).toList.all isNumeral = true := by
  have numerals : (toString d.digits).toList.all isNumeral = true := all_isNumeral_toString d.digits
  have within {part : List Char} (sub : part ⊆ (toString d.digits).toList) : part.all isNumeral = true :=
    List.all_eq_true.mpr fun c among => List.all_eq_true.mp numerals c (sub among)
  unfold write
  dsimp only
  generalize (toString d.digits).toList = digits at *
  split
  · split
    · simp only [String.toList_append, String.toList_ofList, List.all_append, Bool.and_eq_true]
      exact ⟨rfl, all_isNumeral_zeros _, numerals⟩
    · split
      · simp only [String.toList_ofList, List.all_append, List.all_cons, Bool.and_eq_true]
        exact ⟨within (List.take_subset _ _), rfl, within (List.drop_subset _ _)⟩
      · simp only [String.toList_append, String.toList_ofList, List.all_append, Bool.and_eq_true]
        exact ⟨⟨numerals, all_isNumeral_zeros _⟩, rfl⟩
  · simp only [String.toList_append, List.all_append, Bool.and_eq_true]
    refine ⟨⟨⟨?_, rfl⟩, ?_⟩, all_isNumeral_padded _ _⟩
    · split
      · simp only [String.toList_ofList, List.all_cons, Bool.and_eq_true] at numerals ⊢
        exact ⟨numerals.1, rfl, numerals.2⟩
      · rwa [String.toList_ofList]
    · split <;> rfl

end Decimal

namespace Binary64

private def belowPower (num den : Nat) (power : Int) : Bool :=
  if 0 ≤ power then num < tenTo power.toNat * den else num * tenTo (-power).toNat < den

private def powerAbove (num den : Nat) : Int :=
  let estimate : Int := ((num.log2 : Int) - (den.log2 : Int)) * 30103 / 100000 - 1
  let near := (List.range 5).map fun (i : Nat) => estimate + (i : Int)
  (near.find? (belowPower num den)).getD (estimate + 5)

/-- The interval of reals that round to a positive value, and the value, in units of
`2 ^ (exponent - 2)`: low end, value, high end. -/
private def roundingInterval (x : Binary64) : Nat × Nat × Nat :=
  let value := 4 * x.mantissa
  let low := if x.mantissa = twoTo 52 && x.exponent > -1074 then value - 1 else value - 2
  (low, value, value + 2)

/-- The nearer of the two neighbours with `count` digits that lies in the rounding interval. -/
private def neighbour? (x : Binary64) (power : Int) (count : Nat) : Option Decimal :=
  let (low, value, high) := x.roundingInterval
  let scale := power - (count : Int)
  let unit : Int := x.exponent - 2
  -- One step of the grid and one unit of the interval, as whole numbers of a common size.
  let step := tenTo scale.toNat * twoTo (-unit).toNat
  let size := twoTo unit.toNat * tenTo (-scale).toNat
  let floor := value * size / step
  let inside (n : Nat) : Bool :=
    if x.mantissa % 2 = 0 then low * size ≤ n * step && n * step ≤ high * size
    else low * size < n * step && n * step < high * size
  let below := value * size - floor * step
  let above := (floor + 1) * step - value * size
  if inside floor && inside (floor + 1) then
    some ⟨if below < above || (below = above && floor % 2 = 0) then floor else floor + 1, scale⟩
  else if inside floor then some ⟨floor, scale⟩
  else if inside (floor + 1) then some ⟨floor + 1, scale⟩
  else none

def shortest (x : Binary64) : Decimal :=
  let power :=
    if 0 ≤ x.exponent then powerAbove (x.mantissa * twoTo x.exponent.toNat) 1
    else powerAbove x.mantissa (twoTo (-x.exponent).toNat)
  let found := ((List.range 17).map (· + 1)).findSome? (neighbour? x power)
  (found.getD ⟨0, 0⟩).stripZeros 17

/-- Numbers from 0.0001 up to 10 ^ 16 have a point and no exponent. -/
def layout : Decimal.Layout := ⟨-4, 16, 2⟩

def write (x : Binary64) : String :=
  (if x.isNegative then "-" else "") ++
    if x.isZero then "0.0" else x.shortest.write layout

theorem all_isNumeral_write (x : Binary64) : x.write.toList.all Decimal.isNumeral = true := by
  unfold write
  rw [String.toList_append, List.all_append, Bool.and_eq_true]
  constructor
  · split <;> rfl
  · split
    · rfl
    · exact Decimal.all_isNumeral_write _ _

end Binary64

end ClientGen
