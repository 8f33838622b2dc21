/-! Binary floating-point numbers of 64 bits, kept as their bits and computed with in exact natural
arithmetic: decoding, and the nearest number to a decimal. -/

set_option autoImplicit false

namespace ClientGen

def twoTo (n : Nat) : Nat := Nat.pow 2 n

def tenTo (n : Nat) : Nat := Nat.pow 10 n

theorem twoTo_pos (n : Nat) : 0 < twoTo n := Nat.pow_pos (by decide)

structure Binary64 where
  bits : UInt64
  deriving DecidableEq, Repr, Inhabited

namespace Binary64

/-- Whether the sign bit is set; it is in negative zero too. -/
def isNegative (x : Binary64) : Bool := twoTo 63 ≤ x.bits.toNat

def storedExponent (x : Binary64) : Nat := x.bits.toNat / twoTo 52 % twoTo 11

def fraction (x : Binary64) : Nat := x.bits.toNat % twoTo 52

def isFinite (x : Binary64) : Bool := x.storedExponent != 2047

def isNaN (x : Binary64) : Bool := x.storedExponent == 2047 && x.fraction != 0

def isZero (x : Binary64) : Bool := x.bits.toNat % twoTo 63 == 0

/-- The whole number `m` of a finite value `m · 2 ^ e`. -/
def mantissa (x : Binary64) : Nat :=
  if x.storedExponent = 0 then x.fraction else x.fraction + twoTo 52

def exponent (x : Binary64) : Int :=
  if x.storedExponent = 0 then -1074 else (x.storedExponent : Int) - 1075

def assemble (negative : Bool) (magnitude : Nat) : Binary64 :=
  ⟨UInt64.ofNat (magnitude + if negative then twoTo 63 else 0)⟩

def infinity (negative : Bool) : Binary64 := assemble negative (2047 * twoTo 52)

def nan : Binary64 := assemble false (2047 * twoTo 52 + twoTo 51)

/-- `num / den` over a power of two, as a fraction of natural numbers. -/
private def overPowerOfTwo (num den : Nat) (e : Int) : Nat × Nat :=
  if 0 ≤ e then (num, den * twoTo e.toNat) else (num * twoTo (-e).toNat, den)

/-- The quotient rounded to the nearest natural number, a half to the even one. -/
def roundQuotient (num den : Nat) : Nat :=
  let low := num / den
  let twice := 2 * (num % den)
  if twice < den then low
  else if den < twice then low + 1
  else if low % 2 = 0 then low else low + 1

def ofRatio (negative : Bool) (num den : Nat) : Binary64 :=
  if num = 0 then assemble negative 0
  else
    let guess : Int := (num.log2 : Int) - (den.log2 : Int) - 52
    let (top, bottom) := overPowerOfTwo num den guess
    let power := max (-1074) (if top / bottom < twoTo 52 then guess - 1 else guess)
    let (top, bottom) := overPowerOfTwo num den power
    let rounded := roundQuotient top bottom
    let (whole, power) := if rounded = twoTo 53 then (twoTo 52, power + 1) else (rounded, power)
    if power > 971 then infinity negative
    else if whole < twoTo 52 then assemble negative whole
    else assemble negative ((power + 1075).toNat * twoTo 52 + (whole - twoTo 52))

/-- The nearest number to `digits · 10 ^ scale`; powers beyond the range are not computed. -/
def ofDecimal (negative : Bool) (digits : Nat) (scale : Int) : Binary64 :=
  let size : Int := (digits.log2 : Int) * 3 / 10
  if digits = 0 || scale + size < -400 then assemble negative 0
  else if scale + size > 400 then infinity negative
  else if 0 ≤ scale then ofRatio negative (digits * tenTo scale.toNat) 1
  else ofRatio negative digits (tenTo (-scale).toNat)

def equalsInt (x : Binary64) (n : Int) : Bool :=
  x.isFinite &&
    let magnitude := n.natAbs
    (x.isZero && magnitude == 0) || (x.isNegative == decide (n < 0) &&
      if 0 ≤ x.exponent then x.mantissa * twoTo x.exponent.toNat == magnitude
      else x.mantissa == magnitude * twoTo (-x.exponent).toNat)

/-- Equality of numbers: the two zeros are equal and no value equals a NaN. -/
def same (x y : Binary64) : Bool :=
  !x.isNaN && !y.isNaN && (x.bits == y.bits || (x.isZero && y.isZero))

def isNonnegative (x : Binary64) : Bool := !x.isNaN && (x.isZero || !x.isNegative)

end Binary64

end ClientGen
