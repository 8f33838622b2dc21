/-! Hexadecimal digits. Writing a number in a fixed width and reading it back gives the number modulo what
the width can hold. -/

set_option autoImplicit false

namespace ClientGen.Text

def hexDigit (n : Nat) : Char := if n < 10 then Char.ofNat (48 + n) else Char.ofNat (87 + n)

/-- The digits of a number in a fixed width; what does not fit is left out. -/
def hexDigits : Nat → Nat → List Char
  | 0, _ => []
  | width + 1, n => hexDigit (n / Nat.pow 16 width % 16) :: hexDigits width n

def hexValue? (c : Char) : Option Nat :=
  if '0' ≤ c && c ≤ '9' then some (c.toNat - 48)
  else if 'a' ≤ c && c ≤ 'f' then some (c.toNat - 87)
  else if 'A' ≤ c && c ≤ 'F' then some (c.toNat - 55)
  else none

/-- The number that digits write after those that wrote `n`. -/
def readHexFrom? (n : Nat) : List Char → Option Nat
  | [] => some n
  | c :: rest => (hexValue? c).bind fun digit => readHexFrom? (16 * n + digit) rest

def readHex? : List Char → Option Nat := readHexFrom? 0

theorem hexValue?_hexDigit : ∀ n < 16, hexValue? (hexDigit n) = some n := by decide

theorem readHexFrom?_hexDigits (width n before : Nat) :
    readHexFrom? before (hexDigits width n) =
      some (before * Nat.pow 16 width + n % Nat.pow 16 width) := by
  induction width generalizing before with
  | zero => simp [hexDigits, readHexFrom?, Nat.mod_one]
  | succ width ih =>
    rw [hexDigits, readHexFrom?, hexValue?_hexDigit _ (Nat.mod_lt _ (by omega)), Option.bind_some, ih]
    have wider : Nat.pow 16 (width + 1) = Nat.pow 16 width * 16 := rfl
    rw [wider, Nat.mod_mul]
    grind

theorem readHex?_hexDigits {width n : Nat} (h : n < Nat.pow 16 width) :
    readHex? (hexDigits width n) = some n := by
  rw [readHex?, readHexFrom?_hexDigits, Nat.mod_eq_of_lt h, Nat.zero_mul, Nat.zero_add]

end ClientGen.Text
