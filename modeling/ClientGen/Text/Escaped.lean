import ClientGen.Text.Hex

/-! JSON string literals in ASCII: how a text is written, and how one is read. Characters beyond the
basic plane are written as two code units. -/

set_option autoImplicit false

namespace ClientGen.Text

def unitEscape (unit : Nat) : List Char := '\\' :: 'u' :: hexDigits 4 unit

def escapeChar (c : Char) : List Char :=
  if c = '"' || c = '\\' then ['\\', c]
  else if c = '\n' then ['\\', 'n']
  else if c = '\r' then ['\\', 'r']
  else if c = '\t' then ['\\', 't']
  else if c.toNat = 12 then ['\\', 'f']
  else if c.toNat = 8 then ['\\', 'b']
  else if 32 ≤ c.toNat && c.toNat ≤ 126 then [c]
  else if c.toNat < 0x10000 then unitEscape c.toNat
  else
    let above := c.toNat - 0x10000
    unitEscape (0xD800 + above / 0x400) ++ unitEscape (0xDC00 + above % 0x400)

def escape (text : String) : String :=
  String.ofList ('"' :: text.toList.flatMap escapeChar ++ ['"'])

def shortEscape? : Char → Option Char
  | '"' => some '"'
  | '\\' => some '\\'
  | '/' => some '/'
  | 'b' => some (Char.ofNat 8)
  | 'f' => some (Char.ofNat 12)
  | 'n' => some '\n'
  | 'r' => some '\r'
  | 't' => some '\t'
  | _ => none

/-- Reads a literal whose opening quote is behind: the code units and plain characters it holds, and the
text after the closing quote. Control characters have to be escaped. -/
def readUnits : List Char → Option (List Nat × List Char)
  | [] => none
  | '"' :: rest => some ([], rest)
  | '\\' :: 'u' :: a :: b :: c :: d :: rest =>
    match readHex? [a, b, c, d] with
    | none => none
    | some unit => (readUnits rest).map fun (units, left) => (unit :: units, left)
  | '\\' :: c :: rest =>
    match shortEscape? c with
    | none => none
    | some plain => (readUnits rest).map fun (units, left) => (plain.toNat :: units, left)
  | c :: rest =>
    if c.toNat < 32 || c = '\\' then none
    else (readUnits rest).map fun (units, left) => (c.toNat :: units, left)

private def isHighUnit (n : Nat) : Bool := 0xD800 ≤ n && n < 0xDC00

private def isLowUnit (n : Nat) : Bool := 0xDC00 ≤ n && n < 0xE000

/-- Puts the two code units of a character beyond the basic plane together; one without its partner is no
character. -/
def joinUnits : List Nat → Option (List Char)
  | [] => some []
  | [unit] => if isHighUnit unit || isLowUnit unit then none else some [Char.ofNat unit]
  | high :: low :: rest =>
    if isHighUnit high && isLowUnit low then
      (joinUnits rest).map (Char.ofNat (0x10000 + (high - 0xD800) * 0x400 + (low - 0xDC00)) :: ·)
    else if isHighUnit high || isLowUnit high then none
    else (joinUnits (low :: rest)).map (Char.ofNat high :: ·)

def unitsOf (c : Char) : List Nat :=
  if c.toNat < 0x10000 then [c.toNat]
  else [0xD800 + (c.toNat - 0x10000) / 0x400, 0xDC00 + (c.toNat - 0x10000) % 0x400]

theorem toNat_lt_or_lt (c : Char) : c.toNat < 0xD800 ∨ 0xDFFF < c.toNat ∧ c.toNat < 0x110000 := c.valid

theorem joinUnits_unitsOf_append (c : Char) (rest : List Nat) :
    joinUnits (unitsOf c ++ rest) = (joinUnits rest).map (c :: ·) := by
  have valid := toNat_lt_or_lt c
  unfold unitsOf
  split
  next narrow =>
    -- No character has the code of half a pair.
    have whole : isHighUnit c.toNat = false ∧ isLowUnit c.toNat = false := by
      simp only [isHighUnit, isLowUnit, Bool.and_eq_false_iff, decide_eq_false_iff_not]
      omega
    cases rest <;> simp [joinUnits, whole]
  next wide =>
    have high : isHighUnit (0xD800 + (c.toNat - 0x10000) / 0x400) = true := by
      simp only [isHighUnit, Bool.and_eq_true, decide_eq_true_eq]
      omega
    have low : isLowUnit (0xDC00 + (c.toNat - 0x10000) % 0x400) = true := by
      simp only [isLowUnit, Bool.and_eq_true, decide_eq_true_eq]
      omega
    have code : 0x10000 + (0xD800 + (c.toNat - 0x10000) / 0x400 - 0xD800) * 0x400 +
        (0xDC00 + (c.toNat - 0x10000) % 0x400 - 0xDC00) = c.toNat := by
      omega
    rw [List.cons_append, List.cons_append, List.nil_append, joinUnits, high, low, Bool.and_true, if_pos rfl, code,
      Char.ofNat_toNat]

end ClientGen.Text
