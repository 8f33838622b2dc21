import ClientGen.Document.Json.Reader
import ClientGen.Proofs.Text.Case

/-! A text that is written as a JSON literal can be read back, whatever characters it holds, and the literal is of
ASCII. -/

set_option autoImplicit false

namespace ClientGen.Text

section
variable {rest left : List Char} {units : List Nat} {c : Char}

theorem readUnits_unitEscape {unit : Nat} (short : unit < 0x10000) (read : readUnits rest = some (units, left)) :
    readUnits (unitEscape unit ++ rest) = some (unit :: units, left) := by
  have digits : readHex? (hexDigits 4 unit) = some unit := readHex?_hexDigits short
  simp only [hexDigits] at digits
  simp only [unitEscape, hexDigits, List.cons_append, List.nil_append, readUnits, digits, read, Option.map_some]

theorem readUnits_shortEscape {letter : Char} (short : shortEscape? letter = some c)
    (read : readUnits rest = some (units, left)) :
    readUnits ('\\' :: letter :: rest) = some (c.toNat :: units, left) := by
  have other : letter ≠ 'u' := by
    rintro rfl
    cases short
  rw [readUnits]
  · rw [short, read]
    rfl
  · rintro _ _ _ _ _ rfl
    exact absurd rfl other

theorem readUnits_plain (plain : c ≠ '"' ∧ c ≠ '\\') (printed : ¬ c.toNat < 32)
    (read : readUnits rest = some (units, left)) : readUnits (c :: rest) = some (c.toNat :: units, left) := by
  rw [readUnits]
  · simp [printed, plain.2, read]
  · exact fun quote => plain.1 quote
  · exact fun _ _ _ _ _ slash => absurd slash plain.2
  · exact fun _ _ slash => absurd slash plain.2

theorem readUnits_escapeChar (c : Char) (read : readUnits rest = some (units, left)) :
    readUnits (escapeChar c ++ rest) = some (unitsOf c ++ units, left) := by
  have basic {d : Char} (small : d.toNat < 0x10000) : unitsOf d = [d.toNat] := if_pos small
  have short {d letter : Char} (stands : shortEscape? letter = some d) (small : d.toNat < 0x10000) :
      readUnits (['\\', letter] ++ rest) = some (unitsOf d ++ units, left) := by
    rw [basic small]
    exact readUnits_shortEscape stands read
  have valid := toNat_lt_or_lt c
  unfold escapeChar
  split
  next marks =>
    rcases Bool.or_eq_true_iff.mp marks with quote | slash
    · obtain rfl := of_decide_eq_true quote
      exact short rfl (by decide)
    · obtain rfl := of_decide_eq_true slash
      exact short rfl (by decide)
  next plain =>
    simp only [Bool.or_eq_true, decide_eq_true_eq, not_or] at plain
    split
    next same => exact same ▸ short rfl (by decide)
    split
    next same => exact same ▸ short rfl (by decide)
    split
    next same => exact same ▸ short rfl (by decide)
    split
    next code =>
      obtain rfl : Char.ofNat 12 = c := by rw [← code, Char.ofNat_toNat]
      exact short rfl (by decide)
    split
    next code =>
      obtain rfl : Char.ofNat 8 = c := by rw [← code, Char.ofNat_toNat]
      exact short rfl (by decide)
    split
    next printed =>
      simp only [Bool.and_eq_true, decide_eq_true_eq] at printed
      rw [basic (by omega)]
      exact readUnits_plain plain (by omega) read
    split
    next small =>
      rw [basic small]
      exact readUnits_unitEscape small read
    next wide =>
      -- A character beyond the basic plane is written as two units, each of which is short enough.
      rw [unitsOf, if_neg wide, List.append_assoc]
      exact readUnits_unitEscape (by omega) (readUnits_unitEscape (by omega) read)

theorem readUnits_escaped (text : List Char) :
    readUnits (text.flatMap escapeChar ++ '"' :: left) = some (text.flatMap unitsOf, left) := by
  induction text with
  | nil => rfl
  | cons c others ih =>
    rw [List.flatMap_cons, List.append_assoc, readUnits_escapeChar c ih, List.flatMap_cons]

end

theorem joinUnits_flatMap (text : List Char) : joinUnits (text.flatMap unitsOf) = some text := by
  induction text with
  | nil => rfl
  | cons c rest ih => rw [List.flatMap_cons, joinUnits_unitsOf_append, ih, Option.map_some]

theorem read_escape (text : String) : Document.Json.read (escape text) = .ok (.text text) :=
  Document.Json.read_literal (by rw [escape, String.toList_ofList]; rfl) (readUnits_escaped text.toList)
    (joinUnits_flatMap text.toList)

/-! ## ASCII -/

theorem narrow_hexDigits (width n : Nat) : Narrow (hexDigits width n) := by
  have digit : ∀ m < 16, (hexDigit m).toNat < 128 := by decide
  induction width with
  | zero => exact List.forall_mem_nil _
  | succ width ih => exact List.forall_mem_cons.mpr ⟨digit _ (Nat.mod_lt _ (by decide)), ih⟩

theorem narrow_unitEscape (unit : Nat) : Narrow (unitEscape unit) :=
  narrow_append.mpr ⟨(by decide : Narrow ['\\', 'u']), narrow_hexDigits 4 unit⟩

theorem narrow_escapeChar (c : Char) : Narrow (escapeChar c) := by
  unfold escapeChar
  split
  next marks =>
    rcases Bool.or_eq_true_iff.mp marks with quote | slash
    · obtain rfl := of_decide_eq_true quote
      decide
    · obtain rfl := of_decide_eq_true slash
      decide
  iterate 5
    split
    next => decide
  split
  next printed =>
    simp only [Bool.and_eq_true, decide_eq_true_eq] at printed
    exact List.forall_mem_singleton.mpr (by omega)
  split
  next => exact narrow_unitEscape _
  next => exact narrow_append.mpr ⟨narrow_unitEscape _, narrow_unitEscape _⟩

theorem narrow_escape (text : String) : Narrow (escape text).toList := by
  rw [escape, String.toList_ofList]
  refine List.forall_mem_cons.mpr ⟨by decide, narrow_append.mpr ⟨?_, by decide⟩⟩
  intro c among
  obtain ⟨d, _, among⟩ := List.mem_flatMap.mp among
  exact narrow_escapeChar d c among

end ClientGen.Text
