import ClientGen.Number.Shortest
import ClientGen.Proofs.Text.Brackets
import ClientGen.Text.Escaped
import ClientGen.Text.Identifier

/-! Texts that a reader of brackets and literals takes as they are: numbers and identifiers. Any other text is
out of sight once it is written as a literal. -/

set_option autoImplicit false

namespace ClientGen

open Brackets

def Brackets.memberMarks : List Char := [';', ',']

/-- What is written between the parts of a type that have no brackets around each of them. -/
def Brackets.separators : List Char := '|' :: memberMarks

def Brackets.specials : List Char := '\\' :: signs ++ separators

def Text.Bare (text : List Char) : Prop := ∀ c ∈ text, c ∉ specials

instance (text : List Char) : Decidable (Text.Bare text) := List.decidableBAll _ text

namespace Text

namespace Bare

variable {angles : Bool} {text : List Char}

theorem of_class {isOne : Char → Bool} (apart : specials.any isOne = false)
    (each : text.all isOne = true) : Bare text := fun c among special =>
  List.any_eq_false.mp apart c special (List.all_eq_true.mp each c among)

theorem free (bare : Bare text) : FreeOf angles separators text := by
  refine .of_ordinary fun c among => ⟨fun sign => bare c among ?_, fun mark => bare c among ?_⟩
  · exact List.mem_append_left _ (List.mem_cons_of_mem _ sign)
  · exact List.mem_append_right _ mark

theorem inside (bare : Bare text) : Inside text := by
  refine .of_forall fun c among => ⟨?_, ?_⟩
  · rintro rfl
    exact bare _ among (by decide)
  · rintro rfl
    exact bare _ among (by decide)

theorem literal (bare : Bare text) : FreeOf angles separators ('"' :: text ++ ['"']) :=
  .literal bare.inside (by decide)

theorem of_numeral (numerals : text.all Decimal.isNumeral = true) : Bare text :=
  of_class (by decide) numerals

theorem of_identifier {name : List Char} (identifier : isIdentifier name = true) : Bare name := by
  cases name with
  | nil => cases identifier
  | cons c rest =>
    simp only [isIdentifier, Bool.and_eq_true] at identifier
    have apart : specials.any isIdentifierStart = false ∧ specials.any isIdentifierPart = false := by
      decide +kernel
    have first : Bare [c] := .of_class apart.1 (by simp [identifier.1])
    have others : Bare rest := .of_class apart.2 identifier.2
    exact List.forall_mem_cons.mpr ⟨first c List.mem_cons_self, others⟩

end Bare

theorem inside_hexDigits (width n : Nat) : Inside (hexDigits width n) := by
  have plain : ∀ m < 16, hexDigit m ≠ '"' ∧ hexDigit m ≠ '\\' := by decide
  induction width with
  | zero => exact .nil
  | succ width ih =>
    obtain ⟨other, noEscape⟩ := plain _ (Nat.mod_lt (n / Nat.pow 16 width) (by decide))
    exact (Inside.plain other noEscape).append ih

theorem inside_unitEscape (unit : Nat) : Inside (unitEscape unit) :=
  (Inside.escaped 'u').append (inside_hexDigits 4 unit)

theorem inside_escapeChar (c : Char) : Inside (escapeChar c) := by
  unfold escapeChar
  split
  next => exact .escaped c
  next other =>
    simp only [Bool.or_eq_true, decide_eq_true_eq, not_or] at other
    iterate 5
      split
      · exact .escaped _
    split
    · exact .plain other.1 other.2
    · split
      · exact inside_unitEscape _
      · exact (inside_unitEscape _).append (inside_unitEscape _)

theorem free_escape (angles : Bool) (text : String) : FreeOf angles separators (escape text).toList := by
  rw [escape, String.toList_ofList]
  exact .literal (.flatMap fun c _ => inside_escapeChar c) (by decide)

end Text

end ClientGen
