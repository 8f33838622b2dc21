import ClientGen.Text.Class

/-! The lines of a text, by all line boundaries of Unicode. -/

set_option autoImplicit false

namespace ClientGen.Text

/-- Characters that end a line; a carriage return and a line feed after it end it together. -/
def isLineEnd (c : Char) : Bool :=
  (0x0A ≤ c.toNat && c.toNat ≤ 0x0D) || (0x1C ≤ c.toNat && c.toNat ≤ 0x1E) ||
    c.toNat = 0x85 || c.toNat = 0x2028 || c.toNat = 0x2029

/-- The lines without their ends; `line` holds what is read of the first one, backwards. What follows the
last line end is a line only if it is not empty. -/
private def linesFrom (line : List Char) : List Char → List (List Char)
  | [] => if line.isEmpty then [] else [line.reverse]
  | '\r' :: '\n' :: rest => line.reverse :: linesFrom [] rest
  | c :: rest =>
    if isLineEnd c then line.reverse :: linesFrom [] rest else linesFrom (c :: line) rest

def lines (text : List Char) : List (List Char) := linesFrom [] text

/-- Carriage returns, and those with a line feed after them, as line feeds. -/
def unifyBreaks : List Char → List Char
  | [] => []
  | '\r' :: '\n' :: rest => '\n' :: unifyBreaks rest
  | '\r' :: rest => '\n' :: unifyBreaks rest
  | c :: rest => c :: unifyBreaks rest

private theorem splitOnPPrepend_unifyBreaks (line text : List Char) :
    (unifyBreaks text).splitOnPPrepend isLineEnd line = linesFrom line text ∨
      (unifyBreaks text).splitOnPPrepend isLineEnd line = linesFrom line text ++ [[]] := by
  fun_induction unifyBreaks text generalizing line with
  | case1 => cases line <;> simp [linesFrom]
  | case2 rest ih =>
    rw [List.splitOnPPrepend_cons_pos (by decide), linesFrom]
    exact (ih []).imp (congrArg _) (congrArg _)
  | case3 rest unpaired ih =>
    rw [List.splitOnPPrepend_cons_pos (by decide), linesFrom, if_pos (by decide)]
    · exact (ih []).imp (congrArg _) (congrArg _)
    · exact fun after _ => unpaired after
  | case4 c rest unpaired single ih =>
    rw [linesFrom]
    · split
      next ends =>
        rw [List.splitOnPPrepend_cons_pos ends]
        exact (ih []).imp (congrArg _) (congrArg _)
      next inside =>
        rw [List.splitOnPPrepend_cons_neg (by simpa using inside)]
        exact ih (c :: line)
    · exact unpaired

/-- Between the line ends there are the same lines, but for an empty one behind the last end. -/
theorem splitOnP_unifyBreaks (text : List Char) :
    (unifyBreaks text).splitOnP isLineEnd = lines text ∨ (unifyBreaks text).splitOnP isLineEnd = lines text ++ [[]] :=
  splitOnPPrepend_unifyBreaks [] text

end ClientGen.Text
