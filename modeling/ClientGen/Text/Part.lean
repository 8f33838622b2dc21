/-! Texts within texts. -/

set_option autoImplicit false

namespace ClientGen.Text

def isPartOf (part : List Char) : List Char → Bool
  | [] => part.isEmpty
  | c :: rest => part.isPrefixOf (c :: rest) || isPartOf part rest

theorem isPartOf_append (before part after : List Char) : isPartOf part (before ++ part ++ after) = true := by
  induction before with
  | nil =>
    cases part with
    | nil => cases after <;> simp [isPartOf]
    | cons c rest => simp [isPartOf, List.isPrefixOf_iff_prefix]
  | cons c rest ih => simp only [List.cons_append, isPartOf, ih, Bool.or_true]

theorem isPartOf_iff_infix {part whole : List Char} : isPartOf part whole = true ↔ part <:+: whole := by
  constructor
  · intro occurs
    induction whole with
    | nil => simpa [isPartOf] using occurs
    | cons c rest ih =>
      rcases Bool.or_eq_true_iff.mp occurs with here | later
      · exact (List.isPrefixOf_iff_prefix.mp here).isInfix
      · exact (ih later).trans (List.suffix_cons c rest).isInfix
  · rintro ⟨before, after, rfl⟩
    exact isPartOf_append before part after

def contains (whole part : String) : Bool := isPartOf part.toList whole.toList

end ClientGen.Text
