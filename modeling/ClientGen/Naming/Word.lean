import ClientGen.Text.Class

/-! The words of a text. A word is a run of capitals, a run of small letters that a capital may begin, or a
run of decimal digits; capitals before a capitalised word stand for themselves, and every other character
only separates. -/

set_option autoImplicit false

namespace ClientGen.Naming

def firstWord? (text : List Char) : Option (List Char × List Char) :=
  let capitals := text.takeWhile Char.isUpper
  let rest := text.dropWhile Char.isUpper
  let small := rest.takeWhile Char.isLower
  if small.isEmpty then
    if capitals.isEmpty then
      let digits := text.takeWhile Text.isDecimalDigit
      if digits.isEmpty then none else some (digits, text.dropWhile Text.isDecimalDigit)
    else some (capitals, rest)
  else if capitals.length < 2 then some (capitals ++ small, rest.dropWhile Char.isLower)
  else
    -- The last capital begins the next word.
    let count := capitals.length - 1
    some (text.take count, text.drop count)

theorem firstWord?_append {text word rest : List Char} (h : firstWord? text = some (word, rest)) :
    word ++ rest = text := by
  unfold firstWord? at h
  dsimp only at h
  split at h
  · split at h
    · split at h
      · simp at h
      · cases h
        exact List.takeWhile_append_dropWhile
    · cases h
      exact List.takeWhile_append_dropWhile
  · split at h
    · cases h
      rw [List.append_assoc, List.takeWhile_append_dropWhile, List.takeWhile_append_dropWhile]
    · cases h
      exact List.take_append_drop _ _

theorem firstWord?_ne_nil {text word rest : List Char} (h : firstWord? text = some (word, rest)) :
    word ≠ [] := by
  unfold firstWord? at h
  dsimp only at h
  split at h
  · split at h
    · split at h
      · simp at h
      next someDigit => cases h; simpa using someDigit
    next someCapital => cases h; simpa using someCapital
  next someSmall =>
    split at h
    · cases h
      simp only [ne_eq, List.append_eq_nil_iff, not_and]
      exact fun _ => by simpa using someSmall
    next manyCapitals =>
      cases h
      have bound : (text.takeWhile Char.isUpper).length ≤ text.length :=
        (List.takeWhile_sublist _).length_le
      rw [← List.length_pos_iff, List.length_take]
      omega

theorem firstWord?_length_lt {text word rest : List Char} (h : firstWord? text = some (word, rest)) :
    rest.length < text.length := by
  have whole := congrArg List.length (firstWord?_append h)
  have some := List.length_pos_iff.2 (firstWord?_ne_nil h)
  rw [List.length_append] at whole
  omega

def words (text : List Char) : List (List Char) :=
  match h : firstWord? text with
  | some (word, rest) =>
    have := firstWord?_length_lt h
    word :: words rest
  | none => match text with
    | [] => []
    | _ :: rest => words rest
termination_by text.length

def capitalize : List Char → List Char
  | [] => []
  | c :: rest => c.toUpper :: rest.map Char.toLower

def camelCaseChars (text : List Char) : List Char :=
  match words text with
  | [] => []
  | first :: more => first.map Char.toLower ++ more.flatMap capitalize

def camelCase (text : String) : String := String.ofList (camelCaseChars text.toList)

end ClientGen.Naming
