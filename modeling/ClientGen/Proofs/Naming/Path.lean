import ClientGen.Naming.MethodName
import ClientGen.Proofs.Naming.Spelling
import ClientGen.Proofs.Naming.Unique
import ClientGen.Proofs.Text.Identifier

/-! The name made of a verb and a path: the words of each part of the path, all of them capitalised. Parts are apart
from each other, so empty ones and a slash at the end leave no trace, and the name can stand in code if the verb
can. -/

set_option autoImplicit false

namespace ClientGen.Naming

/-! ## Words of parts -/

theorem splitAt_eq_splitOn (separator : Char) (text : List Char) :
    splitAt separator text = text.splitOn separator := by
  induction text with
  | nil => rfl
  | cons c rest ih =>
    rw [splitAt, ih, List.splitOn, List.splitOn, List.splitOnP_cons_eq_if_modifyHead]
    by_cases same : c = separator
    · simp [same]
    · simp only [same, if_false, beq_iff_eq]
      cases found : List.splitOnP (· == separator) rest with
      | nil => exact absurd found (List.splitOnP_ne_nil _ _)
      | cons part parts => rfl

section
variable {separator : Char}

theorem takeWhile_append_separator {p : Char → Bool} (stops : p separator = false) (first rest : List Char) :
    (first ++ separator :: rest).takeWhile p = first.takeWhile p := by
  induction first with
  | nil => simp [stops]
  | cons c others ih => by_cases holds : p c = true <;> simp [holds, ih]

theorem dropWhile_append_separator {p : Char → Bool} (stops : p separator = false) (first rest : List Char) :
    (first ++ separator :: rest).dropWhile p = first.dropWhile p ++ separator :: rest := by
  induction first with
  | nil => simp [stops]
  | cons c others ih => by_cases holds : p c = true <;> simp [holds, ih]

theorem firstWord?_append_separator (apart : isKept separator = false) (first rest : List Char) :
    firstWord? (first ++ separator :: rest) =
      (firstWord? first).map fun found => (found.1, found.2 ++ separator :: rest) := by
  -- The word is made of runs of large letters, small letters and digits, and each run ends at the separator.
  obtain ⟨letterless, noDigit⟩ := Bool.or_eq_false_iff.mp apart
  obtain ⟨notLarge, notSmall⟩ := Bool.or_eq_false_iff.mp letterless
  unfold firstWord?
  simp only [takeWhile_append_separator notLarge, dropWhile_append_separator notLarge,
    takeWhile_append_separator notSmall, dropWhile_append_separator notSmall,
    takeWhile_append_separator noDigit, dropWhile_append_separator noDigit]
  split
  · split
    · split <;> rfl
    · rfl
  · split
    · rfl
    · have capitals : (first.takeWhile Char.isUpper).length - 1 ≤ first.length :=
        Nat.le_trans (Nat.sub_le _ _) (List.takeWhile_sublist _).length_le
      rw [List.take_append_of_le_length capitals, List.drop_append_of_le_length capitals]
      rfl

theorem words_of_some {text word rest : List Char} (found : firstWord? text = some (word, rest)) :
    words text = word :: words rest := by
  rw [words]
  split
  next same =>
    cases found.symm.trans same
    rfl
  next none => cases found.symm.trans none

theorem words_of_none {c : Char} {rest : List Char} (none : firstWord? (c :: rest) = none) :
    words (c :: rest) = words rest := by
  rw [words]
  split
  next found => cases none.symm.trans found
  next => rfl

theorem words_append_separator (apart : isKept separator = false) (first rest : List Char) :
    words (first ++ separator :: rest) = words first ++ words rest := by
  have append (text : List Char) := firstWord?_append_separator apart text rest
  -- The words are cut off one after another, the first of them always in front of the separator.
  fun_induction words first with
  | case1 text word others found _ ih =>
    have whole := append text
    rw [found] at whole
    rw [words_of_some whole, ih]
    rfl
  | case2 => exact words_of_none (append [])
  | case3 c others none ih =>
    have whole := append (c :: others)
    rw [none, List.cons_append] at whole
    rw [List.cons_append, words_of_none whole, ih]

theorem words_intercalate (apart : isKept separator = false) (parts : List (List Char)) :
    words ([separator].intercalate parts) = parts.flatMap words := by
  induction parts with
  | nil => rw [List.intercalate_nil, words]; rfl
  | cons part rest ih =>
    cases rest with
    | nil => simp
    | cons next more =>
      rw [List.intercalate_cons_cons, List.append_assoc, List.singleton_append, words_append_separator apart, ih]
      rfl

end

/-! ## Capitalised words -/

def capitalizedWords (text : List Char) : List Char := (words text).flatMap capitalize

theorem capitalizedWords_eq (text : List Char) : capitalizedWords text =
    match camelCaseChars text with
    | [] => []
    | c :: rest => c.toUpper :: rest := by
  unfold capitalizedWords camelCaseChars
  cases found : words text with
  | nil => rfl
  | cons first more =>
    obtain ⟨c, rest, rfl⟩ := List.exists_cons_of_ne_nil (words_ne_nil (found ▸ List.mem_cons_self))
    simp [capitalize, Char.toUpper_toLower_eq_toUpper]

theorem capitalizedWords_intercalate {separator : Char} (apart : isKept separator = false)
    (parts : List (List Char)) :
    capitalizedWords ([separator].intercalate parts) = parts.flatMap capitalizedWords := by
  unfold capitalizedWords
  rw [words_intercalate apart, List.flatMap_assoc]

theorem IsFirstWord.kept {word rest : List Char} (isWord : IsFirstWord word rest) :
    ∀ c ∈ word, Naming.isKept c = true := by
  intro c among
  cases isWord with
  | capitals upper => simp [Naming.isKept, isAlpha_of_isUpper (upper c among)]
  | small letter lower =>
    rcases List.mem_cons.mp among with rfl | later
    · simp [Naming.isKept, letter]
    · simp [Naming.isKept, isAlpha_of_isLower (lower c later)]
  | digits digit => simp [Naming.isKept, digit c among]

theorem isKept_of_mem_words {text word : List Char} (listed : word ∈ words text) :
    ∀ c ∈ word, isKept c = true := by
  fun_induction words text with
  | case1 text first rest found _ ih =>
    rcases List.mem_cons.mp listed with rfl | later
    · exact (firstWord?_isFirstWord found).kept
    · exact ih later
  | case2 => cases listed
  | case3 c rest none ih => exact ih listed

theorem isKept_of_case {c : Char} (kept : isKept c = true) : isKept c.toUpper = true ∧ isKept c.toLower = true := by
  cases letter : c.isAlpha with
  | true => simp [isKept, letter]
  | false =>
    obtain ⟨large, small⟩ := Bool.or_eq_false_iff.mp letter
    rw [Char.toUpper_eq_of_not_isLower (by simp [small]), Char.toLower_eq_of_not_isUpper (by simp [large])]
    exact ⟨kept, kept⟩

theorem isKept_of_mem_capitalizedWords {text : List Char} : ∀ c ∈ capitalizedWords text, isKept c = true := by
  intro c among
  obtain ⟨word, listed, among⟩ := List.mem_flatMap.mp among
  have kept := isKept_of_mem_words listed
  cases word with
  | nil => cases among
  | cons first rest =>
    rcases List.mem_cons.mp among with rfl | later
    · exact (isKept_of_case (kept first List.mem_cons_self)).1
    · obtain ⟨d, listed, rfl⟩ := List.mem_map.mp later
      exact (isKept_of_case (kept d (List.mem_cons_of_mem _ listed))).2

theorem isLower_head?_capitalizedWords {text : List Char} :
    ∀ c ∈ (capitalizedWords text).head?, c.isLower = false := by
  rw [capitalizedWords_eq]
  split
  · exact nofun
  · rintro c ⟨⟩
    exact Char.isLower_toUpper_eq_false _

/-! ## Parts of a path -/

/-- The parts behind the first slash of a path that are not empty. -/
def partsOf (path : List Char) : List (List Char) := (path.splitOn '/').tail.filter fun part => !part.isEmpty

theorem splitOn_append_slash (before after : List Char) :
    (before ++ '/' :: after).splitOn '/' = before.splitOn '/' ++ after.splitOn '/' :=
  List.splitOnP_append_cons before after (beq_self_eq_true '/')

theorem partsOf_append_slash (before after : List Char) : partsOf (before ++ '/' :: after) =
    partsOf before ++ (after.splitOn '/').filter fun part => !part.isEmpty := by
  have some : before.splitOn '/' ≠ [] := List.splitOnP_ne_nil _ _
  rw [partsOf, splitOn_append_slash, List.tail_append_of_ne_nil some, List.filter_append, partsOf]

/-- A part of a path as it is said: a parameter in braces, with `by` and a capital. -/
inductive Spoken : List Char → List Char → Prop where
  | parameter (first : Char) (rest : List Char) :
      Spoken ('\x7b' :: first :: (rest ++ ['\x7d'])) ('b' :: 'y' :: (Text.upperChar first ++ rest))
  | plain {part : List Char} : (∀ first rest, part ≠ '\x7b' :: first :: (rest ++ ['\x7d'])) → Spoken part part

theorem spoken_segmentWord (part : List Char) : Spoken part (segmentWord part) := by
  unfold segmentWord
  split
  case h_1 first rest =>
    split
    case isTrue braces =>
      obtain ⟨inner, rfl⟩ := List.getLast?_eq_some_iff.mp (beq_iff_eq.mp (Bool.and_eq_true_iff.mp braces).2)
      rw [List.dropLast_concat]
      exact .parameter first inner
    case isFalse noBraces =>
      refine .plain ?_
      rintro first inner ⟨⟩
      exact noBraces (by simp)
  case h_2 other => exact .plain fun first rest same => other first _ same

theorem partsOf_concat_slash (path : List Char) : partsOf (path ++ ['/']) = partsOf path := by
  rw [partsOf_append_slash]
  simp

theorem partsOf_slash_slash (before after : List Char) :
    partsOf (before ++ '/' :: '/' :: after) = partsOf (before ++ '/' :: after) := by
  have empty : ('/' :: after).splitOn '/' = [] :: after.splitOn '/' := splitOn_append_slash [] after
  rw [partsOf_append_slash, partsOf_append_slash, empty]
  rfl

theorem flatMap_parts (parts : List (List Char)) :
    (parts.filter fun part => !part.isEmpty).flatMap (fun part => capitalizedWords (segmentWord part)) =
      parts.flatMap fun part => capitalizedWords (segmentWord part) := by
  have nothing : capitalizedWords (segmentWord []) = [] := by
    rw [segmentWord, capitalizedWords, words]
    · rfl
    · exact nofun
  induction parts with
  | nil => rfl
  | cons part rest ih =>
    cases part with
    | nil => rw [List.filter_cons_of_neg (by simp), List.flatMap_cons, nothing, ih, List.nil_append]
    | cons c others => rw [List.filter_cons_of_pos (by simp), List.flatMap_cons, List.flatMap_cons, ih]

theorem capitalizedWords_path (path : List Char) :
    (match pathWords path with
      | [] => []
      | c :: rest => c.toUpper :: rest) = (partsOf path).flatMap fun part => capitalizedWords (segmentWord part) := by
  -- The words of a path are those of its parts: a slash at the end only leaves another empty part.
  have clean : partsOf (if path.getLast? = some '/' then path.dropLast else path) = partsOf path := by
    split
    next slash =>
      obtain ⟨shorter, rfl⟩ := List.getLast?_eq_some_iff.mp slash
      rw [List.dropLast_concat, partsOf_concat_slash]
    next => rfl
  -- The parts are joined by hyphens before they are taken apart into words, and no word goes across a hyphen.
  rw [← clean, partsOf, flatMap_parts, ← List.drop_one, ← splitAt_eq_splitOn, ← List.flatMap_map,
    ← capitalizedWords_intercalate (by decide : isKept '-' = false), capitalizedWords_eq]
  rfl

theorem pathMethodName_eq (verb path : String) : pathMethodName verb path =
    Text.lower verb ++
      String.ofList ((partsOf path.toList).flatMap fun part => capitalizedWords (segmentWord part)) := by
  rw [← capitalizedWords_path, pathMethodName]
  cases pathWords path.toList with
  | nil => exact String.append_empty.symm
  | cons => rfl

theorem pathMethodName_congr (verb : String) {path other : String}
    (same : partsOf path.toList = partsOf other.toList) :
    pathMethodName verb path = pathMethodName verb other := by
  rw [pathMethodName_eq, pathMethodName_eq, same]

theorem isLower_head?_flatMap {parts : List (List Char)} :
    ∀ c ∈ (parts.flatMap capitalizedWords).head?, c.isLower = false := by
  induction parts with
  | nil => exact nofun
  | cons part rest ih =>
    rw [List.flatMap_cons]
    cases found : capitalizedWords part with
    | nil => exact ih
    | cons d others =>
      have first := @isLower_head?_capitalizedWords part
      rw [found] at first
      exact first

/-! ## Names in code -/

theorem isIdentifierPart_of_isKept {c : Char} (kept : isKept c = true) : Text.isIdentifierPart c = true := by
  rcases Bool.or_eq_true_iff.mp kept with letter | digit
  · rcases Bool.or_eq_true_iff.mp letter with large | small
    · have among : (65, 90) ∈ Text.wordRanges := by simp [Text.wordRanges]
      obtain ⟨low, high⟩ := isUpper_iff.mp large
      exact Text.isIdentifierPart_of_mem among low high
    · have among : (97, 122) ∈ Text.wordRanges := by simp [Text.wordRanges]
      obtain ⟨low, high⟩ := isLower_iff.mp small
      exact Text.isIdentifierPart_of_mem among low high
  · exact Text.isIdentifierPart_of_isDecimalDigit digit

theorem isIdentifier_unique {name : String} (identifier : Text.isIdentifier name.toList = true) (used : List String) :
    Text.isIdentifier (unique name used).toList = true := by
  have suffixed : ∀ k, Text.isIdentifier (numbered name k).toList = true := by
    intro k
    rw [numbered, String.append_assoc, String.toList_append, String.toList_append]
    refine Text.isIdentifier_append identifier fun c among => ?_
    rcases List.mem_append.mp among with underscore | digit
    · rw [List.mem_singleton.mp underscore]
      exact Text.isIdentifierPart_underscore
    · rw [Nat.toString_eq_repr, Nat.toList_repr] at digit
      have := Nat.isDigit_of_mem_toDigits (by decide) (by decide) digit
      exact Text.isIdentifierPart_of_isDecimalDigit (Text.isDecimalDigit_of_isDigit this)
  rcases unique_chosen name used with ⟨_, same⟩ | ⟨_, k, _, same⟩
  · rwa [same]
  · rw [same]
    exact suffixed k

/-- The name made of a verb and a path is the verb in small letters, followed by the capitalised words of the parts of
the path, as they are said. What follows the verb is made of letters and digits and begins with no small letter. -/
theorem pathMethodName_spoken (verb path : String) :
    (∃ spoken, List.Forall₂ Spoken (partsOf path.toList) spoken ∧
      pathMethodName verb path = Text.lower verb ++ String.ofList (spoken.flatMap capitalizedWords) ∧
      (∀ c ∈ spoken.flatMap capitalizedWords, c.isAlpha = true ∨ Text.isDecimalDigit c = true) ∧
      ∀ c ∈ (spoken.flatMap capitalizedWords).head?, c.isLower = false) ∧
    pathMethodName verb (path ++ "/") = pathMethodName verb path ∧
    (∀ before after, pathMethodName verb (before ++ "//" ++ after) = pathMethodName verb (before ++ "/" ++ after)) ∧
    (Text.isIdentifier (Text.lower verb).toList = true →
      Text.isIdentifier (pathMethodName verb path).toList = true ∧
        ∀ used, Text.isIdentifier (unique (pathMethodName verb path) used).toList = true) := by
  refine ⟨⟨(partsOf path.toList).map segmentWord, ?_, ?_, ?_, isLower_head?_flatMap⟩, ?_, ?_, ?_⟩
  · exact List.forall₂_map_right_iff.mpr (List.forall₂_same.mpr fun part _ => spoken_segmentWord part)
  · rw [pathMethodName_eq, List.flatMap_map]
  · intro c among
    obtain ⟨part, _, among⟩ := List.mem_flatMap.mp among
    exact Bool.or_eq_true_iff.mp (isKept_of_mem_capitalizedWords c among)
  · refine pathMethodName_congr verb ?_
    rw [String.toList_append]
    exact partsOf_concat_slash path.toList
  · intro before after
    refine pathMethodName_congr verb ?_
    simp only [String.toList_append, List.append_assoc]
    exact partsOf_slash_slash before.toList after.toList
  · intro identifier
    -- Only characters that are kept follow the verb, and all of these continue an identifier.
    have whole : Text.isIdentifier (pathMethodName verb path).toList = true := by
      rw [pathMethodName_eq, String.toList_append, String.toList_ofList]
      refine Text.isIdentifier_append identifier fun c among => ?_
      obtain ⟨part, _, among⟩ := List.mem_flatMap.mp among
      exact isIdentifierPart_of_isKept (isKept_of_mem_capitalizedWords c among)
    exact ⟨whole, isIdentifier_unique whole⟩

theorem pathMethodName_spoken_get :
    pathMethodName "GET" "/users//\x7buserId\x7d/" = "getUsersByUserId" ∧
      Text.isIdentifier (Text.lower "GET").toList = true ∧
      Text.isIdentifier
        (unique (pathMethodName "GET" "/users//\x7buserId\x7d/") ["getUsersByUserId"]).toList = true := by
  obtain ⟨spelled, verb⟩ : pathMethodName "GET" "/users//\x7buserId\x7d/" = "getUsersByUserId" ∧
      Text.isIdentifier (Text.lower "GET").toList = true := by decide +kernel
  obtain ⟨_, _, _, identifiers⟩ := pathMethodName_spoken "GET" "/users//\x7buserId\x7d/"
  exact ⟨spelled, verb, (identifiers verb).2 _⟩

end ClientGen.Naming
