import ClientGen.Proofs.Naming.Path
import ClientGen.Proofs.Text.Case

/-! Where the words of a text end. What is kept of a text is cut into words, and whether a cut goes between two
characters can be told from what stands between them, from their classes and from the character behind them. -/

set_option autoImplicit false

namespace ClientGen.Naming

/-- Whether a word ends between two characters that stand side by side: between a letter and a digit, before a capital
behind a small letter, and before a capital that a small letter follows. -/
def isParted (a b : Char) (after : Option Char) : Bool :=
  (Text.isDecimalDigit a != Text.isDecimalDigit b) || a.isLower && b.isUpper ||
    a.isUpper && b.isUpper && after.any Char.isLower

/-- So many of the words make up these characters, so that a word ends behind them. -/
def EndBehind (parts : List (List Char)) (front : List Char) : Prop :=
  ∃ before after, parts = before ++ after ∧ before.flatten = front

structure AreWords (parts : List (List Char)) (text : List Char) : Prop where
  some : ∀ part ∈ parts, part ≠ []
  whole : parts.flatten = text.filter isKept
  /-- Of two characters that are kept, with none that is kept between them, the second begins a word exactly if
  something stands between them or they are parted. -/
  ends : ∀ (front : List Char) (a : Char) (gap : List Char) (b : Char) (rest : List Char),
    text = front ++ a :: (gap ++ b :: rest) → isKept a = true → isKept b = true → (∀ c ∈ gap, isKept c = false) →
    (EndBehind parts ((front ++ [a]).filter isKept) ↔ gap ≠ [] ∨ isParted a b rest.head? = true)

/-! ## Ends of words -/

section
variable {word front : List Char} {parts : List (List Char)}

theorem endBehind_cons_iff (some : front ≠ []) :
    EndBehind (word :: parts) front ↔ ∃ later, front = word ++ later ∧ EndBehind parts later := by
  constructor
  · rintro ⟨before, after, same, rfl⟩
    cases before with
    | nil => exact absurd rfl some
    | cons first others =>
      obtain ⟨rfl, rfl⟩ := List.cons.inj same
      exact ⟨others.flatten, rfl, others, after, rfl, rfl⟩
  · rintro ⟨_, rfl, before, after, rfl, rfl⟩
    exact ⟨word :: before, after, rfl, rfl⟩

theorem endBehind_append_iff {later : List Char} (some : word ++ later ≠ []) :
    EndBehind (word :: parts) (word ++ later) ↔ EndBehind parts later := by
  rw [endBehind_cons_iff some]
  constructor
  · rintro ⟨other, same, ends⟩
    rwa [List.append_cancel_left same]
  · exact fun ends => ⟨later, rfl, ends⟩

end

/-! ## The first word -/

/-- A first word, with what follows it: no word ends within it, and it ends where it does. -/
structure IsRun (word rest : List Char) : Prop where
  some : word ≠ []
  kept : ∀ c ∈ word, isKept c = true
  inner : ∀ front a b back, word = front ++ a :: b :: back → isParted a b (back ++ rest).head? = false
  border : ∀ front a b back, word = front ++ [a] → rest = b :: back → isKept b = true →
    isParted a b back.head? = true

theorem firstWord?_of_isDecimalDigit {c : Char} (digit : Text.isDecimalDigit c = true) (rest : List Char) :
    firstWord? (c :: rest) =
      some ((c :: rest).takeWhile Text.isDecimalDigit, (c :: rest).dropWhile Text.isDecimalDigit) := by
  obtain ⟨notLarge, notSmall⟩ := Bool.or_eq_false_iff.mp (isAlpha_of_isDecimalDigit digit)
  simp [firstWord?, notLarge, notSmall, digit]

theorem isDecimalDigit_of_isAlpha {c : Char} (letter : c.isAlpha = true) : Text.isDecimalDigit c = false := by
  rw [← Bool.not_eq_true]
  intro digit
  simp [isAlpha_of_isDecimalDigit digit] at letter

theorem isParted_of_isAlpha {a b : Char} (first : a.isAlpha = true) (second : b.isAlpha = true)
    (after : Option Char) :
    isParted a b after = (a.isLower && b.isUpper || a.isUpper && b.isUpper && after.any Char.isLower) := by
  simp [isParted, isDecimalDigit_of_isAlpha first, isDecimalDigit_of_isAlpha second]

theorem isParted_of_digit {a b : Char} (apart : Text.isDecimalDigit a ≠ Text.isDecimalDigit b)
    (after : Option Char) : isParted a b after = true := by
  simp [isParted, apart]

theorem isParted_of_isKept {a b : Char} (first : a.isAlpha = true) (kept : isKept b = true) {after : Option Char}
    (letters : b.isAlpha = true → isParted a b after = true) : isParted a b after = true := by
  rcases Bool.or_eq_true_iff.mp kept with letter | digit
  · exact letters letter
  · exact isParted_of_digit (by simp [digit, isDecimalDigit_of_isAlpha first]) after

section
variable {word rest : List Char}

theorem isRun_of_capitals (nonempty : word ≠ []) (upper : ∀ c ∈ word, c.isUpper = true)
    (next : rest.head?.any Char.isLower = false) (boundaries : ∀ before, IsBoundary before rest) :
    IsRun word rest where
  some := nonempty
  kept c among := by simp [isKept, isAlpha_of_isUpper (upper c among)]
  inner := by
    rintro front a b back rfl
    have first : a.isUpper = true := upper a (by simp)
    have second : b.isUpper = true := upper b (by simp)
    have noSmall : (back ++ rest).head?.any Char.isLower = false := by
      cases back with
      | nil => exact next
      | cons c _ => exact isLower_of_isUpper (upper c (by simp))
    rw [isParted_of_isAlpha (isAlpha_of_isUpper first) (isAlpha_of_isUpper second), isLower_of_isUpper first, noSmall]
    simp
  border := by
    rintro front a b back rfl rfl kept
    have last : a.isUpper = true := upper a (by simp)
    have noSmall : b.isLower = false := next
    refine isParted_of_isKept (isAlpha_of_isUpper last) kept fun letter => ?_
    -- No word that begins with a small letter is in sight, so this capital has a small letter behind it.
    have begins : beginsWord (some a) back.head? b = b.isAlpha := boundaries (some a) b rfl
    rw [isParted_of_isAlpha (isAlpha_of_isUpper last) letter, last, isUpper_of_isAlpha letter noSmall]
    simpa [beginsWord, letter, isAlpha_of_isUpper last, isLower_of_isUpper last,
      isUpper_of_isAlpha letter noSmall] using begins

theorem isRun_of_small {first : Char} {others : List Char} (letter : first.isAlpha = true)
    (lower : ∀ c ∈ others, c.isLower = true) (ends : (others.getLastD first).isLower = true)
    (next : rest.head?.any Char.isLower = false) : IsRun (first :: others) rest where
  some := List.cons_ne_nil _ _
  kept := List.forall_mem_cons.mpr
    ⟨by simp [isKept, letter], fun c among => by simp [isKept, isAlpha_of_isLower (lower c among)]⟩
  inner := by
    intro front a b back same
    have pair : a.isAlpha = true ∧ b.isLower = true := by
      cases front with
      | nil =>
        obtain ⟨rfl, rfl⟩ := List.cons.inj same
        exact ⟨letter, lower b (by simp)⟩
      | cons _ front =>
        obtain ⟨_, rfl⟩ := List.cons.inj same
        exact ⟨isAlpha_of_isLower (lower a (by simp)), lower b (by simp)⟩
    have notLarge : b.isUpper = false := by
      rw [← Bool.not_eq_true]
      intro large
      simp [isLower_of_isUpper large] at pair
    rw [isParted_of_isAlpha pair.1 (isAlpha_of_isLower pair.2), notLarge]
    simp
  border := by
    rintro front a b back same rfl kept
    -- The last character of the word is small, and what follows it is no small letter.
    have last : a = others.getLastD first := by
      rw [← List.getLastD_cons (a := a), same, List.getLastD_concat]
    have small : a.isLower = true := last ▸ ends
    have noSmall : b.isLower = false := next
    refine isParted_of_isKept (isAlpha_of_isLower small) kept fun letter => ?_
    rw [isParted_of_isAlpha (isAlpha_of_isLower small) letter, small, isUpper_of_isAlpha letter noSmall]
    simp

theorem isRun_of_digits {c : Char} {text : List Char} (digit : Text.isDecimalDigit c = true) :
    IsRun ((c :: text).takeWhile Text.isDecimalDigit) ((c :: text).dropWhile Text.isDecimalDigit) := by
  have digits : ∀ d ∈ (c :: text).takeWhile Text.isDecimalDigit, Text.isDecimalDigit d = true :=
    fun d => mem_takeWhile d
  refine ⟨by simp [digit], fun d among => by simp [isKept, digits d among], ?_, ?_⟩
  · intro front a b back same
    rw [same] at digits
    have first := digits a (by simp)
    have second := digits b (by simp)
    obtain ⟨notLarge, notSmall⟩ := Bool.or_eq_false_iff.mp (isAlpha_of_isDecimalDigit first)
    simp [isParted, first, second, notLarge, notSmall]
  · intro front a b back same behind kept
    rw [same] at digits
    have noDigit := head?_dropWhile (p := Text.isDecimalDigit) (c :: text)
    rw [behind] at noDigit
    have other : Text.isDecimalDigit b = false := noDigit
    exact isParted_of_digit (by simp [digits a (by simp), other]) _

theorem isRun_of_firstWord? {text : List Char} (found : firstWord? text = some (word, rest)) : IsRun word rest := by
  have nonempty := firstWord?_ne_nil found
  cases firstWord?_isFirstWord found with
  | capitals upper next boundaries => exact isRun_of_capitals nonempty upper next boundaries
  | small letter lower ends next => exact isRun_of_small letter lower ends next
  | digits digit =>
    obtain ⟨c, others, rfl⟩ := List.exists_cons_of_ne_nil nonempty
    obtain rfl := firstWord?_append found
    -- A text that begins with a digit has the run of its digits for its first word.
    have first := digit c List.mem_cons_self
    rw [List.cons_append, firstWord?_of_isDecimalDigit first, Option.some.injEq, Prod.mk.injEq] at found
    have run : IsRun ((c :: (others ++ rest)).takeWhile Text.isDecimalDigit)
      ((c :: (others ++ rest)).dropWhile Text.isDecimalDigit) := isRun_of_digits first
    rwa [found.1, found.2] at run

end

/-! ## Divisions -/

section
variable {word rest : List Char} {parts : List (List Char)}

theorem AreWords.of_empty : AreWords [] [] where
  some := nofun
  whole := rfl
  ends := by simp

theorem areWords_nil_iff : AreWords parts [] ↔ parts = [] := by
  constructor
  · intro words
    cases parts with
    | nil => rfl
    | cons part _ => exact absurd (List.append_eq_nil_iff.mp words.whole).1 (words.some part List.mem_cons_self)
  · rintro rfl
    exact .of_empty

theorem areWords_cons_iff {c : Char} (left : isKept c = false) : AreWords parts (c :: rest) ↔ AreWords parts rest := by
  -- A character that is not kept is in no word, and only a place behind it can end one.
  have same : (c :: rest).filter isKept = rest.filter isKept := List.filter_cons_of_neg (by simp [left])
  have behind (front : List Char) : (c :: front).filter isKept = front.filter isKept :=
    List.filter_cons_of_neg (by simp [left])
  constructor
  · intro words
    refine ⟨words.some, words.whole.trans same, ?_⟩
    rintro front a gap b back rfl first second between
    have ends := words.ends (c :: front) a gap b back rfl first second between
    rwa [List.cons_append, behind] at ends
  · intro words
    refine ⟨words.some, words.whole.trans same.symm, ?_⟩
    intro front a gap b back whole first second between
    cases front with
    | nil =>
      obtain ⟨rfl, _⟩ := List.cons.inj whole
      simp [left] at first
    | cons _ front =>
      obtain ⟨rfl, rfl⟩ := List.cons.inj whole
      rw [List.cons_append, behind]
      exact words.ends front a gap b back rfl first second between

theorem IsRun.filter_append (run : IsRun word rest) (text : List Char) :
    (word ++ text).filter isKept = word ++ text.filter isKept := by
  rw [List.filter_append, List.filter_eq_self.mpr run.kept]

theorem IsRun.filter_front (run : IsRun word rest) {front : List Char} {a : Char} {back : List Char}
    (same : word = front ++ a :: back) : (front ++ [a]).filter isKept = front ++ [a] := by
  refine List.filter_eq_self.mpr fun c among => run.kept c ?_
  rw [same, List.append_cons]
  exact List.mem_append_left _ among

theorem IsRun.ends (run : IsRun word rest) {front : List Char} {a : Char} {gap : List Char} {b : Char}
    {back : List Char} (word_eq : word = front ++ [a]) (rest_eq : rest = gap ++ b :: back) (kept : isKept b = true) :
    gap ≠ [] ∨ isParted a b back.head? = true := by
  by_cases between : gap = []
  · subst between
    exact .inr (run.border front a b back word_eq rest_eq kept)
  · exact .inl between

theorem AreWords.cons (run : IsRun word rest) (words : AreWords parts rest) :
    AreWords (word :: parts) (word ++ rest) where
  some := List.forall_mem_cons.mpr ⟨run.some, words.some⟩
  whole := by rw [List.flatten_cons, words.whole, run.filter_append]
  ends := by
    intro front a gap b back whole first second between
    have behindWord (inside : List Char) (same : rest = inside ++ a :: (gap ++ b :: back)) :
        EndBehind (word :: parts) ((word ++ inside ++ [a]).filter isKept) ↔
          gap ≠ [] ∨ isParted a b back.head? = true := by
      rw [List.append_assoc, run.filter_append, endBehind_append_iff (by simp [run.some])]
      exact words.ends inside a gap b back same first second between
    -- The first of the two characters is behind the word, at its end or within it.
    rcases List.append_eq_append_iff.mp whole with ⟨inside, rfl, behind⟩ | ⟨inside, same, behind⟩
    · exact behindWord inside behind
    match inside with
    | [] =>
      rw [List.append_nil] at same
      subst same
      simpa using behindWord [] behind.symm
    | [_] =>
      obtain ⟨rfl, follows⟩ := List.cons.inj behind
      have ended : EndBehind (word :: parts) ((front ++ [a]).filter isKept) := by
        rw [← same, List.filter_eq_self.mpr run.kept]
        exact ⟨[word], parts, rfl, List.flatten_singleton⟩
      exact iff_of_true ended (run.ends same follows.symm second)
    | _ :: d :: inside =>
      obtain ⟨rfl, follows⟩ := List.cons.inj behind
      have kept : isKept d = true := run.kept d (by simp [same])
      cases gap with
      | cons c gap =>
        obtain ⟨rfl, _⟩ := List.cons.inj follows
        simp [between c List.mem_cons_self] at kept
      | nil =>
        obtain ⟨rfl, rfl⟩ := List.cons.inj follows
        have unparted := run.inner front a b inside same
        refine iff_of_false ?_ (not_or.mpr ⟨fun some => some rfl, ne_true_of_eq_false unparted⟩)
        rw [run.filter_front same, endBehind_cons_iff (by simp)]
        rintro ⟨later, whole, _⟩
        have long := congrArg List.length whole
        simp only [same, List.length_append, List.length_cons, List.length_nil] at long
        omega

theorem AreWords.head_eq {part : List Char} (run : IsRun word rest) (words : AreWords (part :: parts) (word ++ rest)) :
    part = word := by
  -- No other word can be the first one: a shorter one would end where nothing is parted, and a longer one would go
  -- on where something is.
  have nonempty := words.some part List.mem_cons_self
  have whole := words.whole
  rw [run.filter_append, List.flatten_cons] at whole
  rcases List.append_eq_append_iff.mp whole with ⟨more, same, _⟩ | ⟨more, same, others⟩
  · cases more with
    | nil => rw [same, List.append_nil]
    | cons b back =>
      exfalso
      obtain ⟨front, a, rfl⟩ := List.eq_nil_or_concat' part |>.resolve_left nonempty
      rw [List.append_assoc, List.singleton_append] at same
      have first : isKept a = true := run.kept a (by simp [same])
      have second : isKept b = true := run.kept b (by simp [same])
      have ends := words.ends front a [] b (back ++ rest) (by simp [same]) first second nofun
      rw [run.filter_front same, run.inner front a b back same] at ends
      simpa using ends.mp ⟨[front ++ [a]], parts, rfl, List.flatten_singleton⟩
  · cases more with
    | nil => rw [same, List.append_nil]
    | cons b later =>
      exfalso
      rw [List.cons_append] at others
      obtain ⟨gap, back, rest_eq, between, kept, _⟩ := List.filter_eq_cons_iff.mp others
      obtain ⟨front, a, word_eq⟩ := List.eq_nil_or_concat' word |>.resolve_left run.some
      have first : isKept a = true := run.kept a (by simp [word_eq])
      have ends := (words.ends front a gap b back (by simp [word_eq, rest_eq]) first kept (by simpa using between)).mpr
        (run.ends word_eq rest_eq kept)
      rw [← word_eq, List.filter_eq_self.mpr run.kept, endBehind_cons_iff run.some] at ends
      obtain ⟨short, longer, _⟩ := ends
      have long := congrArg List.length longer
      simp only [same, List.length_append, List.length_cons] at long
      omega

theorem areWords_append_iff (run : IsRun word rest) :
    AreWords parts (word ++ rest) ↔ ∃ later, parts = word :: later ∧ AreWords later rest := by
  constructor
  · intro words
    -- The run has a character that is kept, which must be in some word.
    have nonempty : parts ≠ [] := by
      rintro rfl
      have whole := words.whole
      rw [run.filter_append] at whole
      exact run.some (List.append_eq_nil_iff.mp whole.symm).1
    obtain ⟨part, later, rfl⟩ := List.exists_cons_of_ne_nil nonempty
    obtain rfl := words.head_eq run
    refine ⟨later, rfl, fun other among => words.some other (List.mem_cons_of_mem _ among), ?_, ?_⟩
    · have whole := words.whole
      rw [run.filter_append, List.flatten_cons] at whole
      exact List.append_cancel_left whole
    · rintro front a gap b back rfl first second between
      have ends := words.ends (part ++ front) a gap b back (List.append_assoc _ _ _).symm first second between
      rwa [List.append_assoc, run.filter_append, endBehind_append_iff (by simp [run.some])] at ends
  · rintro ⟨later, rfl, words⟩
    exact words.cons run

end

/-- The words of a text are the only division that fits. -/
theorem areWords_iff {parts : List (List Char)} {text : List Char} : AreWords parts text ↔ parts = words text := by
  fun_induction words text generalizing parts with
  | case1 text word rest found _ ih =>
    obtain rfl := firstWord?_append found
    rw [areWords_append_iff (isRun_of_firstWord? found)]
    simp only [ih, exists_eq_right]
  | case2 => exact areWords_nil_iff
  | case3 c rest none ih => rw [areWords_cons_iff (isKept_of_firstWord? none), ih]

/-! ## Letters and digits of a name -/

theorem map_toLower_camelCaseChars (text : List Char) :
    (camelCaseChars text).map Char.toLower = lettersOf text := by
  rw [← spelling_letters, spelling_eq, List.map_map]
  rfl

theorem isKept_of_toLower {c : Char} (kept : isKept c.toLower = true) : isKept c = true := by
  by_cases large : c.isUpper = true
  · simp [isKept, isAlpha_of_isUpper large]
  · rwa [Char.toLower_eq_of_not_isUpper large] at kept

theorem isKept_of_mem_camelCaseChars {text : List Char} : ∀ c ∈ camelCaseChars text, isKept c = true := by
  intro c among
  have lettered : c.toLower ∈ lettersOf text := by
    rw [← map_toLower_camelCaseChars]
    exact List.mem_map_of_mem among
  obtain ⟨d, listed, same⟩ := List.mem_map.mp lettered
  have kept := (isKept_of_case (List.mem_filter.mp listed).2).2
  exact isKept_of_toLower (same ▸ kept)

theorem lower_of_isKept {text : List Char} (kept : ∀ c ∈ text, isKept c = true) :
    Text.lower (String.ofList text) = String.ofList (text.map Char.toLower) := by
  rw [Text.lower, String.toList_ofList]
  refine congrArg String.ofList (Text.lowerFrom_of_forall fun c among => ⟨?_, ?_⟩)
  · rintro rfl
    exact absurd (kept _ among) (by decide +kernel)
  · rcases Bool.or_eq_true_iff.mp (kept c among) with letter | digit
    · have narrow : c.toNat < 128 := by
        rcases Bool.or_eq_true_iff.mp letter with large | small
        · have := isUpper_iff.mp large
          omega
        · have := isLower_iff.mp small
          omega
      exact if_pos narrow
    · exact Text.lowerChar_of_isDecimalDigit digit

/-- The words of a text are the one division of its letters and digits into words that end where something else stands
in between, between a letter and a digit, before a capital behind a small letter, and before a capital that a small
letter follows. Run together, they lose no letter or digit and gain none. -/
theorem words_parted (text : String) :
    (∀ parts, AreWords parts text.toList ↔ parts = words text.toList) ∧
      Text.lower (camelCase text) = Text.lower (String.ofList (text.toList.filter isKept)) := by
  refine ⟨fun parts => areWords_iff, ?_⟩
  rw [camelCase, lower_of_isKept isKept_of_mem_camelCaseChars, map_toLower_camelCaseChars,
    lower_of_isKept fun c among => (List.mem_filter.mp among).2]
  rfl

example : words "pet-XMLParser2Go".toList =
    ["pet".toList, "XML".toList, "Parser".toList, "2".toList, "Go".toList] := by
  decide +kernel

end ClientGen.Naming
