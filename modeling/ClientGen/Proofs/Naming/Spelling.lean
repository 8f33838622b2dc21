import ClientGen.Naming.Word
import Mathlib

/-! Words run together, letter by letter. Where a word begins can be told from the characters beside its first
letter; nothing else of a text is seen in the name that is made of it. -/

set_option autoImplicit false

namespace ClientGen.Naming

def isKept (c : Char) : Bool := c.isAlpha || Text.isDecimalDigit c

/-- Whether a letter begins a word: there is none before it, or it is a capital beside a small letter. -/
def beginsWord (before after : Option Char) (c : Char) : Bool :=
  c.isAlpha && (!before.any Char.isAlpha || c.isUpper && (before.any Char.isLower || after.any Char.isLower))

/-- What is kept of a text, as small letters, and which of them begin a word. -/
def markedAfter (before : Option Char) : List Char → List (Char × Bool)
  | [] => []
  | c :: rest =>
    if isKept c then (c.toLower, beginsWord before rest.head? c) :: markedAfter (some c) rest
    else markedAfter (some c) rest

def spelling (text : List Char) : List (Char × Bool) :=
  match markedAfter none text with
  | [] => []
  | (c, _) :: rest => (c, false) :: rest

theorem isUpper_iff {c : Char} : c.isUpper = true ↔ 65 ≤ c.toNat ∧ c.toNat ≤ 90 := by
  simp [Char.isUpper, UInt32.le_iff_toNat_le, ← Char.toNat_val]

theorem isLower_iff {c : Char} : c.isLower = true ↔ 97 ≤ c.toNat ∧ c.toNat ≤ 122 := by
  simp [Char.isLower, UInt32.le_iff_toNat_le, ← Char.toNat_val]

theorem isLower_of_isUpper {c : Char} (upper : c.isUpper = true) : c.isLower = false := by
  simpa using Char.not_isLower_of_isUpper upper

theorem isAlpha_of_isUpper {c : Char} (upper : c.isUpper = true) : c.isAlpha = true := by
  simp [Char.isAlpha, upper]

theorem isAlpha_of_isLower {c : Char} (lower : c.isLower = true) : c.isAlpha = true := by
  simp [Char.isAlpha, lower]

theorem isUpper_of_isAlpha {c : Char} (letter : c.isAlpha = true) (large : c.isLower = false) : c.isUpper = true := by
  simpa [Char.isAlpha, large] using letter

theorem isAlpha_of_isDecimalDigit {c : Char} (digit : Text.isDecimalDigit c = true) : c.isAlpha = false := by
  -- The digits of ASCII stand before its letters, and those of all other scripts behind them.
  have apart : ∀ range ∈ Text.digitRanges, range.2 < 65 ∨ 122 < range.1 := by decide
  obtain ⟨range, among, low, high⟩ := Text.Ranges.exists_of_covers digit
  have beside := apart range among
  rw [Char.isAlpha, Bool.or_eq_false_iff, ← Bool.not_eq_true, ← Bool.not_eq_true, isUpper_iff, isLower_iff]
  omega

/-! ## Where words begin -/

def IsBoundary (before : Option Char) (text : List Char) : Prop :=
  ∀ c ∈ text.head?, beginsWord before text.tail.head? c = c.isAlpha

/-- A word at the start of a text, as far as its letters and those beside it are concerned. -/
inductive IsFirstWord : List Char → List Char → Prop where
  | capitals {word rest : List Char} : (∀ c ∈ word, c.isUpper = true) → rest.head?.any Char.isLower = false →
      (∀ before, IsBoundary before rest) → IsFirstWord word rest
  | small {first : Char} {others rest : List Char} : first.isAlpha = true → (∀ c ∈ others, c.isLower = true) →
      (others.getLastD first).isLower = true → rest.head?.any Char.isLower = false →
      IsFirstWord (first :: others) rest
  | digits {word rest : List Char} : (∀ c ∈ word, Text.isDecimalDigit c = true) → IsFirstWord word rest

theorem IsBoundary.of_letterless {text : List Char} (letterless : text.head?.any Char.isAlpha = false)
    (before : Option Char) : IsBoundary before text := by
  intro c first
  rw [Option.mem_def.mp first, Option.any_some] at letterless
  simp [beginsWord, letterless]

theorem head?_dropWhile {p : Char → Bool} (text : List Char) : (text.dropWhile p).head?.any p = false := by
  have stops := List.head?_dropWhile_not p text
  cases found : (text.dropWhile p).head? with
  | none => rfl
  | some c =>
    rw [found] at stops
    simpa using stops

theorem mem_takeWhile {p : Char → Bool} {text : List Char} : ∀ c ∈ text.takeWhile p, p c = true :=
  fun _ among => List.mem_takeWhile_imp among

theorem IsFirstWord.of_capitals {text : List Char}
    (noSmall : ((text.dropWhile Char.isUpper).takeWhile Char.isLower).isEmpty = true) :
    IsFirstWord (text.takeWhile Char.isUpper) (text.dropWhile Char.isUpper) := by
  have noCapital := head?_dropWhile (p := Char.isUpper) text
  generalize text.dropWhile Char.isUpper = rest at noSmall noCapital
  have noLetter : rest.head?.any Char.isLower = false ∧ rest.head?.any Char.isAlpha = false := by
    cases rest with
    | nil => exact ⟨rfl, rfl⟩
    | cons c _ =>
      by_cases small : c.isLower = true
      · simp [small] at noSmall
      · simp_all [Char.isAlpha]
  exact .capitals mem_takeWhile noLetter.1 fun before => .of_letterless noLetter.2 before

theorem isLower_getLastD {first : Char} {others : List Char} (lower : ∀ c ∈ others, c.isLower = true)
    (ends : others = [] → first.isLower = true) : (others.getLastD first).isLower = true := by
  cases others with
  | nil => exact ends rfl
  | cons c rest =>
    rw [List.getLastD_cons]
    exact lower _ List.getLastD_mem_cons

theorem IsFirstWord.of_small {capitals small rest : List Char} (upper : ∀ c ∈ capitals, c.isUpper = true)
    (few : capitals.length < 2) (lower : ∀ c ∈ small, c.isLower = true) (some : small ≠ [])
    (next : rest.head?.any Char.isLower = false) : IsFirstWord (capitals ++ small) rest := by
  match capitals with
  | [] =>
    obtain ⟨c, others, rfl⟩ := List.exists_cons_of_ne_nil some
    have here := lower c List.mem_cons_self
    have later : ∀ c ∈ others, c.isLower = true := fun c among => lower c (List.mem_cons_of_mem _ among)
    exact .small (isAlpha_of_isLower here) later (isLower_getLastD later fun _ => here) next
  | [c] =>
    have here := upper c List.mem_cons_self
    exact .small (isAlpha_of_isUpper here) lower (isLower_getLastD lower fun none => absurd none some) next
  | _ :: _ :: _ =>
    simp only [List.length_cons] at few
    omega

theorem IsFirstWord.of_many {capitals tail : List Char} (upper : ∀ c ∈ capitals, c.isUpper = true)
    (some : capitals ≠ []) (small : tail.head?.any Char.isLower = true) :
    IsFirstWord ((capitals ++ tail).take (capitals.length - 1)) ((capitals ++ tail).drop (capitals.length - 1)) := by
  have large := upper _ (List.getLast_mem some)
  have word : (capitals ++ tail).take (capitals.length - 1) = capitals.dropLast := by
    rw [List.take_append_of_le_length (by omega), List.dropLast_eq_take]
  have rest : (capitals ++ tail).drop (capitals.length - 1) = capitals.getLast some :: tail := by
    rw [List.drop_append_of_le_length (by omega), List.drop_length_sub_one some, List.singleton_append]
  rw [word, rest]
  refine .capitals (fun c among => upper c (List.dropLast_subset _ among)) ?_ fun before => ?_
  · exact isLower_of_isUpper large
  · intro c first
    obtain rfl := Option.some.inj first
    simp [beginsWord, isAlpha_of_isUpper large, large, small]

theorem firstWord?_isFirstWord {text word rest : List Char} (found : firstWord? text = some (word, rest)) :
    IsFirstWord word rest := by
  unfold firstWord? at found
  dsimp only at found
  -- The same decisions as in the search: whether a small letter follows, and how many large ones come before it.
  split at found
  case isTrue noSmall =>
    split at found
    · split at found
      · cases found
      · cases found
        exact .digits mem_takeWhile
    · cases found
      exact .of_capitals noSmall
  case isFalse someSmall =>
    rw [List.isEmpty_iff] at someSmall
    split at found
    case isTrue few =>
      cases found
      exact .of_small mem_takeWhile few mem_takeWhile someSmall (head?_dropWhile _)
    case isFalse many =>
      have some : text.takeWhile Char.isUpper ≠ [] := by
        intro none
        simp [none] at many
      have small : (text.dropWhile Char.isUpper).head?.any Char.isLower = true := by
        generalize text.dropWhile Char.isUpper = tail at someSmall
        cases tail with
        | nil => exact absurd rfl someSmall
        | cons c _ =>
          by_contra large
          simp_all
      cases found
      have split := IsFirstWord.of_many mem_takeWhile some small
      rwa [List.takeWhile_append_dropWhile] at split

/-! ## Words and their letters -/

def markedWord : List Char → List (Char × Bool)
  | [] => []
  | c :: rest => (c.toLower, c.isAlpha) :: rest.map fun c => (c.toLower, false)

theorem markedAfter_run {p q : Char → Bool} {run rest : List Char} (kept : ∀ c, p c = true → isKept c = true)
    (alike : ∀ c, p c = true → q c = true)
    (within : ∀ before c after, q before = true → p c = true →
      (after = rest.head? ∨ after.any p = true) → beginsWord (some before) after c = false)
    {before : Char} (first : q before = true) (all : ∀ c ∈ run, p c = true) :
    markedAfter (some before) (run ++ rest) =
      run.map (fun c => (c.toLower, false)) ++ markedAfter (some (run.getLastD before)) rest := by
  induction run generalizing before with
  | nil => rfl
  | cons c others ih =>
    have here := all c List.mem_cons_self
    have later : ∀ c ∈ others, p c = true := fun c among => all c (List.mem_cons_of_mem _ among)
    have beside : (others ++ rest).head? = rest.head? ∨ (others ++ rest).head?.any p = true := by
      cases others with
      | nil => exact .inl rfl
      | cons next _ => exact .inr (later next List.mem_cons_self)
    rw [List.cons_append, markedAfter, if_pos (kept c here), within before c _ first here beside,
      ih (alike c here) later, List.getLastD_cons]
    rfl

theorem markedAfter_cons {before : Option Char} {c : Char} {rest : List Char}
    (boundary : IsBoundary before (c :: rest)) (kept : isKept c = true) :
    markedAfter before (c :: rest) = (c.toLower, c.isAlpha) :: markedAfter (some c) rest := by
  have begins : beginsWord before rest.head? c = c.isAlpha := boundary c rfl
  rw [markedAfter, if_pos kept, begins]

section
variable {c : Char} {others rest : List Char}

theorem IsFirstWord.boundary (isWord : IsFirstWord (c :: others) rest) :
    IsBoundary (some (others.getLastD c)) rest := by
  cases isWord with
  | capitals _ _ boundaries => exact boundaries _
  | small _ _ ends next =>
    intro d first
    cases letter : d.isAlpha with
    | false => simp [beginsWord, letter]
    | true =>
      rw [Option.mem_def.mp first, Option.any_some] at next
      simp [beginsWord, letter, isUpper_of_isAlpha letter next, ends, -List.getLastD_eq_getLast?]
  | digits digit =>
    have last := isAlpha_of_isDecimalDigit (digit _ List.getLastD_mem_cons)
    intro d first
    simp [beginsWord, last, -List.getLastD_eq_getLast?]

theorem IsFirstWord.isKept (isWord : IsFirstWord (c :: others) rest) : isKept c = true := by
  cases isWord with
  | capitals upper _ _ => simp [Naming.isKept, isAlpha_of_isUpper (upper c List.mem_cons_self)]
  | small letter _ _ _ => simp [Naming.isKept, letter]
  | digits digit => simp [Naming.isKept, digit c List.mem_cons_self]

theorem IsFirstWord.markedAfter (isWord : IsFirstWord (c :: others) rest) :
    markedAfter (some c) (others ++ rest) =
      others.map (fun c => (c.toLower, false)) ++ markedAfter (some (others.getLastD c)) rest := by
  -- Each of the three kinds of words is a run of which only the first character begins a word.
  cases isWord with
  | capitals upper next _ =>
    refine markedAfter_run (p := Char.isUpper) (q := Char.isUpper) ?_ (fun _ => id) ?_ (upper c List.mem_cons_self)
      fun c among => upper c (List.mem_cons_of_mem _ among)
    · exact fun c large => by simp [Naming.isKept, isAlpha_of_isUpper large]
    · intro before c after first large beside
      have notSmall : after.any Char.isLower = false := by
        rcases beside with rfl | larger
        · exact next
        · cases after with
          | none => rfl
          | some d => exact isLower_of_isUpper larger
      simp [beginsWord, isAlpha_of_isUpper first, isLower_of_isUpper first, notSmall]
  | small letter lower _ _ =>
    refine markedAfter_run (p := Char.isLower) (q := Char.isAlpha) ?_ (fun _ => isAlpha_of_isLower) ?_ letter lower
    · exact fun c small => by simp [Naming.isKept, isAlpha_of_isLower small]
    · intro before c after first small _
      have notLarge : c.isUpper = false := by
        by_contra large
        rw [Bool.not_eq_false] at large
        simp [isLower_of_isUpper large] at small
      simp [beginsWord, first, notLarge]
  | digits digit =>
    refine markedAfter_run (p := Text.isDecimalDigit) (q := Text.isDecimalDigit) ?_ (fun _ => id) ?_
      (digit c List.mem_cons_self) fun c among => digit c (List.mem_cons_of_mem _ among)
    · exact fun c digit => by simp [Naming.isKept, digit]
    · exact fun before c after _ digit _ => by simp [beginsWord, isAlpha_of_isDecimalDigit digit]

end

theorem isKept_of_firstWord? {c : Char} {rest : List Char} (none : firstWord? (c :: rest) = none) :
    isKept c = false := by
  unfold firstWord? at none
  dsimp only at none
  split at none
  case isTrue noSmall =>
    split at none
    case isTrue noCapital =>
      split at none
      case isTrue noDigit =>
        have large : c.isUpper = false := by simpa [List.takeWhile_cons] using noCapital
        have digit : Text.isDecimalDigit c = false := by simpa [List.takeWhile_cons] using noDigit
        have small : c.isLower = false := by simpa [List.takeWhile_cons, List.dropWhile_cons, large] using noSmall
        simp [isKept, Char.isAlpha, large, small, digit]
      case isFalse => cases none
    case isFalse => cases none
  case isFalse => split at none <;> cases none

theorem markedAfter_eq {before : Option Char} {text : List Char} (boundary : IsBoundary before text) :
    markedAfter before text = (words text).flatMap markedWord := by
  -- Along the search for words: one word after another is marked, or one character between words skipped.
  fun_induction words text generalizing before with
  | case1 text word rest found _ ih =>
    have isWord := firstWord?_isFirstWord found
    obtain ⟨c, others, rfl⟩ := List.exists_cons_of_ne_nil (firstWord?_ne_nil found)
    obtain rfl := firstWord?_append found
    rw [List.cons_append] at boundary
    rw [List.flatMap_cons, ← ih isWord.boundary, List.cons_append, markedAfter_cons boundary isWord.isKept,
      isWord.markedAfter]
    rfl
  | case2 => rfl
  | case3 c rest none ih =>
    have left := isKept_of_firstWord? none
    have letterless : c.isAlpha = false := (Bool.or_eq_false_iff.mp left).1
    have begins : IsBoundary (some c) rest := fun d _ => by simp [beginsWord, letterless]
    rw [markedAfter, if_neg (by simp [left]), ih begins]

/-! ## Names run together -/

def shownMark (mark : Char × Bool) : Char := if mark.2 then mark.1.toUpper else mark.1

theorem map_shownMark_small (text : List Char) :
    (text.map fun c => (c.toLower, false)).map shownMark = text.map Char.toLower := by
  simp [shownMark]

theorem map_shownMark_markedWord (word : List Char) : (markedWord word).map shownMark = capitalize word := by
  cases word with
  | nil => rfl
  | cons c rest =>
    have first : shownMark (c.toLower, c.isAlpha) = c.toUpper := by
      cases letter : c.isAlpha with
      | true => simp [shownMark]
      | false =>
        obtain ⟨large, small⟩ := Bool.or_eq_false_iff.mp letter
        rw [shownMark, if_neg (by simp), Char.toLower_eq_of_not_isUpper (by simp [large]),
          Char.toUpper_eq_of_not_isLower (by simp [small])]
    rw [markedWord, List.map_cons, map_shownMark_small, first, capitalize]

theorem words_ne_nil {text word : List Char} (among : word ∈ words text) : word ≠ [] := by
  fun_induction words text with
  | case1 text first rest found _ ih =>
    rcases List.mem_cons.mp among with rfl | later
    · exact firstWord?_ne_nil found
    · exact ih later
  | case2 => cases among
  | case3 c rest none ih => exact ih among

theorem markedAfter_words (text : List Char) : markedAfter none text = (words text).flatMap markedWord :=
  markedAfter_eq fun _ _ => by simp [beginsWord]

theorem camelCaseChars_eq (text : List Char) : camelCaseChars text = (spelling text).map shownMark := by
  unfold camelCaseChars spelling
  rw [markedAfter_words]
  cases found : words text with
  | nil => rfl
  | cons first more =>
    obtain ⟨c, rest, rfl⟩ := List.exists_cons_of_ne_nil (words_ne_nil (found ▸ List.mem_cons_self))
    have shown : capitalize = fun word => (markedWord word).map shownMark :=
      funext fun word => (map_shownMark_markedWord word).symm
    rw [shown, List.flatMap_cons, markedWord, List.cons_append, List.map_cons, List.map_append, map_shownMark_small,
      List.map_flatMap]
    rfl

theorem markedAfter_small (before : Option Char) (text : List Char) :
    ∀ mark ∈ markedAfter before text, mark.1.isUpper = false ∧ (mark.2 = true → mark.1.isLower = true) := by
  fun_induction markedAfter before text with
  | case1 => exact nofun
  | case2 before c rest kept ih =>
    intro mark among
    rcases List.mem_cons.mp among with rfl | later
    · refine ⟨Char.isUpper_toLower_eq_false c, fun begins => ?_⟩
      rw [Char.isLower_toLower_eq_isAlpha]
      exact (Bool.and_eq_true_iff.mp begins).1
    · exact ih mark later
  | case3 before c rest left ih => exact ih

theorem spelling_small {text : List Char} :
    ∀ mark ∈ spelling text, mark.1.isUpper = false ∧ (mark.2 = true → mark.1.isLower = true) := by
  have small := markedAfter_small none text
  unfold spelling
  split
  case h_1 => exact nofun
  case h_2 c begins rest found =>
    rw [found] at small
    intro mark among
    rcases List.mem_cons.mp among with rfl | later
    · exact ⟨(small _ List.mem_cons_self).1, nofun⟩
    · exact small mark (List.mem_cons_of_mem _ later)

theorem spelling_eq (text : List Char) :
    spelling text = (camelCaseChars text).map fun c => (c.toLower, c.isUpper) := by
  rw [camelCaseChars_eq, List.map_map]
  refine (List.map_id _).symm.trans (List.map_congr_left fun mark among => ?_)
  obtain ⟨c, begins⟩ := mark
  obtain ⟨notLarge, small⟩ := spelling_small _ among
  have same : c.toLower = c := Char.toLower_eq_of_not_isUpper (by simpa using notLarge)
  cases begins with
  | false => simp [shownMark, same, notLarge]
  | true => simp [shownMark, same, isAlpha_of_isLower (small rfl)]

/-- Two texts make the same name exactly if they are spelled alike. -/
theorem camelCaseChars_eq_iff {text other : List Char} :
    camelCaseChars text = camelCaseChars other ↔ spelling text = spelling other := by
  constructor
  · intro same
    rw [spelling_eq, spelling_eq, same]
  · intro same
    rw [camelCaseChars_eq, camelCaseChars_eq, same]

def lettersOf (text : List Char) : List Char := (text.filter isKept).map Char.toLower

theorem markedAfter_letters (before : Option Char) (text : List Char) :
    (markedAfter before text).map Prod.fst = lettersOf text := by
  fun_induction markedAfter before text with
  | case1 => rfl
  | case2 before c rest kept ih => rw [List.map_cons, ih, lettersOf, lettersOf, List.filter_cons_of_pos kept]; rfl
  | case3 before c rest left ih => rw [ih, lettersOf, lettersOf, List.filter_cons_of_neg left]

theorem spelling_letters (text : List Char) : (spelling text).map Prod.fst = lettersOf text := by
  rw [← markedAfter_letters none, spelling]
  split <;> simp [*]

theorem camelCaseChars_eq_nil_iff {text : List Char} : camelCaseChars text = [] ↔ ∀ c ∈ text, isKept c = false := by
  have none : camelCaseChars text = [] ↔ lettersOf text = [] := by
    rw [camelCaseChars_eq, ← spelling_letters, List.map_eq_nil_iff, List.map_eq_nil_iff]
  rw [none, lettersOf, List.map_eq_nil_iff, List.filter_eq_nil_iff]
  simp only [Bool.not_eq_true]

end ClientGen.Naming
