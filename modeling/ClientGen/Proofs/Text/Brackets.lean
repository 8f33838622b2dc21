import Mathlib.Data.List.Basic

/-! Brackets in a text that holds string literals. A reader goes through the text once and keeps the closing
brackets that are due; what stands in a literal is no bracket. Texts that close all they open can be put one
after another or between brackets, and what stands between brackets is out of sight outside them. -/

set_option autoImplicit false

namespace ClientGen.Brackets

inductive Mode where
  | plain
  | quoted
  | escaped
  deriving DecidableEq, Repr

/-- Where a reader is: the closing brackets that are due, the innermost first, and whether it is in a
literal. -/
structure Place where
  due : List Char
  mode : Mode
  deriving DecidableEq, Repr

/-- The kinds of brackets: what opens and what closes each. Angle brackets count in some languages only. -/
def kinds (angles : Bool) : List (Char × Char) :=
  [('(', ')'), ('[', ']'), ('\x7b', '\x7d')] ++ if angles then [('<', '>')] else []

/-- The place after one more character, unless it closes what is not open. -/
def step (angles : Bool) (place : Place) (c : Char) : Option Place :=
  match place.mode with
  | .escaped => some { place with mode := .quoted }
  | .quoted =>
    if c = '"' then some { place with mode := .plain }
    else if c = '\\' then some { place with mode := .escaped }
    else some place
  | .plain =>
    if c = '"' then some { place with mode := .quoted }
    else match (kinds angles).lookup c with
      | some close => some { place with due := close :: place.due }
      | none =>
        if (kinds angles).any (·.2 = c) then
          if place.due.head? = some c then some { place with due := place.due.tail } else none
        else some place

def read (angles : Bool) : Place → List Char → Option Place
  | place, [] => some place
  | place, c :: rest => (step angles place c).bind fun next => read angles next rest

def start : Place := ⟨[], .plain⟩

/-- Every bracket is closed by its own kind, in order, and every literal is ended. -/
def WellBracketed (angles : Bool) (text : List Char) : Prop := read angles start text = some start

instance (angles : Bool) (text : List Char) : Decidable (WellBracketed angles text) :=
  inferInstanceAs (Decidable (read angles start text = some start))

def Place.IsAt (place : Place) (depth : Nat) : Prop := place.mode = .plain ∧ place.due.length = depth

instance (place : Place) (depth : Nat) : Decidable (place.IsAt depth) :=
  inferInstanceAs (Decidable (place.mode = .plain ∧ place.due.length = depth))

/-- The characters of a text that are met outside literals within so many brackets. -/
def charsAt (angles : Bool) (depth : Nat) : Place → List Char → List Char
  | _, [] => []
  | place, c :: rest =>
    let more := match step angles place c with
      | some next => charsAt angles depth next rest
      | none => []
    if place.IsAt depth then c :: more else more

/-- The parts of a text between the separators that stand outside literals within so many brackets. A
separator is a mark and a blank. -/
def split (angles : Bool) (mark : Char) (depth : Nat) : Place → List Char → List (List Char)
  | _, [] => [[]]
  | place, c :: rest =>
    match rest, decide (place.IsAt depth ∧ c = mark) with
    | ' ' :: others, true => [] :: split angles mark depth place others
    | rest, _ =>
      match step angles place c with
      | none => [c :: rest]
      | some next => (split angles mark depth next rest).modifyHead (c :: ·)

section
variable {angles : Bool} {depth : Nat} {place next last : Place} {c : Char}
  {first second text : List Char}

theorem read_cons (here : step angles place c = some next) :
    read angles place (c :: text) = read angles next text := by
  rw [read, here, Option.bind_some]

theorem read_cons_eq_some :
    read angles place (c :: text) = some last ↔
      ∃ next, step angles place c = some next ∧ read angles next text = some last := by
  rw [read, Option.bind_eq_some_iff]

theorem read_append (reads : read angles place first = some next) :
    read angles place (first ++ second) = read angles next second := by
  induction first generalizing place with
  | nil => cases reads; rfl
  | cons c rest ih =>
    obtain ⟨between, here, others⟩ := read_cons_eq_some.mp reads
    rw [List.cons_append, read_cons here, ih others]

theorem charsAt_cons (here : step angles place c = some next) :
    charsAt angles depth place (c :: text) =
      (if place.IsAt depth then [c] else []) ++ charsAt angles depth next text := by
  rw [charsAt, here]
  by_cases met : place.IsAt depth <;> simp [met]

theorem charsAt_append (reads : read angles place first = some next) :
    charsAt angles depth place (first ++ second) =
      charsAt angles depth place first ++ charsAt angles depth next second := by
  induction first generalizing place with
  | nil => cases reads; rfl
  | cons c rest ih =>
    obtain ⟨between, here, others⟩ := read_cons_eq_some.mp reads
    rw [List.cons_append, charsAt_cons here, charsAt_cons here, ih others, List.append_assoc]

def Place.within (place : Place) (outer : List Char) : Place := { place with due := place.due ++ outer }

theorem Place.isAt_within (place : Place) (outer : List Char) :
    (place.within outer).IsAt (depth + outer.length) ↔ place.IsAt depth := by
  simp [IsAt, within]

theorem Place.not_isAt_within (place : Place) {outer : List Char} (few : depth < outer.length) :
    ¬ (place.within outer).IsAt depth := by
  rintro ⟨_, many⟩
  simp only [within, List.length_append] at many
  omega

theorem step_within (outer : List Char) (here : step angles place c = some next) :
    step angles (place.within outer) c = some (next.within outer) := by
  obtain ⟨due, mode⟩ := place
  unfold step at here
  cases mode with
  | escaped => cases here; rfl
  | quoted =>
    dsimp only at here
    split at here
    next ends => cases here; simp [step, Place.within, ends]
    next inside =>
      split at here <;> rename_i escapes <;> cases here <;> simp [step, Place.within, inside, escapes]
  | plain =>
    dsimp only at here
    split at here
    next begins => cases here; simp [step, Place.within, begins]
    next outside =>
      split at here
      next opens => cases here; simp [step, Place.within, outside, opens]
      next none =>
        split at here
        next closes =>
          obtain ⟨innermost, here⟩ := Option.ite_none_right_eq_some.mp here
          cases here
          obtain ⟨rest, rfl⟩ := List.head?_eq_some_iff.mp innermost
          simp [step, Place.within, outside, none, closes]
        next other => cases here; simp [step, Place.within, outside, none, other]

theorem read_within (outer : List Char) (reads : read angles place text = some next) :
    read angles (place.within outer) text = some (next.within outer) := by
  induction text generalizing place with
  | nil => cases reads; rfl
  | cons c rest ih =>
    obtain ⟨between, here, others⟩ := read_cons_eq_some.mp reads
    rw [read_cons (step_within outer here), ih others]

theorem charsAt_within (outer : List Char) (reads : read angles place text = some next) :
    charsAt angles (depth + outer.length) (place.within outer) text = charsAt angles depth place text := by
  induction text generalizing place with
  | nil => rfl
  | cons c rest ih =>
    obtain ⟨between, here, others⟩ := read_cons_eq_some.mp reads
    simp only [charsAt_cons (step_within outer here), charsAt_cons here, ih others, Place.isAt_within]

theorem charsAt_within_lt {outer : List Char} (reads : read angles place text = some next)
    (few : depth < outer.length) : charsAt angles depth (place.within outer) text = [] := by
  induction text generalizing place with
  | nil => rfl
  | cons c rest ih =>
    obtain ⟨between, here, others⟩ := read_cons_eq_some.mp reads
    rw [charsAt_cons (step_within outer here), ih others, if_neg (place.not_isAt_within few), List.append_nil]

end

/-- A text that closes all brackets and ends all literals, and has none of the marks outside of them. -/
structure FreeOf (angles : Bool) (marks text : List Char) : Prop where
  read : read angles start text = some start
  free : ∀ c ∈ charsAt angles 0 start text, c ∉ marks

namespace FreeOf

variable {angles : Bool} {marks more first second text : List Char}

theorem wellBracketed (free : FreeOf angles marks text) : WellBracketed angles text := free.read

theorem mono (free : FreeOf angles marks text) (less : more ⊆ marks) : FreeOf angles more text :=
  ⟨free.read, fun c met among => free.free c met (less among)⟩

theorem nil : FreeOf angles marks [] := ⟨rfl, fun _ met => absurd met List.not_mem_nil⟩

theorem append (left : FreeOf angles marks first) (right : FreeOf angles marks second) :
    FreeOf angles marks (first ++ second) where
  read := (read_append left.read).trans right.read
  free c met := by
    rw [charsAt_append left.read] at met
    exact (List.mem_append.mp met).elim (left.free c) (right.free c)

theorem intercalate {separator : List Char} {parts : List (List Char)}
    (between : FreeOf angles marks separator) (each : ∀ part ∈ parts, FreeOf angles marks part) :
    FreeOf angles marks (separator.intercalate parts) := by
  induction parts with
  | nil => exact nil
  | cons part rest ih =>
    have here := each part List.mem_cons_self
    have others := ih fun other among => each other (List.mem_cons_of_mem part among)
    cases rest with
    | nil => rwa [List.intercalate_singleton]
    | cons next rest =>
      rw [List.intercalate_cons_cons]
      exact (here.append between).append others

end FreeOf

def signs : List Char := ['"', '(', ')', '[', ']', '\x7b', '\x7d', '<', '>']

theorem step_of_notMem_signs {angles : Bool} {place : Place} {c : Char} (outside : place.mode = .plain)
    (other : c ∉ signs) : step angles place c = some place := by
  have known : ∀ kind ∈ kinds angles, kind.1 ∈ signs ∧ kind.2 ∈ signs := by cases angles <;> decide
  have opensNothing : (kinds angles).lookup c = none := by
    rw [List.lookup_eq_none_iff]
    intro kind among
    rw [bne_iff_ne]
    rintro rfl
    exact other (known kind among).1
  have closesNothing : ¬ (kinds angles).any (·.2 = c) = true := by
    rw [List.any_eq_true]
    rintro ⟨kind, among, same⟩
    obtain rfl := of_decide_eq_true same
    exact other (known kind among).2
  have noQuote : c ≠ '"' := by
    rintro rfl
    exact other List.mem_cons_self
  simp only [step, outside, if_neg noQuote, opensNothing, if_neg closesNothing]

theorem FreeOf.singleton {angles : Bool} {marks : List Char} {c : Char} (other : c ∉ signs)
    (unmarked : c ∉ marks) : FreeOf angles marks [c] := by
  have here : step angles start c = some start := step_of_notMem_signs rfl other
  constructor
  · rw [read_cons here]
    rfl
  · rw [charsAt_cons here]
    simpa [charsAt, Place.IsAt, start] using unmarked

def Ordinary (marks text : List Char) : Prop := ∀ c ∈ text, c ∉ signs ∧ c ∉ marks

instance (marks text : List Char) : Decidable (Ordinary marks text) := List.decidableBAll _ text

theorem FreeOf.of_ordinary {angles : Bool} {marks text : List Char} (ordinary : Ordinary marks text) :
    FreeOf angles marks text := by
  induction text with
  | nil => exact .nil
  | cons c rest ih =>
    obtain ⟨other, unmarked⟩ := ordinary c List.mem_cons_self
    exact (singleton other unmarked).append
      (ih fun next among => ordinary next (List.mem_cons_of_mem c among))

theorem step_kind {angles : Bool} : ∀ kind ∈ kinds angles,
    step angles start kind.1 = some (start.within [kind.2]) ∧
      step angles (start.within [kind.2]) kind.2 = some start := by
  cases angles <;> decide

theorem FreeOf.enclosed {angles : Bool} {marks text : List Char} {opening closing : Char}
    (kind : (opening, closing) ∈ kinds angles) (unmarked : opening ∉ marks)
    (inner : WellBracketed angles text) : FreeOf angles marks (opening :: text ++ [closing]) := by
  obtain ⟨opens, closes⟩ := step_kind _ kind
  have through := read_within [closing] inner
  constructor
  · rw [List.cons_append, read_cons opens, read_append through, read_cons closes]
    rfl
  · rw [List.cons_append, charsAt_cons opens, charsAt_append through, charsAt_within_lt inner (by simp),
      charsAt_cons closes]
    simpa [charsAt, Place.IsAt, start, Place.within] using unmarked

structure Inside (text : List Char) : Prop where
  read : ∀ angles, read angles ⟨[], .quoted⟩ text = some ⟨[], .quoted⟩
  unmet : ∀ angles, charsAt angles 0 ⟨[], .quoted⟩ text = []

namespace Inside

variable {first second : List Char}

theorem nil : Inside [] := ⟨fun _ => rfl, fun _ => rfl⟩

theorem append (left : Inside first) (right : Inside second) : Inside (first ++ second) where
  read angles := (read_append (left.read angles)).trans (right.read angles)
  unmet angles := by
    rw [charsAt_append (left.read angles), left.unmet, right.unmet]
    rfl

theorem plain {c : Char} (other : c ≠ '"') (noEscape : c ≠ '\\') : Inside [c] := by
  constructor <;> intro angles <;> simp [Brackets.read, charsAt, step, other, noEscape, Place.IsAt]

theorem escaped (c : Char) : Inside ['\\', c] := by
  constructor <;> intro angles <;> simp [Brackets.read, charsAt, step, Place.IsAt]

theorem flatMap {α : Type} {f : α → List Char} {xs : List α} (each : ∀ a ∈ xs, Inside (f a)) :
    Inside (xs.flatMap f) := by
  induction xs with
  | nil => exact nil
  | cons a rest ih =>
    rw [List.flatMap_cons]
    exact (each a List.mem_cons_self).append (ih fun b among => each b (List.mem_cons_of_mem a among))

theorem of_forall {text : List Char} (each : ∀ c ∈ text, c ≠ '"' ∧ c ≠ '\\') : Inside text := by
  rw [← List.flatMap_singleton' text]
  exact .flatMap fun c among => plain (each c among).1 (each c among).2

end Inside

theorem FreeOf.literal {angles : Bool} {marks text : List Char} (inside : Inside text)
    (unmarked : '"' ∉ marks) : FreeOf angles marks ('"' :: text ++ ['"']) := by
  have begins : step angles start '"' = some ⟨[], .quoted⟩ := rfl
  have ends : step angles ⟨[], .quoted⟩ '"' = some start := rfl
  constructor
  · rw [List.cons_append, read_cons begins, read_append (inside.read angles), read_cons ends]
    rfl
  · rw [List.cons_append, charsAt_cons begins, charsAt_append (inside.read angles), inside.unmet,
      charsAt_cons ends]
    simpa [charsAt, Place.IsAt, start] using unmarked

section
variable {angles : Bool} {mark : Char} {depth : Nat} {place next : Place} {c : Char}
  {part rest text : List Char}

theorem split_cons (here : step angles place c = some next) (other : ¬ (place.IsAt depth ∧ c = mark)) :
    split angles mark depth place (c :: text) =
      (split angles mark depth next text).modifyHead (c :: ·) := by
  rw [split]
  · rw [here]
  · rintro others rfl separates
    exact other (of_decide_eq_true separates)

theorem split_separator (here : place.IsAt depth) :
    split angles mark depth place (mark :: ' ' :: rest) = [] :: split angles mark depth place rest := by
  rw [split]
  simp [here]

theorem split_append (reads : read angles place part = some next)
    (free : mark ∉ charsAt angles depth place part) : split angles mark depth place (part ++ rest) =
      (split angles mark depth next rest).modifyHead (part ++ ·) := by
  induction part generalizing place with
  | nil =>
    cases reads
    exact (congrFun List.modifyHead_id _).symm
  | cons c others ih =>
    obtain ⟨between, here, reads⟩ := read_cons_eq_some.mp reads
    rw [charsAt_cons here, List.mem_append, not_or] at free
    rw [List.cons_append, split_cons here, ih reads free.2, List.modifyHead_modifyHead]
    · rfl
    · rintro ⟨met, rfl⟩
      simp [met] at free

theorem split_of_free (reads : read angles place part = some next)
    (free : mark ∉ charsAt angles depth place part) : split angles mark depth place part = [part] := by
  have alone : split angles mark depth place (part ++ []) =
    (split angles mark depth next []).modifyHead (part ++ ·) := split_append reads free
  rwa [List.append_nil, split, List.modifyHead_cons, List.append_nil] at alone

theorem split_intercalate {parts : List (List Char)} (nonempty : parts ≠ []) (here : place.IsAt depth)
    (each : ∀ part ∈ parts,
      read angles place part = some place ∧ mark ∉ charsAt angles depth place part) :
    split angles mark depth place ([mark, ' '].intercalate parts) = parts := by
  induction parts with
  | nil => exact absurd rfl nonempty
  | cons part others ih =>
    obtain ⟨reads, free⟩ := each part List.mem_cons_self
    cases others with
    | nil => rw [List.intercalate_singleton, split_of_free reads free]
    | cons next others =>
      rw [List.intercalate_cons_cons, List.append_assoc, split_append reads free]
      simp only [List.cons_append, List.nil_append]
      rw [split_separator here, ih (List.cons_ne_nil next others)
        fun other among => each other (List.mem_cons_of_mem part among)]
      simp

end

end ClientGen.Brackets
