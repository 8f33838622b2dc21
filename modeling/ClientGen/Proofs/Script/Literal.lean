import ClientGen.Outcome
import ClientGen.Script.Token
import Mathlib.Data.List.Basic
import Mathlib.Data.String.Basic

/-! String literals of a script and what they denote. A text between quotes denotes itself exactly if it holds no quote,
no backslash and no line end: an escape is always longer than what it stands for. -/

set_option autoImplicit false

namespace ClientGen.Script

namespace Scan

variable {α β : Type}

def Advances (part : Scan α) : Prop := ∀ s a after, part.run s = .ok (a, after) → after.rest <:+ s.rest

namespace Advances

theorem pure (a : α) : Advances (pure a : Scan α) := by
  rintro s _ _ ⟨⟩
  exact List.suffix_rfl

theorem refuse (cause : Cause) : Advances (refuse cause : Scan α) := by
  rintro s _ _ ⟨⟩

theorem refuse_bind (cause : Cause) (next : α → Scan β) : Advances (Scan.refuse cause >>= next) := by
  rintro s _ _ ⟨⟩

theorem tolerate (cause : Cause) : Advances (tolerate cause) := by
  rintro s _ _ ⟨⟩
  exact List.suffix_rfl

theorem get : Advances (get : Scan Scanner) := by
  rintro s _ _ ⟨⟩
  exact List.suffix_rfl

theorem skip (count : Nat) : Advances (skip count) := by
  rintro s _ _ ⟨⟩
  exact List.drop_suffix count s.rest

theorem bind {part : Scan α} {next : α → Scan β} (first : Advances part) (later : ∀ a, Advances (next a)) :
    Advances (part >>= next) := by
  intro s b after done
  rw [StateT.run_bind] at done
  cases here : part.run s with
  | error problem =>
    rw [here] at done
    cases done
  | ok result =>
    obtain ⟨a, between⟩ := result
    rw [here] at done
    exact (later a between b after done).trans (first s a between here)

theorem peek : Advances peek := get.bind fun _ => .pure _

theorem atEnd : Advances atEnd := get.bind fun _ => .pure _

theorem takeWhile (inside : Char → Bool) : Advances (takeWhile inside) :=
  get.bind fun _ => (skip _).bind fun _ => .pure _

theorem hexDigits (count : Nat) : Advances (hexDigits count) :=
  get.bind fun _ => (skip _).bind fun _ => .pure _

theorem braced : Advances braced := by
  have checked (c : Char) (isWrong : Bool) :
      Advances (if isWrong then do Scan.refuse .illegal; return c else return c) := by
    split
    · exact refuse_bind _ _
    · exact .pure _
  refine peek.bind fun c => ?_
  split
  · exact refuse_bind _ _
  · refine (takeWhile _).bind fun digits => peek.bind fun c => atEnd.bind fun ended => ?_
    split
    · exact checked _ _
    · exact (skip 1).bind fun _ => checked _ _

theorem shortHex : Advances shortHex := by
  refine (hexDigits 2).bind fun digits => ?_
  cases digits with
  | none => exact refuse _
  | some c => exact .pure c

theorem octalEscape (first : Char) : Advances (octalEscape first) :=
  get.bind fun _ => (skip _).bind fun _ => .pure _

theorem charEscape (c : Char) : Advances (charEscape c) := by
  unfold Scan.charEscape
  split
  · refine peek.bind fun d => ?_
    split
    · exact (skip 1).bind fun _ => braced.bind fun _ => .pure _
    · refine (hexDigits 4).bind fun digits => ?_
      cases digits with
      | none => exact refuse _
      | some c => exact .pure _
  · split
    · exact shortHex.bind fun _ => .pure _
    · split
      · exact (tolerate _).bind fun _ => .pure _
      · split
        · exact octalEscape c
        · exact .pure _

end Advances

variable {s after : Scanner} {quote c : Char} {bound : Nat} {rest content : List Char} {octal : Bool}

@[simp] theorem skip_rest (s : Scanner) (count : Nat) : (s.skip count).rest = s.rest.drop count := rfl

theorem skipBreak_suffix (s : Scanner) : s.skipBreak.rest <:+ s.rest.tail := by
  change s.rest.drop (if s.startsWith "\r\n" then 2 else 1) <:+ s.rest.tail
  cases s.rest with
  | nil => simp
  | cons c rest =>
    split
    · exact List.drop_suffix 1 rest
    · exact List.suffix_rfl

theorem stringEscape_run (s : Scanner) :
    stringEscape.run s =
      if isLineEnd (s.ahead 0) then .ok (([], false), s.skipBreak)
      else (charEscape (s.ahead 0)).run (s.skip 1) >>= fun ((made, octal), s) => .ok (([made], octal), s) := by
  rw [stringEscape]
  by_cases ends : isLineEnd (s.ahead 0) = true
  · simp [ends]
  · simp [ends, skip, -bind_pure_comp]

theorem stringEscape_cases {made : List Char} (done : stringEscape.run s = .ok ((made, octal), after)) :
    made.length ≤ 1 ∧ after.rest <:+ s.rest.tail := by
  rw [stringEscape_run] at done
  split at done
  next =>
    cases done
    exact ⟨Nat.zero_le 1, skipBreak_suffix s⟩
  next =>
    obtain ⟨⟨⟨c, isOctal⟩, between⟩, escaped, same⟩ := Outcome.bind_eq_ok.mp done
    cases same
    have taken := Advances.charEscape _ _ _ _ escaped
    rw [skip_rest, List.drop_one] at taken
    exact ⟨Nat.le_refl 1, taken⟩

theorem stringRest_nil (ended : s.rest = []) : (stringRest quote bound).run s = .ok (none, s) := by
  cases bound with
  | zero => rfl
  | succ bound => simp [stringRest, atEnd, ended]

theorem stringRest_cons (here : s.rest = c :: rest) :
    (stringRest quote (bound + 1)).run s =
      if c = quote then .ok (some ([], false), s.skip 1)
      else if c = '\\' then
        stringEscape.run (s.skip 1) >>= fun ((made, octal), s) => (stringRest quote bound).run s >>= fun (more, s) =>
          .ok (more.map fun (rest, later) => (made ++ rest, octal || later), s)
      else if isLineEnd c then .ok (none, s.skip 1)
      else (stringRest quote bound).run (s.skip 1) >>= fun (more, s) =>
        .ok (more.map fun (rest, octal) => (c :: rest, octal), s) := by
  have first : s.ahead 0 = c := by simp [Scanner.ahead, here]
  rw [stringRest, atEnd, peek, skip]
  by_cases closes : c = quote
  · simp [here, first, closes]
  · by_cases escape : c = '\\'
    · subst escape
      simp [here, first, closes, -bind_pure_comp]
    · by_cases ends : isLineEnd c = true
      · simp [here, first, closes, escape, ends]
      · simp [here, first, closes, escape, ends, -bind_pure_comp]

def IsPlain (quote c : Char) : Prop := c ≠ quote ∧ c ≠ '\\' ∧ isLineEnd c = false

instance (quote c : Char) : Decidable (IsPlain quote c) := inferInstanceAs (Decidable (_ ∧ _ ∧ _))

def AllPlain (quote : Char) (text : List Char) : Prop := ∀ c ∈ text, IsPlain quote c

instance (quote : Char) (text : List Char) : Decidable (AllPlain quote text) := List.decidableBAll _ _

theorem stringRest_plain (plain : AllPlain quote content) (whole : s.rest = content ++ quote :: rest)
    (room : content.length < bound) :
    ∃ after, (stringRest quote bound).run s = .ok (some (content, false), after) ∧ after.rest = rest := by
  induction content generalizing s bound with
  | nil =>
    obtain ⟨bound, rfl⟩ := Nat.exists_eq_add_one.mpr (by omega : 0 < bound)
    exact ⟨s.skip 1, by rw [stringRest_cons whole, if_pos rfl], by rw [skip_rest, whole]; rfl⟩
  | cons c content ih =>
    obtain ⟨⟨other, noEscape, inLine⟩, later⟩ := List.forall_mem_cons.mp plain
    rw [List.length_cons] at room
    obtain ⟨bound, rfl⟩ := Nat.exists_eq_add_one.mpr (by omega : 0 < bound)
    obtain ⟨after, read, left⟩ := @ih (s.skip 1) bound later (by rw [skip_rest, whole]; rfl) (by omega)
    refine ⟨after, ?_, left⟩
    rw [stringRest_cons whole, if_neg other, if_neg noEscape, inLine, if_neg Bool.false_ne_true, read]
    rfl

theorem stringRest_cases (read : (stringRest quote bound).run s = .ok (some (content, octal), after)) :
    (s.rest = content ++ quote :: after.rest ∧ AllPlain quote content) ∨
      content.length + 1 + after.rest.length < s.rest.length := by
  induction bound generalizing s content octal with
  | zero => cases read
  | succ bound ih =>
    cases here : s.rest with
    | nil =>
      rw [stringRest_nil here] at read
      cases read
    | cons c rest =>
      rw [stringRest_cons here] at read
      split at read
      next closes =>
        cases read
        exact .inl ⟨by simp [here, closes], nofun⟩
      next other =>
        split at read
        next =>
          obtain ⟨⟨⟨made, _⟩, between⟩, escaped, read⟩ := Outcome.bind_eq_ok.mp read
          obtain ⟨⟨more, last⟩, read, same⟩ := Outcome.bind_eq_ok.mp read
          obtain _ | ⟨others, _⟩ := more
          · cases same
          cases same
          obtain ⟨few, taken⟩ := stringEscape_cases escaped
          have left := taken.length_le
          rw [skip_rest, here, List.drop_one, List.tail_cons, List.length_tail] at left
          have read := ih read
          right
          rw [List.length_append, List.length_cons]
          -- An escape takes more characters than it gives, so the text behind it is shorter than what was read.
          rcases read with ⟨whole, _⟩ | less
          · have size := congrArg List.length whole
            rw [List.length_append, List.length_cons] at size
            omega
          · omega
        next noEscape =>
          split at read
          next => cases read
          next inLine =>
            obtain ⟨⟨more, last⟩, read, same⟩ := Outcome.bind_eq_ok.mp read
            obtain _ | ⟨others, _⟩ := more
            · cases same
            cases same
            rcases ih read with ⟨whole, plain⟩ | less
            · rw [skip_rest, here, List.drop_one, List.tail_cons] at whole
              have stands : IsPlain quote c := ⟨other, noEscape, by simpa using inLine⟩
              exact .inl ⟨by rw [whole, List.cons_append], List.forall_mem_cons.mpr ⟨stands, plain⟩⟩
            · right
              rw [skip_rest, here, List.drop_one, List.tail_cons] at less
              rw [List.length_cons, List.length_cons]
              omega

theorem string_eq_ok {text : String} (here : s.rest = quote :: rest) :
    string.run s = .ok ((text, octal), after) ↔
      (stringRest quote s.rest.length).run (s.skip 1) = .ok (some (text.toList, octal), after) := by
  have opened : s.ahead 0 = quote := by simp [Scanner.ahead, here]
  rw [string]
  simp only [StateT.run_bind, StateT.run_get, Outcome.pure_eq, Outcome.ok_bind, opened, skip, StateT.run_modify]
  cases (stringRest quote s.rest.length).run (s.skip 1) with
  | error problem => exact iff_of_false nofun nofun
  | ok result =>
    obtain ⟨_ | ⟨content, last⟩, between⟩ := result
    · exact iff_of_false nofun nofun
    · simp [String.ofList_eq]

/-- A text between quotes is read as itself exactly if each of its characters stands for itself. -/
theorem string_quoted_iff {text : String} (whole : s.rest = quote :: (text.toList ++ [quote])) :
    (∃ after, string.run s = .ok ((text, false), after) ∧ after.rest = []) ↔ AllPlain quote text.toList := by
  have size : s.rest.length = text.toList.length + 2 := by simp [whole]
  have inside : (s.skip 1).rest = text.toList ++ [quote] := by rw [skip_rest, whole, List.drop_one, List.tail_cons]
  simp only [string_eq_ok whole]
  constructor
  · rintro ⟨after, read, ended⟩
    rcases stringRest_cases read with ⟨-, plain⟩ | less
    · exact plain
    · rw [inside, ended] at less
      simp at less
  · intro plain
    exact stringRest_plain plain inside (by omega)

end Scan

/-- The text is one string literal between single quotes, as scripts are read and also where they are strict, and this
is the text that it denotes. -/
def IsLiteralOf (source content : String) : Prop :=
  source.toList.head? = some '\'' ∧
    ∃ after, Scan.string.run (Scanner.start source.toList) = .ok ((content, false), after) ∧ after.rest = []

theorem isLiteralOf_quoted_iff {text : String} :
    IsLiteralOf ("'" ++ text ++ "'") text ↔ Scan.AllPlain '\'' text.toList := by
  have chars : ("'" ++ text ++ "'").toList = '\'' :: (text.toList ++ ['\'']) := by simp
  rw [IsLiteralOf, chars]
  exact (and_iff_right rfl).trans (Scan.string_quoted_iff rfl)

end ClientGen.Script
