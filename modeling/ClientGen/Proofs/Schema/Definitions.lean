import ClientGen.Proofs.Schema.Activation

/-! What is behind a reference: the definition of its name, which a conversion enters at most once along a
branch. A conversion is an induction over the schemas within a schema and the definitions that are left. -/

set_option autoImplicit false

namespace ClientGen

theorem Key.lookup_without_text {α : Type} {s t : String} {entries : List (Key × α)} :
    (Key.text s).lookup ((Key.text t).without entries) =
      if s = t then none else (Key.text s).lookup entries := by
  induction entries with
  | nil => simp [without, lookup]
  | cons entry rest ih =>
    obtain ⟨name, a⟩ := entry
    unfold without at ih ⊢
    rw [List.filter_cons]
    -- An entry that is kept may still be one of the other key only.
    by_cases removed : (Key.text t).same name = true
    · rw [removed, Bool.not_true, if_neg Bool.false_ne_true, ih]
      cases eq_text_of_same removed
      by_cases equal : s = t <;> simp [lookup, equal]
    · rw [Bool.not_eq_true] at removed
      rw [removed, Bool.not_false, if_pos rfl, lookup, ih, lookup]
      by_cases equal : s = t
      · subst equal
        simp [removed]
      · simp [equal]

namespace SchemaType

def definitionAt (definitions : Except Failure Value) (name : String) : Option Value :=
  definitions.toOption.bind (·.get? name)

theorem find_eq_ok {definitions : Except Failure Value} {reference definition : Value} {name : String} :
    find definitions reference = .ok (name, definition) ↔
      ∃ path, reference = .text path ∧ refName path = name ∧
        definitionAt definitions name = some definition := by
  unfold find
  rw [Outcome.bind_eq_ok]
  constructor
  · rintro ⟨known, rfl, found⟩
    -- Only a text can be looked for, and it must be known before it is read.
    cases reference with
    | text path =>
      obtain ⟨has, _, found⟩ := Outcome.bind_eq_ok.mp found
      cases has with
      | false => cases found
      | true =>
        refine ⟨path, rfl, ?_⟩
        cases defined : known.get? (refName path) with
        | none => simp [defined] at found
        | some other =>
          simp only [defined] at found
          cases found
          exact ⟨rfl, defined⟩
    | _ => cases found
  · rintro ⟨path, rfl, rfl, defined⟩
    cases definitions with
    | error => cases defined
    | ok known =>
      refine ⟨known, rfl, ?_⟩
      cases known with
      | object entries =>
        have found : (Key.text (refName path)).lookup entries = some definition := defined
        simp [Value.has, Value.get?, found]
      | _ => cases defined

theorem lookup_entriesOf (definitions : Except Failure Value) (name : String) :
    (Key.text name).lookup (entriesOf definitions) = definitionAt definitions name := by
  cases definitions with
  | error => rfl
  | ok known => cases known <;> rfl

def Remaining (definitions : Except Failure Value) (available : List (Key × Value)) : Prop :=
  ∀ name definition, (Key.text name).lookup available = some definition →
    definitionAt definitions name = some definition

namespace Remaining

variable {definitions : Except Failure Value} {available : List (Key × Value)}

theorem all (definitions : Except Failure Value) : Remaining definitions (entriesOf definitions) := by
  intro name definition left
  rwa [lookup_entriesOf] at left

theorem eq_of_find (remaining : Remaining definitions available) {reference definition other : Value}
    {name : String} (found : find definitions reference = .ok (name, definition))
    (left : (Key.text name).lookup available = some other) : other = definition := by
  obtain ⟨_, _, _, defined⟩ := find_eq_ok.mp found
  exact Option.some.inj ((remaining name other left).symm.trans defined)

theorem without (remaining : Remaining definitions available) (name : String) :
    Remaining definitions ((Key.text name).without available) := by
  intro other definition found
  rw [Key.lookup_without_text] at found
  split at found
  · cases found
  · exact remaining other definition found

end Remaining

end SchemaType

namespace Dialect

open SchemaType

variable {definitions : Except Failure Value} {available : List (Key × Value)}

theorem convertReferred_eq (dialect : Dialect) (remaining : Remaining definitions available)
    (reference : Value) :
    dialect.convertReferred definitions available reference = (do
      let found ← find definitions reference
      if ((Key.text found.1).lookup available).isSome then
        dialect.convert definitions ((Key.text found.1).without available) found.2
      else throw .circular) := by
  unfold convertReferred enter
  cases found : find definitions reference with
  | error failure => rfl
  | ok both =>
    obtain ⟨name, definition⟩ := both
    simp only [Outcome.ok_bind]
    split
    next other taken =>
      obtain ⟨same, left, rfl⟩ := Option.map_eq_some_iff.mp taken
      simp [left, remaining.eq_of_find found left]
    next taken =>
      simp [Option.map_eq_none_iff.mp taken]

end Dialect

namespace SchemaType

/-- To show something of a schema and the definitions that are left, it can be assumed of the schemas within
it, and of each definition that it refers to and that is left, once this is not left any more. -/
@[elab_as_elim]
theorem conversion_induction {definitions : Except Failure Value} {P : List (Key × Value) → Value → Prop}
    (step : ∀ available schema, Remaining definitions available →
      (∀ inner, Part schema inner → P available inner) →
      (∀ reference name definition, Refers schema reference →
        find definitions reference = .ok (name, definition) →
        (Key.text name).lookup available = some definition →
        P ((Key.text name).without available) definition) →
      P available schema)
    (available : List (Key × Value)) (remaining : Remaining definitions available) (schema : Value) :
    P available schema := by
  refine step available schema remaining (fun inner part => ?_) fun _ name definition _ _ left => ?_
  · have := part.size_lt
    exact conversion_induction step available remaining inner
  · have := Value.entrySizes_of_lookup left
    exact conversion_induction step _ (remaining.without name) definition
termination_by Value.entrySizes available + schema.size

end SchemaType

end ClientGen
