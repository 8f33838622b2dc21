import ClientGen.Proofs.Schema.Definitions

/-! The conversion as a recursion that keeps no account of the definitions it is within, on a stack that has
room for a number of activations. With enough room it ends as the conversion does, unless the conversion
notices a definition within itself: then no room is enough. -/

set_option autoImplicit false

namespace ClientGen.Dialect

open SchemaType

/-- The type of a schema on a stack with room for this many activations. To be without room is a failure as
circular. -/
def convertOn (dialect : Dialect) (definitions : Except Failure Value) :
    Nat → Value → Except Failure TypeExpr
  | 0, _ => .error .circular
  | room + 1, schema =>
    dialect.activation (dialect.convertOn definitions room)
      (fun reference => do dialect.convertOn definitions room (← find definitions reference).2) schema

/-- The first outcome ran out of room, or both are the same. -/
abbrev Approximates : Except Failure TypeExpr → Except Failure TypeExpr → Prop :=
  Outcome.Related (· = .circular) Eq

namespace Approximates

variable {x y z : Except Failure TypeExpr}

theorem refl (x : Except Failure TypeExpr) : Approximates x x := Outcome.Related.refl (fun _ => rfl) x

theorem eq (within : Approximates x y) (room : x ≠ .error .circular) : x = y := by
  cases within with
  | ok same => rw [same]
  | error => rfl
  | stopped _ stop => exact absurd (congrArg _ stop) room

theorem trans (first : Approximates x y) (second : Approximates y z) : Approximates x z := by
  by_cases room : x = .error .circular
  · rw [room]
    exact .stopped z rfl
  · rwa [first.eq room]

theorem circular (within : Approximates x (.error .circular)) : x = .error .circular := by
  by_contra room
  exact room (within.eq room)

end Approximates

variable (dialect : Dialect) {definitions : Except Failure Value}

theorem convertOn_succ (room : Nat) (schema : Value) :
    Approximates (dialect.convertOn definitions room schema)
      (dialect.convertOn definitions (room + 1) schema) := by
  induction room generalizing schema with
  | zero => exact .stopped _ rfl
  | succ room ih =>
    refine activation_related (.same _ dialect) (fun inner _ => ih inner) fun reference _ => ?_
    exact .bind_same fun found _ => ih found.2

theorem convertOn_mono {less more : Nat} (le : less ≤ more) (schema : Value) :
    Approximates (dialect.convertOn definitions less schema)
      (dialect.convertOn definitions more schema) := by
  induction le with
  | refl => exact .refl _
  | step _ ih => exact ih.trans (dialect.convertOn_succ _ schema)

theorem exists_least_room {room : Nat} {schema : Value}
    (finished : dialect.convertOn definitions room schema ≠ .error .circular) :
    ∃ least, least < room ∧ dialect.convertOn definitions least schema = .error .circular ∧
      dialect.convertOn definitions (least + 1) schema = dialect.convertOn definitions room schema := by
  induction room with
  | zero => exact absurd rfl finished
  | succ room ih =>
    by_cases before : dialect.convertOn definitions room schema = .error .circular
    · exact ⟨room, Nat.lt_succ_self room, before, rfl⟩
    · obtain ⟨least, less, none, same⟩ := ih before
      exact ⟨least, Nat.lt_succ_of_lt less, none,
        same.trans ((dialect.convertOn_succ room schema).eq before)⟩

theorem convert_approximates (available : List (Key × Value)) (remaining : Remaining definitions available)
    (schema : Value) (room : Nat) (enough : Value.entrySizes available + schema.size ≤ room) :
    Approximates (dialect.convert definitions available schema)
      (dialect.convertOn definitions room schema) := by
  revert room
  refine conversion_induction ?_ available remaining schema
  intro available schema remaining parts references room enough
  have := schema.size_pos
  obtain ⟨room, rfl⟩ : ∃ less, room = less + 1 := ⟨room - 1, by omega⟩
  rw [convert_eq_activation]
  refine activation_related (.same _ dialect) (fun inner part => ?_) fun reference refers => ?_
  · have := part.size_lt
    exact parts inner part room (by omega)
  rw [convertReferred_eq dialect remaining]
  refine .bind_same fun found sought => ?_
  obtain ⟨name, definition⟩ := found
  -- Where the conversion is circular it says nothing of the recursion, which goes on.
  cases left : (Key.text name).lookup available with
  | none => exact .stopped _ rfl
  | some other =>
    obtain rfl := remaining.eq_of_find sought left
    have := Value.entrySizes_of_lookup left
    exact references reference name other refers sought left room (by omega)

/-- If the definitions that are not left cannot be finished with some room, then with one activation more a
schema is converted as it is by the conversion, or not finished either. -/
theorem convertOn_approximates (room : Nat) (available : List (Key × Value))
    (remaining : Remaining definitions available)
    (unfinished : ∀ name definition, definitionAt definitions name = some definition →
      (Key.text name).lookup available = none →
      dialect.convertOn definitions room definition = .error .circular) (schema : Value) :
    Approximates (dialect.convertOn definitions (room + 1) schema)
      (dialect.convert definitions available schema) := by
  -- Induction on the room. A definition that is entered is taken with the least room that finishes it: with
  -- less it is one of those that cannot be finished, so it need not be left any more.
  induction room using Nat.strongRecOn generalizing available schema with
  | _ room ih =>
    -- Less room finishes nothing more, so the same definitions cannot be finished with any of it.
    have before {less : Nat} (le : less ≤ room) {name : String} {definition : Value}
        (defined : definitionAt definitions name = some definition)
        (left : (Key.text name).lookup available = none) :
        dialect.convertOn definitions less definition = .error .circular := by
      have mono : Approximates (dialect.convertOn definitions less definition)
          (dialect.convertOn definitions room definition) := dialect.convertOn_mono le definition
      rw [unfinished name definition defined left] at mono
      exact mono.circular
    rw [convert_eq_activation]
    refine activation_related (.same _ dialect) (fun inner part => ?_) fun reference refers => ?_
    · cases room with
      | zero => exact .stopped _ rfl
      | succ room => exact ih room (by omega) available remaining (fun _ _ => before (by omega)) inner
    rw [convertReferred_eq dialect remaining]
    refine .bind_same fun found sought => ?_
    obtain ⟨name, definition⟩ := found
    obtain ⟨_, _, _, defined⟩ := find_eq_ok.mp sought
    cases left : (Key.text name).lookup available with
    | none =>
      dsimp only
      rw [before (Nat.le_refl room) defined left]
      exact .error _
    | some other =>
      dsimp only
      rw [Option.isSome_some, if_pos rfl]
      by_cases finished : dialect.convertOn definitions room definition = .error .circular
      · rw [finished]
        exact .stopped _ rfl
      obtain ⟨least, less, none, same⟩ := dialect.exists_least_room finished
      rw [← same]
      refine ih least less _ (remaining.without name) ?_ definition
      intro later inner definedLater gone
      rw [Key.lookup_without_text] at gone
      by_cases again : later = name
      · subst again
        rw [defined, Option.some.injEq] at definedLater
        rw [← definedLater, none]
      · rw [if_neg again] at gone
        exact before (Nat.le_of_lt less) definedLater gone

variable (document schema : Value)

/-- What the recursion ends with is what the conversion ends with. -/
theorem convertOn_approximates_typeOf (room : Nat) :
    Approximates (dialect.convertOn (definitionsFor document) room schema) (dialect.typeOf document schema) := by
  refine (dialect.convertOn_succ room schema).trans (dialect.convertOn_approximates room _ (.all _) ?_ schema)
  intro name definition defined gone
  rw [lookup_entriesOf, defined] at gone
  cases gone

theorem typeOf_of_convertOn {document schema : Value} {room : Nat} {type : TypeExpr}
    (finished : dialect.convertOn (definitionsFor document) room schema = .ok type) :
    dialect.typeOf document schema = .ok type := by
  have ends := dialect.convertOn_approximates_typeOf document schema room
  rw [finished] at ends
  exact (ends.eq nofun).symm

theorem convertOn_eq_typeOf (ordinary : dialect.typeOf document schema ≠ .error .circular) :
    ∃ enough, ∀ room, enough ≤ room →
      dialect.convertOn (definitionsFor document) room schema = dialect.typeOf document schema :=
  ⟨_, fun room enough =>
    ((dialect.convert_approximates _ (.all _) schema room enough).eq ordinary).symm⟩

theorem typeOf_eq_circular_iff :
    dialect.typeOf document schema = .error .circular ↔
      ∀ room, dialect.convertOn (definitionsFor document) room schema = .error .circular := by
  constructor
  · intro circular room
    refine Approximates.circular ?_
    rw [← circular]
    exact dialect.convertOn_approximates_typeOf document schema room
  · intro none
    by_contra ordinary
    obtain ⟨enough, ends⟩ := dialect.convertOn_eq_typeOf document schema ordinary
    exact ordinary ((ends enough (Nat.le_refl _)).symm.trans (none enough))

end ClientGen.Dialect
