import ClientGen.Proofs.Schema.Links
import ClientGen.Proofs.Schema.Stack

/-! Which definitions a conversion depends on: those that its schema reaches along links. Conversions with other
definitions that agree with them there end in the same way, and definitions that are added later change nothing
of a conversion that succeeds. -/

set_option autoImplicit false

namespace ClientGen

open Outcome (Related)

namespace SchemaType

/-- A name is defined on both sides or on neither, and stands for the same schema. -/
structure SameAt (first second : Except Failure Value) (name : String) : Prop where
  presence : (do (← first).has name) = (do (← second).has name)
  definition : definitionAt first name = definitionAt second name

def Extends (first second : Except Failure Value) : Prop :=
  ∀ name definition, definitionAt first name = some definition → definitionAt second name = some definition

theorem find_text (definitions : Except Failure Value) (path : String) :
    find definitions (.text path) = (do
      if !(← (do (← definitions).has (refName path))) then throw (.unresolved path)
      match definitionAt definitions (refName path) with
      | some definition => return (refName path, definition)
      | none => throw .wrongKind) := by
  cases definitions <;> rfl

theorem definitionsFor_eq_error {document : Value} {failure : Failure}
    (failed : definitionsFor document = .error failure) : failure = .noOperation := by
  unfold definitionsFor definitionsOf at failed
  rcases Outcome.bind_eq_error.mp failed with none | ⟨_, _, impossible⟩
  · generalize document.orElse (.object []) = known at none
    cases known with
    | object entries => cases none
    | _ => cases none; rfl
  · cases impossible

theorem find_not_text (document : Value) {reference : Value} (other : ∀ path, reference ≠ .text path) :
    find (definitionsFor document) reference = .error .noOperation := by
  unfold find
  cases known : definitionsFor document with
  | error failure =>
    rw [definitionsFor_eq_error known]
    rfl
  | ok definitions =>
    cases reference with
    | text path => exact absurd rfl (other path)
    | _ => rfl

theorem find_congr {first second reference : Value}
    (agree : ∀ path, reference = .text path →
      SameAt (definitionsFor first) (definitionsFor second) (refName path)) :
    find (definitionsFor first) reference = find (definitionsFor second) reference := by
  by_cases text : ∃ path, reference = .text path
  · obtain ⟨path, rfl⟩ := text
    have same := agree path rfl
    rw [find_text, find_text, same.presence, same.definition]
  · rw [not_exists] at text
    rw [find_not_text first text, find_not_text second text]

end SchemaType

namespace Dialect

open SchemaType

variable (dialect : Dialect) {first second : Value}

theorem convertOn_local (room : Nat) (schema : Value)
    (agree : ∀ name, Reaches (definitionsFor first) schema name →
      SameAt (definitionsFor first) (definitionsFor second) name) :
    Related (fun _ => False) Eq (dialect.convertOn (definitionsFor first) room schema)
      (dialect.convertOn (definitionsFor second) room schema) := by
  -- On the room, for every schema: what is entered is converted with less of it.
  induction room generalizing schema with
  | zero => exact .error _
  | succ room ih =>
    refine activation_related (.same _ dialect) (fun inner part => ?_) fun reference refers => ?_
    · exact ih inner fun name reaches => agree name (reaches.of_part part)
    have same : find (definitionsFor first) reference = find (definitionsFor second) reference := by
      apply find_congr
      rintro path rfl
      exact agree _ (.of_refers refers)
    rw [← same]
    refine .bind_same fun found sought => ?_
    obtain ⟨path, rfl, named, defined⟩ := find_eq_ok.mp sought
    apply ih
    intro name reaches
    rw [← named] at defined
    exact agree name (Reaches.extend (.of_refers refers) (reaches.links defined))

theorem convertOn_extends (room : Nat) (schema : Value)
    (more : Extends (definitionsFor first) (definitionsFor second)) :
    Related (fun _ => True) Eq (dialect.convertOn (definitionsFor first) room schema)
      (dialect.convertOn (definitionsFor second) room schema) := by
  induction room generalizing schema with
  | zero => exact .error _
  | succ room ih =>
    refine activation_related (.same _ dialect) (fun inner _ => ih inner) fun reference _ => ?_
    cases sought : find (definitionsFor first) reference with
    | error failure => exact .stopped _ trivial
    | ok found =>
      obtain ⟨path, same, named, defined⟩ := find_eq_ok.mp sought
      have kept : find (definitionsFor second) reference = .ok found :=
        find_eq_ok.mpr ⟨path, same, named, more _ _ defined⟩
      rw [kept]
      exact ih found.2

/-- A conversion depends on its document only through the definitions that its schema reaches. -/
theorem typeOf_local (schema : Value)
    (agree : ∀ name, Reaches (definitionsFor first) schema name →
      SameAt (definitionsFor first) (definitionsFor second) name) :
    dialect.typeOf first schema = dialect.typeOf second schema := by
  have same (room : Nat) : dialect.convertOn (definitionsFor first) room schema =
      dialect.convertOn (definitionsFor second) room schema :=
    (dialect.convertOn_local room schema agree).eq
  -- Both recursions run out of room together, or both end with some room.
  by_cases circular : dialect.typeOf first schema = .error .circular
  · rw [circular, eq_comm, typeOf_eq_circular_iff]
    intro room
    rw [← same, (dialect.typeOf_eq_circular_iff first schema).mp circular]
  · obtain ⟨enough, ends⟩ := dialect.convertOn_eq_typeOf first schema circular
    have ended := ends enough (Nat.le_refl enough)
    have approximates := dialect.convertOn_approximates_typeOf second schema enough
    rw [← same, ended] at approximates
    exact approximates.eq circular

theorem typeOf_extends {schema : Value} {type : TypeExpr}
    (more : Extends (definitionsFor first) (definitionsFor second))
    (typed : dialect.typeOf first schema = .ok type) : dialect.typeOf second schema = .ok type := by
  obtain ⟨enough, ends⟩ := dialect.convertOn_eq_typeOf first schema (by rw [typed]; exact nofun)
  have related := dialect.convertOn_extends enough schema more
  rw [ends enough (Nat.le_refl enough), typed] at related
  obtain ⟨other, same, rfl⟩ := related.of_ok
  exact dialect.typeOf_of_convertOn same

end Dialect

end ClientGen
