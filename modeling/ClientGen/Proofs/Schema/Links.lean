import ClientGen.Proofs.Schema.Definitions
import ClientGen.Proofs.Schema.Ordinary
import Mathlib.Logic.Relation

/-! Links between definitions. A definition is linked to those that it is composed of, be it in a schema
within it; references that are kept as names are no links. Only a cycle of links that can be reached from a
schema makes its conversion circular. -/

set_option autoImplicit false

namespace ClientGen

namespace SchemaType

/-- The walk through a schema meets a member of a composition with this reference. -/
def Meets (schema reference : Value) : Prop :=
  ∃ inner, Relation.ReflTransGen Part schema inner ∧ Refers inner reference

def MeetsName (schema : Value) (name : String) : Prop :=
  ∃ path, Meets schema (.text path) ∧ refName path = name

/-- The walk through the definition of the first name meets a member whose reference has the second. -/
def Linked (definitions : Except Failure Value) (first second : String) : Prop :=
  ∃ schema, definitionAt definitions first = some schema ∧ MeetsName schema second

def Reaches (definitions : Except Failure Value) (schema : Value) (name : String) : Prop :=
  ∃ first, MeetsName schema first ∧ Relation.ReflTransGen (Linked definitions) first name

def ReachesCycle (definitions : Except Failure Value) (schema : Value) : Prop :=
  ∃ name, Reaches definitions schema name ∧ Relation.TransGen (Linked definitions) name name

variable {definitions : Except Failure Value} {schema inner definition : Value} {name later : String}

theorem MeetsName.of_part (part : Part schema inner) (meets : MeetsName inner name) :
    MeetsName schema name := by
  obtain ⟨path, ⟨last, through, refers⟩, same⟩ := meets
  exact ⟨path, ⟨last, .head part through, refers⟩, same⟩

namespace Reaches

theorem of_part (part : Part schema inner) (reaches : Reaches definitions inner name) :
    Reaches definitions schema name := by
  obtain ⟨first, meets, along⟩ := reaches
  exact ⟨first, meets.of_part part, along⟩

theorem of_refers {path : String} (refers : Refers schema (.text path)) :
    Reaches definitions schema (refName path) :=
  ⟨_, ⟨path, ⟨schema, .refl, refers⟩, rfl⟩, .refl⟩

theorem links (reaches : Reaches definitions definition later)
    (defined : definitionAt definitions name = some definition) :
    Relation.TransGen (Linked definitions) name later := by
  obtain ⟨first, meets, along⟩ := reaches
  exact .head' ⟨definition, defined, meets⟩ along

theorem extend (reaches : Reaches definitions schema name)
    (links : Relation.TransGen (Linked definitions) name later) : Reaches definitions schema later := by
  obtain ⟨first, meets, along⟩ := reaches
  exact ⟨first, meets, along.trans links.to_reflTransGen⟩

end Reaches

/-- The induction over a conversion, for schemas that reach no cycle. Each definition that such a schema refers
to is still left, because it has been entered only if it leads back to itself. -/
@[elab_as_elim]
theorem acyclic_induction {P : List (Key × Value) → Value → Prop}
    (step : ∀ available schema, Remaining definitions available →
      (∀ inner, Part schema inner → P available inner) →
      (∀ reference name definition, Refers schema reference →
        find definitions reference = .ok (name, definition) →
        (Key.text name).lookup available = some definition ∧
          P ((Key.text name).without available) definition) →
      P available schema)
    (available : List (Key × Value)) (remaining : Remaining definitions available) (schema : Value)
    (acyclic : ¬ ReachesCycle definitions schema)
    (left : ∀ name, Reaches definitions schema name → definitionAt definitions name ≠ none →
      (Key.text name).lookup available ≠ none) :
    P available schema := by
  revert acyclic left
  refine conversion_induction ?_ available remaining schema
  intro available schema remaining parts references acyclic left
  refine step available schema remaining (fun inner part => ?_) fun reference name definition refers sought => ?_
  -- A schema within reaches nothing that the schema does not reach.
  · refine parts inner part ?_ fun name reaches => left name (reaches.of_part part)
    rintro ⟨name, reaches, cycle⟩
    exact acyclic ⟨name, reaches.of_part part, cycle⟩
  obtain ⟨path, rfl, rfl, defined⟩ := find_eq_ok.mp sought
  have here : Reaches definitions schema (refName path) := .of_refers refers
  obtain ⟨other, still⟩ := Option.ne_none_iff_exists'.mp (left _ here (by simp [defined]))
  obtain rfl := remaining.eq_of_find sought still
  refine ⟨still, references _ _ other refers sought still ?_ fun name reaches known => ?_⟩
  · rintro ⟨name, reaches, cycle⟩
    exact acyclic ⟨name, here.extend (reaches.links defined), cycle⟩
  -- The definition that is entered does not lead back to itself, so it is not missed within itself.
  have links := reaches.links defined
  rw [Key.lookup_without_text, if_neg]
  · exact left name (here.extend links) known
  · rintro rfl
    exact acyclic ⟨_, here, links⟩

end SchemaType

namespace Dialect

open SchemaType
open Outcome (Avoids)

/-- Without a cycle that can be reached, and while all definitions that can be reached are left, a conversion
is not circular. -/
theorem convert_avoids (dialect : Dialect) {definitions : Except Failure Value}
    (known : Avoids .circular definitions) (available : List (Key × Value))
    (remaining : Remaining definitions available) (schema : Value)
    (acyclic : ¬ ReachesCycle definitions schema)
    (left : ∀ name, Reaches definitions schema name → definitionAt definitions name ≠ none →
      (Key.text name).lookup available ≠ none) :
    Avoids .circular (dialect.convert definitions available schema) := by
  refine acyclic_induction ?_ available remaining schema acyclic left
  intro available schema remaining parts references
  rw [convert_eq_activation]
  refine dialect.activation_avoids parts fun reference refers => ?_
  rw [convertReferred_eq dialect remaining]
  refine (find_avoids known reference).bind fun found sought => ?_
  obtain ⟨still, avoids⟩ := references reference found.1 found.2 refers sought
  rwa [still]

theorem typeOf_ne_circular (dialect : Dialect) {document schema : Value}
    (acyclic : ¬ ReachesCycle (definitionsFor document) schema) :
    dialect.typeOf document schema ≠ .error .circular := by
  refine dialect.convert_avoids (definitionsFor_avoids document) _ (.all _) schema acyclic ?_
  intro name _ defined
  rwa [lookup_entriesOf]

end Dialect

end ClientGen
