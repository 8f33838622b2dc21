import ClientGen.Proofs.Schema.Links
import ClientGen.Proofs.Schema.Stack
import ClientGen.Proofs.Schema.Walk

/-! When the recursion of a conversion ends. It does when no cycle of links can be reached, and does not when
the walk comes to a definition that it is still converting. -/

set_option autoImplicit false

namespace ClientGen

namespace Dialect

open SchemaType Walk

/-- Through schemas of the expected shape, a conversion is circular exactly when its walk comes to a
definition that is being converted. -/
theorem typeOf_eq_circular_iff_reenters (dialect : Dialect) {document schema : Value}
    (shaped : ShapedWithin (definitionsFor document) schema) :
    dialect.typeOf document schema = .error .circular ↔
      ∃ tasks, Leads (definitionsFor document) [.schema schema] tasks ∧
        Reenters (definitionsFor document) tasks := by
  have ends := dialect.convert_ends _ (.all (definitionsFor document)) schema shaped []
    fun name defined => by simpa [entered, lookup_entriesOf] using defined
  change Ends _ _ _ _ (dialect.typeOf document schema) at ends
  constructor
  · intro circular
    rw [circular] at ends
    obtain ⟨last, leads, ⟨_, again⟩ | ⟨_, reference, _, _, _, failed⟩⟩ := ends
    · exact ⟨last, leads, again⟩
    · exact absurd failed (find_avoids (definitionsFor_avoids document) reference)
  -- A walk that re-enters a definition has halted there, so it neither gets through nor halts elsewhere.
  · rintro ⟨tasks, leads, again⟩
    cases outcome : dialect.typeOf document schema with
    | ok type =>
      rw [outcome] at ends
      obtain rfl := leads.unique ends.2 again.step_eq_none rfl
      obtain ⟨_, _, _, _, _, impossible, _⟩ := again
      cases impossible
    | error failure =>
      rw [outcome] at ends
      obtain ⟨last, further, halts⟩ := ends
      obtain rfl := leads.unique further again.step_eq_none halts.step_eq_none
      rcases halts with ⟨rfl, _⟩ | ⟨_, _, _, here, refers, failed⟩
      · rfl
      · obtain ⟨_, _, _, _, _, rfl, same, found, _⟩ := again
        cases here
        rw [refers] at same
        cases same
        rw [failed] at found
        cases found

/-- Without a cycle of links that can be reached, the recursion ends on every stack that is large enough, with
a type or an ordinary failure. If all schemas that it comes to have the expected shape and it comes to a
definition that it is still converting, it is circular and no stack is large enough. -/
theorem recursion_ends_unless_reentered (dialect : Dialect) (document schema : Value) :
    (¬ ReachesCycle (definitionsFor document) schema →
      ∃ outcome, outcome ≠ .error .circular ∧ dialect.typeOf document schema = outcome ∧
        ∃ enough, ∀ room, enough ≤ room →
          dialect.convertOn (definitionsFor document) room schema = outcome) ∧
    (ShapedWithin (definitionsFor document) schema →
      (∃ tasks, Leads (definitionsFor document) [.schema schema] tasks ∧
        Reenters (definitionsFor document) tasks) →
      dialect.typeOf document schema = .error .circular ∧
        ∀ room, dialect.convertOn (definitionsFor document) room schema = .error .circular) := by
  constructor
  · intro acyclic
    have ordinary := dialect.typeOf_ne_circular acyclic
    exact ⟨_, ordinary, rfl, dialect.convertOn_eq_typeOf document schema ordinary⟩
  · intro shaped again
    have circular := (dialect.typeOf_eq_circular_iff_reenters shaped).mpr again
    exact ⟨circular, (dialect.typeOf_eq_circular_iff document schema).mp circular⟩

end Dialect

open SchemaType Walk Dialect

def composedOf (path : String) : Value :=
  .object [(.text "allOf", .list [.object [(.text "$ref", .text path)]])]

def withNext (inner : Value) : Value :=
  .object [(.text "properties", .object [(.text "next", inner)])]

def referenceTo (path : String) : Value := .object [(.text "$ref", .text path)]

def selfMentions : Value := .object [(.text "definitions", .object [
  (.text "Node", withNext (referenceTo "#/definitions/Node")),
  (.text "Loop", withNext (composedOf "#/definitions/Loop"))])]

theorem of_composedOf (path : String) :
    of (composedOf path) = .ok (.object .null [(.text "allOf", .list [referenceTo path])]) := rfl

theorem of_withNext (inner : Value) : of (withNext inner) =
    .ok (.object .null [(.text "properties", .object [(.text "next", inner)])]) := rfl

theorem of_referenceTo (path : String) : of (referenceTo path) = .ok (.ref .null (refName path)) := rfl

theorem not_part_composedOf (path : String) (inner : Value) : ¬ Part (composedOf path) inner := by
  intro part
  cases part with
  | wrapped other | element other =>
    rw [of_composedOf] at other
    cases other
  | member other composed among free =>
    rw [of_composedOf] at other
    cases other
    cases composed
    rw [List.mem_singleton] at among
    cases among
    cases free
  | property other listed among =>
    rw [of_composedOf] at other
    cases other
    cases listed
    cases among

theorem refers_composedOf {path : String} {reference : Value} (refers : Refers (composedOf path) reference) :
    reference = .text path := by
  obtain ⟨other, composed, among, refer⟩ := refers
  rw [of_composedOf] at other
  cases other
  cases composed
  rw [List.mem_singleton] at among
  cases among
  cases refer
  rfl

theorem part_withNext {inner last : Value} (part : Part (withNext inner) last) : last = inner := by
  cases part with
  | wrapped other | element other =>
    rw [of_withNext] at other
    cases other
  | member other composed among free =>
    rw [of_withNext] at other
    cases other
    cases composed
    cases among
  | property other listed among =>
    rw [of_withNext] at other
    cases other
    cases listed
    rw [List.mem_singleton] at among
    cases among
    rfl

theorem not_refers_withNext (inner reference : Value) : ¬ Refers (withNext inner) reference := by
  rintro ⟨other, composed, among, _⟩
  rw [of_withNext] at other
  cases other
  cases composed
  cases among

theorem meetsName_withNext {inner : Value} {name : String} (meets : MeetsName (withNext inner) name) :
    MeetsName inner name := by
  obtain ⟨path, ⟨last, through, refers⟩, same⟩ := meets
  rcases through.cases_head with rfl | ⟨next, part, further⟩
  · exact absurd refers (not_refers_withNext _ _)
  · obtain rfl := part_withNext part
    exact ⟨path, ⟨last, further, refers⟩, same⟩

theorem not_meetsName_mention (path name : String) : ¬ MeetsName (withNext (referenceTo path)) name := by
  intro mentions
  obtain ⟨_, ⟨last, through, refers⟩, _⟩ := meetsName_withNext mentions
  rcases through.cases_head with rfl | ⟨_, part, _⟩
  · obtain ⟨other, _⟩ := refers
    rw [of_referenceTo] at other
    cases other
  · rcases part with other | other | ⟨other, _⟩ | ⟨other, _⟩ <;>
      rw [of_referenceTo] at other <;> cases other

theorem meetsName_composedOf {path name : String} (meets : MeetsName (composedOf path) name) :
    name = refName path := by
  obtain ⟨other, ⟨last, through, refers⟩, rfl⟩ := meets
  rcases through.cases_head with rfl | ⟨_, part, _⟩
  · cases refers_composedOf refers
    rfl
  · exact absurd part (not_part_composedOf path _)

theorem shaped_composedOf (path : String) : Shaped [(.text "allOf", .list [referenceTo path])] where
  enum _ found := by cases found
  minItems _ found := by cases found
  allOf _ found := by
    cases found
    refine ⟨_, rfl, fun member among => ?_⟩
    rw [List.mem_singleton] at among
    subst among
    refine ⟨_, rfl, fun reference found => ?_⟩
    cases found
    exact ⟨path, rfl⟩
  required _ found := by cases found
  properties _ found := by cases found

theorem shaped_withNext (inner : Value) : Shaped [(.text "properties", .object [(.text "next", inner)])] where
  enum _ found := by cases found
  minItems _ found := by cases found
  allOf _ found := by cases found
  required _ found := by cases found
  properties _ found _ := by
    cases found
    refine ⟨_, rfl, fun property among => ?_⟩
    rw [List.mem_singleton] at among
    exact ⟨"next", by rw [among]⟩

theorem shapedWithin_composedOf {definitions : Except Failure Value} {path : String}
    (behind : ∀ definition, definitionAt definitions (refName path) = some definition →
      ShapedWithin definitions definition) : ShapedWithin definitions (composedOf path) := by
  refine .intro (shaped_composedOf path) (fun inner part => absurd part (not_part_composedOf path inner)) ?_
  intro reference name definition refers found
  obtain rfl := refers_composedOf refers
  obtain ⟨_, ⟨⟩, rfl, defined⟩ := find_eq_ok.mp found
  exact behind definition defined

theorem shapedWithin_withNext {definitions : Except Failure Value} {inner : Value}
    (shaped : ShapedWithin definitions inner) : ShapedWithin definitions (withNext inner) := by
  refine .intro (shaped_withNext inner) (fun next part => ?_) fun reference _ _ refers => ?_
  · rwa [part_withNext part]
  · exact absurd refers (not_refers_withNext inner reference)

/-- A definition that only mentions itself is no obstacle, and one that is composed of itself in a property
is. -/
theorem Dialect.recursion_ends_unless_reentered_selfMentions :
    (¬ ReachesCycle (definitionsFor selfMentions) (composedOf "#/definitions/Node") ∧
      ∃ outcome, outcome ≠ .error .circular ∧
        flow.typeOf selfMentions (composedOf "#/definitions/Node") = outcome ∧
        ∃ enough, ∀ room, enough ≤ room →
          flow.convertOn (definitionsFor selfMentions) room (composedOf "#/definitions/Node") = outcome) ∧
    ShapedWithin (definitionsFor selfMentions) (composedOf "#/definitions/Loop") ∧
    (∃ tasks, Leads (definitionsFor selfMentions) [.schema (composedOf "#/definitions/Loop")] tasks ∧
      Reenters (definitionsFor selfMentions) tasks) ∧
    flow.typeOf selfMentions (composedOf "#/definitions/Loop") = .error .circular ∧
    ∀ room, flow.convertOn (definitionsFor selfMentions) room (composedOf "#/definitions/Loop") =
      .error .circular := by
  have node : refName "#/definitions/Node" = "Node" := by decide +kernel
  -- The only link there is leads from the second definition to itself.
  have unlinked (name : String) : ¬ Linked (definitionsFor selfMentions) "Node" name := by
    rintro ⟨schema, defined, meets⟩
    cases defined
    exact not_meetsName_mention _ _ meets
  have acyclic : ¬ ReachesCycle (definitionsFor selfMentions) (composedOf "#/definitions/Node") := by
    rintro ⟨name, ⟨first, meets, along⟩, cycle⟩
    rw [meetsName_composedOf meets, node] at along
    rcases along.cases_head with rfl | ⟨_, link, _⟩
    · obtain ⟨_, link, _⟩ := Relation.TransGen.head'_iff.mp cycle
      exact unlinked _ link
    · exact unlinked _ link
  -- The walk goes back and forth between two schemas.
  have shaped : ShapedWithin (definitionsFor selfMentions) (composedOf "#/definitions/Loop") := by
    intro inner within
    have either : inner = composedOf "#/definitions/Loop" ∨
        inner = withNext (composedOf "#/definitions/Loop") := by
      induction within with
      | refl => exact .inl rfl
      | tail _ link ih =>
        rcases ih with rfl | rfl
        · rcases link with part | ⟨reference, name, refers, found⟩
          · exact absurd part (not_part_composedOf _ _)
          · obtain rfl := refers_composedOf refers
            cases found
            exact .inr rfl
        · rcases link with part | ⟨reference, name, refers, _⟩
          · exact .inl (part_withNext part)
          · exact absurd refers (not_refers_withNext _ _)
    rcases either with rfl | rfl
    · exact ⟨_, rfl, shaped_composedOf _⟩
    · exact ⟨_, rfl, shaped_withNext _⟩
  have again : ∃ tasks,
      Leads (definitionsFor selfMentions) [.schema (composedOf "#/definitions/Loop")] tasks ∧
        Reenters (definitionsFor selfMentions) tasks := by
    refine ⟨_, .head rfl (.head rfl (.head rfl (.single rfl))), _, _, "Loop", _, _, rfl, rfl, rfl, ?_⟩
    decide
  exact ⟨⟨acyclic, (recursion_ends_unless_reentered flow _ _).1 acyclic⟩, shaped, again,
    (recursion_ends_unless_reentered flow _ _).2 shaped again⟩

end ClientGen
