import ClientGen.Proofs.Outcome
import ClientGen.Schema.Conversion

/-! Schemas of the shape that the conversion expects: whatever it reads of such a schema, it can read. -/

set_option autoImplicit false

namespace ClientGen

namespace SchemaType

/-- The entries that a conversion reads of a schema are of the kinds that it expects. What the schemas within
it look like is left to them. -/
structure Shaped (entries : List (Key × Value)) : Prop where
  enum : ∀ v, (Key.text "enum").lookup entries = some v → ∃ literals, v = .list literals
  minItems : ∀ v, (Key.text "minItems").lookup entries = some v → ∃ n, v = .int n
  allOf : ∀ v, (Key.text "allOf").lookup entries = some v → ∃ members, v = .list members ∧
    ∀ member ∈ members, ∃ inner, member = .object inner ∧
      ∀ reference, (Key.text "$ref").lookup inner = some reference → ∃ path, reference = .text path
  required : ∀ v, (Key.text "required").lookup entries = some v → v.isTrue = true →
    ∃ names : List String, v = .list (names.map .text)
  properties : ∀ v, (Key.text "properties").lookup entries = some v → v.isTrue = true →
    ∃ declared, v = .object declared ∧ ∀ property ∈ declared, ∃ name, property.1 = .text name

namespace Shaped

variable {entries : List (Key × Value)} (shaped : Shaped entries)
include shaped

theorem countsItems_eq_ok : ∃ counts, countsItems entries = .ok counts := by
  unfold countsItems
  split
  next least _ found =>
    obtain ⟨n, rfl⟩ := shaped.minItems _ found
    exact ⟨_, rfl⟩
  next => exact ⟨_, rfl⟩

theorem ofEntries_eq_ok : ∃ type, ofEntries entries = .ok type := by
  unfold ofEntries
  dsimp only
  split
  next => exact ⟨_, rfl⟩
  next => exact ⟨_, rfl⟩
  next found =>
    obtain ⟨literals, rfl⟩ := shaped.enum _ found
    exact ⟨_, rfl⟩
  next =>
    split
    next => exact ⟨_, rfl⟩
    next =>
      split
      next => exact ⟨_, rfl⟩
      next =>
        obtain ⟨counts, same⟩ := shaped.countsItems_eq_ok
        rw [same]
        cases counts <;> exact ⟨_, rfl⟩

theorem membersOf_eq_ok : ∃ members, membersOf entries = .ok members ∧
    ∀ member ∈ members.1, ∃ inner, member = .object inner ∧
      ∀ reference, (Key.text "$ref").lookup inner = some reference → ∃ path, reference = .text path := by
  unfold membersOf
  split
  next members composed =>
    obtain ⟨_, same, objects⟩ := shaped.allOf _ composed
    cases same
    exact ⟨_, rfl, objects⟩
  next other notList composed =>
    obtain ⟨members, same, _⟩ := shaped.allOf _ composed
    exact absurd same (notList members)
  next => exact ⟨_, rfl, List.forall_mem_nil _⟩

theorem requiredKeys_eq_ok : ∃ required, requiredKeys entries = .ok required := by
  unfold requiredKeys
  split
  next v found =>
    split
    next holds =>
      obtain ⟨names, rfl⟩ := shaped.required v found holds
      refine Outcome.exists_mapM_eq_ok fun element among => ?_
      obtain ⟨name, _, rfl⟩ := List.mem_map.mp among
      exact ⟨_, rfl⟩
    next => exact ⟨_, rfl⟩
  next => exact ⟨_, rfl⟩

theorem declaredIn_eq_ok : ∃ declared, declaredIn entries = .ok declared ∧
    ∀ property ∈ declared.1, ∃ name, property.1 = .text name := by
  unfold declaredIn
  split
  next properties found =>
    by_cases holds : (Value.object properties).isTrue = true
    · obtain ⟨_, same, named⟩ := shaped.properties _ found holds
      cases same
      exact ⟨_, rfl, named⟩
    · cases properties with
      | nil => exact ⟨_, rfl, List.forall_mem_nil _⟩
      | cons => simp [Value.isTrue] at holds
  next other notObject found =>
    split
    next holds =>
      obtain ⟨properties, same, _⟩ := shaped.properties _ found holds
      exact absurd same (notObject properties)
    next => exact ⟨_, rfl, List.forall_mem_nil _⟩
  next => exact ⟨_, rfl, List.forall_mem_nil _⟩

end Shaped

end SchemaType

def TypeExpr.NamedByText (property : TypeExpr) : Prop := ∃ name, property.name = some (.text name)

def TypeExpr.AllNamed (properties : List TypeExpr) : Prop := ∀ property ∈ properties, property.NamedByText

theorem TypeExpr.AllNamed.flatten_append {inherited : List (List TypeExpr)} {own : List TypeExpr}
    (named : ∀ properties ∈ inherited, AllNamed properties) (held : AllNamed own) :
    AllNamed (inherited.flatten ++ own) := by
  intro property among
  rcases List.mem_append.mp among with among | among
  · obtain ⟨properties, within, among⟩ := List.mem_flatten.mp among
    exact named properties within property among
  · exact held property among

theorem Dialect.object_eq_ok (dialect : Dialect) (description : Value) {properties : List TypeExpr}
    (named : TypeExpr.AllNamed properties) :
    ∃ type, dialect.object description properties = .ok type ∧ type.properties = properties := by
  obtain ⟨members, written⟩ : ∃ members, properties.mapM TypeExpr.memberText = .ok members := by
    refine Outcome.exists_mapM_eq_ok fun property among => ?_
    obtain ⟨name, same⟩ := named property among
    rw [TypeExpr.memberText, same]
    exact ⟨_, rfl⟩
  rw [object, written]
  exact ⟨_, rfl, rfl⟩

end ClientGen
