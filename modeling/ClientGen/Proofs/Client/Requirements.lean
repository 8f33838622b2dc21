import ClientGen.Proofs.Client.Flags
import ClientGen.Proofs.Document.Keys
import ClientGen.Proofs.Outcome

/-! Which kinds of schemes an operation calls for. The requirements of the document and of the operation are merged
place by place, but a scheme is called for as soon as any of them names it: neither their places nor the list that
they stand in matter. -/

set_option autoImplicit false

namespace ClientGen

namespace Security

/-! ## Merged requirements -/

section
variable {k : Key}

theorem isSome_lookup_overlay (below above : List (Key × Value)) :
    (k.lookup (overlay below above)).isSome = ((k.lookup below).isSome || (k.lookup above).isSome) := by
  induction above generalizing below with
  | nil => simp [overlay, Key.lookup]
  | cons entry rest ih =>
    obtain ⟨name, v⟩ := entry
    change (k.lookup (overlay (name.put v below) rest)).isSome = _
    rw [ih, Key.lookup_put, Key.lookup]
    cases k.same name <;> simp

/-- The requirement at a place of both lists, the second over the first. -/
def mergedAt (shared own : List (List (Key × Value))) (i : Nat) : List (Key × Value) :=
  overlay (overlay [] (shared[i]?.getD [])) (own[i]?.getD [])

theorem requirementAt_eq (requirements : List (List (Key × Value))) (i : Nat) :
    requirementAt (.list (requirements.map .object)) requirements.length i = .ok (requirements[i]?.getD []) := by
  unfold requirementAt
  split
  next within => simp [Value.at?, within, Value.pairs]
  next beyond => rw [List.getElem?_eq_none (Nat.not_lt.mp beyond), Option.getD_none]

theorem mergeRequirements_eq (shared own : List (List (Key × Value))) :
    mergeRequirements (.list (shared.map .object)) (.list (own.map .object)) =
      .ok ((List.range (max shared.length own.length)).map (mergedAt shared own)) := by
  simp only [mergeRequirements, Value.count, List.length_map, Outcome.ok_bind]
  refine Outcome.mapM_eq_ok fun i _ => ?_
  rw [requirementAt_eq, requirementAt_eq]
  rfl

theorem exists_place_iff {requirements : List (List (Key × Value))} {n : Nat} (within : requirements.length ≤ n) :
    (∃ i < n, (k.lookup (requirements[i]?.getD [])).isSome = true) ↔
      ∃ requirement ∈ requirements, (k.lookup requirement).isSome = true := by
  constructor
  · rintro ⟨i, _, named⟩
    cases found : requirements[i]? with
    | none => simp [found, Key.lookup] at named
    | some requirement =>
      rw [found] at named
      exact ⟨requirement, List.mem_of_getElem? found, named⟩
  · rintro ⟨requirement, among, named⟩
    obtain ⟨i, before, rfl⟩ := List.mem_iff_getElem.mp among
    exact ⟨i, Nat.lt_of_lt_of_le before within, by simpa [before] using named⟩

theorem names_merged_iff (shared own : List (List (Key × Value))) :
    (∃ i < max shared.length own.length, (k.lookup (mergedAt shared own i)).isSome = true) ↔
      ∃ requirement ∈ shared ++ own, (k.lookup requirement).isSome = true := by
  have merged (i : Nat) : (k.lookup (mergedAt shared own i)).isSome = true ↔
      (k.lookup (shared[i]?.getD [])).isSome = true ∨ (k.lookup (own[i]?.getD [])).isSome = true := by
    rw [mergedAt, isSome_lookup_overlay, isSome_lookup_overlay]
    simp [Key.lookup]
  simp only [merged, and_or_left, exists_or, List.mem_append, or_and_right]
  rw [exists_place_iff (Nat.le_max_left _ _), exists_place_iff (Nat.le_max_right _ _)]

end

/-! ## Schemes called for -/

/-- What a document and an operation say of security: the requirements of both, and the schemes of the document. -/
structure Demands where
  shared : List (List (Key × Value))
  own : List (List (Key × Value))
  schemes : List (Key × List (Key × Value))

/-- A list of requirements. A value that is not true lists none. -/
inductive Lists : Value → List (List (Key × Value)) → Prop where
  | nothing {v : Value} : v.isTrue = false → Lists v []
  | list (requirements : List (List (Key × Value))) : Lists (.list (requirements.map .object)) requirements

/-- The definitions of schemes, each of which has a scalar for its type or no type. A value that is not true defines
none. -/
inductive Defines : Value → List (Key × List (Key × Value)) → Prop where
  | nothing {v : Value} : v.isTrue = false → Defines v []
  | object (schemes : List (Key × List (Key × Value))) :
      (∀ scheme ∈ schemes, ∀ type, (Key.text "type").lookup scheme.2 = some type →
        ∃ kind, type.toKey? = some kind) →
      Defines (.object (schemes.map fun scheme => (scheme.1, .object scheme.2))) schemes

structure Demands.SaidBy (demands : Demands) (document operation : List (Key × Value)) : Prop where
  shared : Lists (entryOf document "security") demands.shared
  own : Lists (entryOf operation "security") demands.own
  schemes : Defines (entryOf document "securityDefinitions") demands.schemes

def Kind.schemeType : Kind → String
  | .token => "oauth2"
  | .apiKey => "apiKey"
  | .basic => "basic"

namespace Demands

def Names (demands : Demands) (scheme : Key) : Prop :=
  ∃ requirement ∈ demands.shared ++ demands.own, ∃ entry ∈ requirement, scheme.same entry.1 = true

def CallFor (demands : Demands) (type : String) : Prop :=
  ∃ scheme ∈ demands.schemes, (Key.text "type").lookup scheme.2 = some (.text type) ∧ demands.Names scheme.1

structure Within (fewer more : Demands) : Prop where
  names : ∀ name, fewer.Names name → more.Names name
  schemes : fewer.schemes ⊆ more.schemes

theorem CallFor.mono {fewer more : Demands} {type : String} (calls : fewer.CallFor type)
    (within : fewer.Within more) : more.CallFor type := by
  obtain ⟨scheme, defined, typed, named⟩ := calls
  exact ⟨scheme, within.schemes defined, typed, within.names scheme.1 named⟩

theorem names_iff {demands : Demands} {scheme : Key} : demands.Names scheme ↔
    ∃ requirement ∈ demands.shared ++ demands.own, (scheme.lookup requirement).isSome = true := by
  simp only [Names, Key.isSome_lookup_iff]

end Demands

theorem Lists.orElse {v : Value} {requirements : List (List (Key × Value))} (lists : Lists v requirements) :
    v.orElse (.list []) = .list (requirements.map .object) := by
  cases lists with
  | nothing untrue => simp [Value.orElse, untrue]
  | list => cases requirements <;> rfl

theorem Defines.orElse {v : Value} {schemes : List (Key × List (Key × Value))} (defines : Defines v schemes) :
    v.orElse (.object []) = .object (schemes.map fun scheme => (scheme.1, .object scheme.2)) := by
  cases defines with
  | nothing untrue => simp [Value.orElse, untrue]
  | object => cases schemes <;> rfl

theorem Defines.of_null {schemes : List (Key × List (Key × Value))} (defines : Defines .null schemes) :
    schemes = [] := by
  cases defines
  rfl

/-- The type of a scheme as it is compared; one without a type has null for it. -/
def typeOfScheme (scheme : List (Key × Value)) : Key :=
  (((Key.text "type").lookup scheme).getD .null).toKey?.getD .null

theorem schemeKinds_eq {referenced : List Key} {v : Value} {schemes : List (Key × List (Key × Value))}
    (defines : Defines v schemes) :
    schemeKinds referenced (schemes.map fun scheme => (scheme.1, .object scheme.2)) =
      .ok ((schemes.filter fun scheme => referenced.any scheme.1.same).map fun scheme => typeOfScheme scheme.2) := by
  rw [schemeKinds, List.filter_map, List.mapM_map]
  refine Outcome.mapM_eq_ok fun scheme among => ?_
  cases defines with
  | nothing => cases among
  | object _ typed =>
    have typed := typed scheme (List.mem_of_mem_filter among)
    cases found : (Key.text "type").lookup scheme.2 with
    | none => simp [Value.field, Value.field?, typeOfScheme, found, Value.toKey?]
    | some type =>
      obtain ⟨kind, same⟩ := typed type found
      simp [Value.field, Value.field?, typeOfScheme, found, same]

theorem typeOfScheme_eq_text_iff {scheme : List (Key × Value)} {type : String} :
    typeOfScheme scheme = .text type ↔ (Key.text "type").lookup scheme = some (.text type) := by
  unfold typeOfScheme
  cases (Key.text "type").lookup scheme with
  | none => simp [Value.toKey?]
  | some v => cases v <;> simp [Value.toKey?]

def Demands.mergedNames (demands : Demands) : List Key :=
  ((List.range (max demands.shared.length demands.own.length)).map (mergedAt demands.shared demands.own)).flatMap
    fun entries => entries.map (·.1)

theorem Demands.any_mergedNames_iff {demands : Demands} {scheme : Key} :
    demands.mergedNames.any scheme.same = true ↔ demands.Names scheme := by
  rw [names_iff, ← names_merged_iff]
  simp [mergedNames, List.any_flatMap, Key.isSome_lookup_iff]

section
variable {document operation : List (Key × Value)} {demands : Demands}

theorem kindsReferred_eq (said : demands.SaidBy document operation) :
    kindsReferred document operation =
      .ok ((demands.schemes.filter fun scheme => demands.mergedNames.any scheme.1.same).map
        fun scheme => typeOfScheme scheme.2) := by
  rw [kindsReferred, said.shared.orElse, said.own.orElse, said.schemes.orElse, mergeRequirements_eq, Outcome.ok_bind,
    Value.entries, Outcome.ok_bind]
  exact schemeKinds_eq said.schemes

theorem contains_kinds_iff {type : String} :
    ((demands.schemes.filter fun scheme => demands.mergedNames.any scheme.1.same).map
      fun scheme => typeOfScheme scheme.2).contains (.text type) = true ↔ demands.CallFor type := by
  simp only [List.contains_iff_mem, List.mem_map, List.mem_filter, Demands.any_mergedNames_iff,
    typeOfScheme_eq_text_iff, Demands.CallFor]
  tauto

theorem ofOperation_eq (said : demands.SaidBy document operation) :
    ∃ security, ofOperation (.object document) (.object operation) = .ok security ∧
      ∀ kind, security.uses kind = true ↔ demands.CallFor kind.schemeType := by
  rcases ofOperation_either document operation with ⟨undefined, same⟩ | same
  -- Without definitions no requirement is looked at, and there is no scheme that one could name.
  · refine ⟨_, same, fun kind => ?_⟩
    have nothing : ¬ demands.CallFor kind.schemeType := by
      rintro ⟨scheme, defined, _⟩
      have defines := said.schemes
      rw [undefined] at defines
      rw [defines.of_null] at defined
      cases defined
    refine iff_of_false ?_ nothing
    cases kind <;> exact Bool.false_ne_true
  · rw [same, kindsReferred_eq said]
    refine ⟨_, rfl, fun kind => ?_⟩
    rw [← contains_kinds_iff]
    cases kind <;> rfl

end

/-- Where the entries that speak of security are of the kinds that are expected, an operation has the flag of a kind
exactly if some requirement of the document or of its own names a scheme of that type. So with more names and more
schemes no flag is lost, and with the same ones, wherever they stand, all flags are the same. -/
theorem ofOperation_calls {document operation : List (Key × Value)} {demands : Demands}
    (said : demands.SaidBy document operation) :
    ∃ security, ofOperation (.object document) (.object operation) = .ok security ∧
      (∀ kind, security.uses kind = true ↔ demands.CallFor kind.schemeType) ∧
      ∀ otherDocument otherOperation others, Demands.SaidBy others otherDocument otherOperation →
        demands.Within others →
        ∃ more, ofOperation (.object otherDocument) (.object otherOperation) = .ok more ∧
          (∀ kind, security.uses kind = true → more.uses kind = true) ∧
          (others.Within demands → ∀ kind, more.uses kind = security.uses kind) := by
  obtain ⟨security, resolved, flags⟩ := ofOperation_eq said
  refine ⟨security, resolved, flags, fun otherDocument otherOperation others saidToo within => ?_⟩
  obtain ⟨more, resolvedToo, moreFlags⟩ := ofOperation_eq saidToo
  refine ⟨more, resolvedToo, fun kind flag => ?_, fun back kind => ?_⟩
  · exact (moreFlags kind).mpr (((flags kind).mp flag).mono within)
  · rw [Bool.eq_iff_iff, flags, moreFlags]
    exact ⟨fun calls => calls.mono back, fun calls => calls.mono within⟩

def twoSchemes : List (Key × List (Key × Value)) :=
  [(.text "key", [(.text "type", .text "apiKey")]), (.text "login", [(.text "type", .text "oauth2")])]

def defining (more : List (Key × Value)) : List (Key × Value) :=
  (.text "securityDefinitions", .object (twoSchemes.map fun scheme => (scheme.1, .object scheme.2))) :: more

def requiredOfAll : Demands :=
  ⟨[[(.text "key", .list [])], [(.text "login", .list [.text "read"])]], [], twoSchemes⟩

def requiredOfOne : Demands := ⟨[], [[(.text "login", .list []), (.text "key", .list [])]], twoSchemes⟩

theorem ofOperation_calls_twoSchemes :
    ∃ security, ofOperation (.object (defining [(.text "security", .list (requiredOfAll.shared.map .object))]))
        (.object []) = .ok security ∧
      security.uses .apiKey = true ∧ security.uses .token = true ∧ security.uses .basic = false ∧
      ∃ more, ofOperation (.object (defining [])) (.object [(.text "security",
          .list (requiredOfOne.own.map .object))]) = .ok more ∧
        ∀ kind, more.uses kind = security.uses kind := by
  have either {scheme : Key × List (Key × Value)} (defined : scheme ∈ twoSchemes) :
      scheme = (.text "key", [(.text "type", .text "apiKey")]) ∨
        scheme = (.text "login", [(.text "type", .text "oauth2")]) := by
    simpa [twoSchemes] using defined
  have defines : Defines (.object (twoSchemes.map fun scheme => (scheme.1, .object scheme.2))) twoSchemes := by
    refine .object _ fun scheme among type found => ?_
    rcases either among with rfl | rfl <;> cases found <;> exact ⟨_, rfl⟩
  have all : requiredOfAll.SaidBy (defining [(.text "security", .list (requiredOfAll.shared.map .object))]) [] :=
    ⟨.list _, .nothing rfl, defines⟩
  have one : requiredOfOne.SaidBy (defining []) [(.text "security", .list (requiredOfOne.own.map .object))] :=
    ⟨.nothing rfl, .list _, defines⟩
  -- Both demands name the two schemes, whether in two requirements or in one.
  have names (name : Key) : requiredOfAll.Names name ↔ requiredOfOne.Names name := by
    rw [Demands.names_iff, Demands.names_iff]
    simp [requiredOfAll, requiredOfOne, Key.isSome_lookup_iff, -Prod.exists, or_comm]
  obtain ⟨security, resolved, flags, others⟩ := ofOperation_calls all
  obtain ⟨more, resolvedToo, _, same⟩ := others _ _ _ one ⟨fun name => (names name).mp, List.Subset.refl _⟩
  refine ⟨security, resolved, (flags .apiKey).mpr ?_, (flags .token).mpr ?_, ?_, more, resolvedToo,
    same ⟨fun name => (names name).mpr, List.Subset.refl _⟩⟩
  · exact ⟨_, List.mem_cons_self, rfl, _, List.mem_cons_self, _, List.mem_cons_self, rfl⟩
  · exact ⟨_, List.mem_cons_of_mem _ List.mem_cons_self, rfl, _, List.mem_cons_of_mem _ List.mem_cons_self, _,
      List.mem_cons_self, rfl⟩
  · rw [← Bool.not_eq_true, flags]
    rintro ⟨scheme, defined, typed, _⟩
    rcases either defined with rfl | rfl <;> simp [Key.lookup, Kind.schemeType] at typed

end Security

end ClientGen
