import ClientGen.Proofs.Client.Requirements

/-! Lists of requirements merged place by place, as an operation on lists of objects: what a later list binds goes
before what an earlier one binds, nothing else is bound, and merging is associative with the empty list for its
unit. -/

set_option autoImplicit false

namespace ClientGen.Security

open Key (Distinct)

/-! ## Entries put over others -/

section
variable {below between above : List (Key × Value)} {k name : Key} {v : Value}

theorem overlay_cons : overlay below ((name, v) :: above) = overlay (name.put v below) above := rfl

theorem distinct_overlay (distinct : Distinct (below.map (·.1))) : Distinct ((overlay below above).map (·.1)) := by
  induction above generalizing below with
  | nil => exact distinct
  | cons entry rest ih => exact ih distinct.put

theorem lookup_overlay (distinct : Distinct (above.map (·.1))) :
    k.lookup (overlay below above) = (k.lookup above).or (k.lookup below) := by
  induction above generalizing below with
  | nil => rfl
  | cons entry rest ih =>
    obtain ⟨name, v⟩ := entry
    obtain ⟨apart, others⟩ := Distinct.cons_iff.mp distinct
    rw [overlay_cons, ih others, Key.lookup_put, Key.lookup]
    split
    next same =>
      -- The key is bound here, so by no later entry.
      have nowhere : k.lookup rest = none := Key.lookup_eq_none_iff.mpr (apart.of_same same)
      rw [nowhere, Option.none_or, Option.some_or]
    next => rfl

theorem overlay_of_distinct (distinct : Distinct ((below ++ above).map (·.1))) :
    overlay below above = below ++ above := by
  induction above generalizing below with
  | nil => exact (List.append_nil below).symm
  | cons entry rest ih =>
    obtain ⟨name, v⟩ := entry
    have absent : name.Absent below := by
      rw [List.map_append] at distinct
      intro earlier among
      rw [← Bool.not_eq_true]
      refine fun same => ?_
      have apart := (List.pairwise_append.mp distinct).2.2 _ (List.mem_map_of_mem among) name List.mem_cons_self
      simp [Key.same_symm same] at apart
    rw [overlay_cons, Key.put_of_absent absent, ih (by simpa using distinct), List.append_assoc]
    rfl

theorem overlay_nil (distinct : Distinct (above.map (·.1))) : overlay [] above = above :=
  overlay_of_distinct distinct

theorem put_overlay (there : (k.lookup below).isSome = true) (absent : k.Absent above) :
    k.put v (overlay below above) = overlay (k.put v below) above := by
  induction above generalizing below with
  | nil => rfl
  | cons entry rest ih =>
    obtain ⟨name, w⟩ := entry
    obtain ⟨apart, others⟩ := List.forall_mem_cons.mp absent
    have still : (k.lookup (name.put w below)).isSome = true := by
      rwa [Key.lookup_put, if_neg (by simp [apart])]
    rw [overlay_cons, overlay_cons, ih still others, Key.put_comm there apart]

theorem overlay_put (distinct : Distinct (above.map (·.1))) :
    overlay below (k.put v above) = k.put v (overlay below above) := by
  induction above generalizing below with
  | nil => rfl
  | cons entry rest ih =>
    obtain ⟨name, w⟩ := entry
    obtain ⟨apart, others⟩ := Distinct.cons_iff.mp distinct
    cases same : k.same name with
    | false => rw [Key.put_cons_of_apart same, overlay_cons, overlay_cons, ih others]
    | true =>
      have there : (k.lookup (name.put w below)).isSome = true := by rw [Key.lookup_put, if_pos same]; rfl
      rw [Key.put_cons_of_same same, overlay_cons, overlay_cons, put_overlay there (apart.of_same same),
        Key.put_put same]

theorem overlay_assoc (distinct : Distinct (between.map (·.1))) :
    overlay (overlay below between) above = overlay below (overlay between above) := by
  induction above generalizing between with
  | nil => rfl
  | cons entry rest ih =>
    obtain ⟨name, v⟩ := entry
    rw [overlay_cons, overlay_cons, ← ih distinct.put, overlay_put distinct]

end

/-! ## Lists of requirements -/

/-- Requirements are objects: no two entries of one name the same. -/
def AreObjects (requirements : List (List (Key × Value))) : Prop :=
  ∀ requirement ∈ requirements, Distinct (requirement.map (·.1))

instance (requirements : List (List (Key × Value))) : Decidable (AreObjects requirements) :=
  List.decidableBAll _ requirements

/-- What the requirement at a place binds a key to, if there is one. -/
def boundAt (requirements : List (List (Key × Value))) (i : Nat) (k : Key) : Option Value :=
  (requirements[i]?).bind k.lookup

def merged (shared own : List (List (Key × Value))) : List (List (Key × Value)) :=
  (List.range (max shared.length own.length)).map (mergedAt shared own)

section
variable {shared own third : List (List (Key × Value))}

theorem length_merged : (merged shared own).length = max shared.length own.length := by
  rw [merged, List.length_map, List.length_range]

theorem AreObjects.at (objects : AreObjects own) (i : Nat) : Distinct ((own[i]?.getD []).map (·.1)) := by
  cases found : own[i]? with
  | none => exact .nil
  | some requirement => exact objects requirement (List.mem_of_getElem? found)

theorem getD_merged (objects : AreObjects shared) (i : Nat) :
    (merged shared own)[i]?.getD [] = overlay (shared[i]?.getD []) (own[i]?.getD []) := by
  have here : mergedAt shared own i = overlay (shared[i]?.getD []) (own[i]?.getD []) := by
    rw [mergedAt, overlay_nil (objects.at i)]
  rw [← here, merged, List.getElem?_map]
  rcases Nat.lt_or_ge i (max shared.length own.length) with within | beyond
  · rw [List.getElem?_range within, Option.map_some, Option.getD_some]
  · rw [List.getElem?_eq_none (by simpa using beyond), Option.map_none, Option.getD_none, here,
      List.getElem?_eq_none (Nat.le_trans (Nat.le_max_left _ _) beyond),
      List.getElem?_eq_none (Nat.le_trans (Nat.le_max_right _ _) beyond)]
    rfl

theorem areObjects_merged : AreObjects (merged shared own) := by
  intro requirement among
  obtain ⟨i, _, rfl⟩ := List.mem_map.mp among
  exact distinct_overlay (distinct_overlay .nil)

theorem boundAt_eq (requirements : List (List (Key × Value))) (i : Nat) (k : Key) :
    boundAt requirements i k = k.lookup (requirements[i]?.getD []) := by
  unfold boundAt
  cases requirements[i]? <;> rfl

theorem boundAt_merged (sharedObjects : AreObjects shared) (ownObjects : AreObjects own) (i : Nat) (k : Key) :
    boundAt (merged shared own) i k = (boundAt own i k).or (boundAt shared i k) := by
  rw [boundAt_eq, boundAt_eq, boundAt_eq, getD_merged sharedObjects, lookup_overlay (ownObjects.at i)]

theorem eq_of_getD {requirements others : List (List (Key × Value))} (long : requirements.length = others.length)
    (same : ∀ i : Nat, requirements[i]?.getD [] = others[i]?.getD []) : requirements = others := by
  refine List.ext_getElem long fun i before after => ?_
  simpa [before, after] using same i

theorem merged_nil_left (objects : AreObjects own) : merged [] own = own := by
  refine eq_of_getD (by rw [length_merged, List.length_nil, Nat.zero_max]) fun i => ?_
  rw [getD_merged (List.forall_mem_nil _), List.getElem?_nil, Option.getD_none, overlay_nil (objects.at i)]

theorem merged_nil_right (objects : AreObjects shared) : merged shared [] = shared := by
  refine eq_of_getD (by rw [length_merged, List.length_nil, Nat.max_zero]) fun i => ?_
  rw [getD_merged objects]
  rfl

theorem merged_assoc (sharedObjects : AreObjects shared) (ownObjects : AreObjects own) :
    merged (merged shared own) third = merged shared (merged own third) := by
  refine eq_of_getD (by simp only [length_merged, Nat.max_assoc]) fun i => ?_
  rw [getD_merged areObjects_merged, getD_merged sharedObjects, getD_merged sharedObjects, getD_merged ownObjects,
    overlay_assoc (ownObjects.at i)]

theorem exists_merged_iff {k : Key} :
    (∃ requirement ∈ merged shared own, (k.lookup requirement).isSome = true) ↔
      ∃ requirement ∈ shared ++ own, (k.lookup requirement).isSome = true := by
  rw [← names_merged_iff]
  simp [merged]

end

/-- Merging two lists of objects gives a list of objects that is as long as the longer of them. Each place binds what
either list binds there, and where both do, as the second one does; so the keys are those of both lists. The empty
list changes nothing on either side, and it makes no difference which two of three lists are merged first. -/
theorem mergeRequirements_overrides {shared own : List (List (Key × Value))} (sharedObjects : AreObjects shared)
    (ownObjects : AreObjects own) :
    ∃ requirements, mergeRequirements (.list (shared.map .object)) (.list (own.map .object)) = .ok requirements ∧
      requirements.length = max shared.length own.length ∧ AreObjects requirements ∧
      (∀ i k, boundAt requirements i k = (boundAt own i k).or (boundAt shared i k)) ∧
      (∀ k : Key, (∃ requirement ∈ requirements, (k.lookup requirement).isSome = true) ↔
        ∃ requirement ∈ shared ++ own, (k.lookup requirement).isSome = true) ∧
      mergeRequirements (.list []) (.list (own.map .object)) = .ok own ∧
      mergeRequirements (.list (shared.map .object)) (.list []) = .ok shared ∧
      ∀ third : List (List (Key × Value)), ∃ later whole,
        mergeRequirements (.list (own.map .object)) (.list (third.map .object)) = .ok later ∧
        mergeRequirements (.list (requirements.map .object)) (.list (third.map .object)) = .ok whole ∧
        mergeRequirements (.list (shared.map .object)) (.list (later.map .object)) = .ok whole := by
  have merges (first second : List (List (Key × Value))) :
      mergeRequirements (.list (first.map .object)) (.list (second.map .object)) = .ok (merged first second) :=
    mergeRequirements_eq first second
  refine ⟨merged shared own, merges shared own, length_merged, areObjects_merged,
    boundAt_merged sharedObjects ownObjects, fun k => exists_merged_iff, ?_, ?_,
    fun third => ⟨_, _, merges own third, merges _ third, ?_⟩⟩
  · exact (merges [] own).trans (congrArg Except.ok (merged_nil_left ownObjects))
  · exact (merges shared []).trans (congrArg Except.ok (merged_nil_right sharedObjects))
  · rw [merges, merged_assoc sharedObjects ownObjects]

/-- A scheme that both lists name at one place has the scopes of the second one; the second place of the longer list
stays as it is. -/
theorem mergeRequirements_overrides_scopes :
    ∃ requirements,
      mergeRequirements
          (.list [.object [(.text "login", .list [.text "read"]), (.text "key", .list [])],
            .object [(.text "login", .list [])]])
          (.list [.object [(.text "login", .list [.text "write"])]]) = .ok requirements ∧
        requirements.length = 2 ∧
        boundAt requirements 0 (.text "login") = some (.list [.text "write"]) ∧
        boundAt requirements 0 (.text "key") = some (.list []) ∧
        boundAt requirements 1 (.text "login") = some (.list []) := by
  obtain ⟨requirements, merges, long, _, bound, _⟩ := @mergeRequirements_overrides
    [[(.text "login", .list [.text "read"]), (.text "key", .list [])], [(.text "login", .list [])]]
    [[(.text "login", .list [.text "write"])]] (by decide) (by decide)
  refine ⟨requirements, merges, long, ?_, ?_, ?_⟩
  · rw [bound]
    rfl
  · rw [bound]
    rfl
  · rw [bound]
    rfl

end ClientGen.Security
