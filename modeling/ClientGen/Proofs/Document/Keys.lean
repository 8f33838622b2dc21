import ClientGen.Document.Value
import ClientGen.Proofs.Number.Binary64
import Mathlib.Data.List.Pairwise

/-! Keys that name the same entry, and keys that name different ones. Two keys name the same entry if they mean the
same: numbers by their value, whatever their kind, and all others by themselves. -/

set_option autoImplicit false

namespace ClientGen.Key

inductive Meaning where
  | text (s : String)
  | null
  /-- A finite number, by its count of smallest floating-point numbers. -/
  | number (scaled : Int)
  | infinite (x : Binary64)

/-- What a key means; a NaN means nothing. -/
def meaning? : Key → Option Meaning
  | .text s => some (.text s)
  | .null => some .null
  | .bool b => some (.number (Binary64.unitsOf (if b then 1 else 0)))
  | .int n => some (.number (Binary64.unitsOf n))
  | .float x =>
    if x.isFinite then some (.number x.scaled) else if x.isNaN then none else some (.infinite x)

section
variable {a b c k : Key} {x : Binary64}

theorem meaning?_float (x : Binary64) :
    (x.isFinite = true ∧ meaning? (.float x) = some (.number x.scaled)) ∨
    (x.isFinite = false ∧ x.isNaN = true ∧ meaning? (.float x) = none) ∨
    (x.isFinite = false ∧ x.isNaN = false ∧ meaning? (.float x) = some (.infinite x)) := by
  by_cases finite : x.isFinite = true
  · exact .inl ⟨finite, if_pos finite⟩
  have infinite : x.isFinite = false := by simpa using finite
  by_cases none : x.isNaN = true
  · exact .inr (.inl ⟨infinite, none, by rw [meaning?, if_neg finite, if_pos none]⟩)
  · exact .inr (.inr ⟨infinite, by simpa using none, by rw [meaning?, if_neg finite, if_neg none]⟩)

theorem same_text_iff {s : String} : same (.text s) k = true ↔ k.meaning? = some (.text s) := by
  cases k with
  | text t =>
    rw [same_text, beq_iff_eq, meaning?, Option.some.injEq, Meaning.text.injEq]
    exact eq_comm
  | float x =>
    rcases meaning?_float x with ⟨_, means⟩ | ⟨_, _, means⟩ | ⟨_, _, means⟩ <;> rw [means] <;>
      exact ⟨nofun, nofun⟩
  | _ => exact ⟨nofun, nofun⟩

theorem same_null_iff : same .null k = true ↔ k.meaning? = some .null := by
  cases k with
  | null => exact ⟨fun _ => rfl, fun _ => rfl⟩
  | float x =>
    rcases meaning?_float x with ⟨_, means⟩ | ⟨_, _, means⟩ | ⟨_, _, means⟩ <;> rw [means] <;>
      exact ⟨nofun, nofun⟩
  | _ => exact ⟨nofun, nofun⟩

theorem equalsInt_iff_meaning {n : Int} : x.equalsInt n = true ↔
    meaning? (.float x) = some (.number (Binary64.unitsOf n)) := by
  rw [Binary64.equalsInt_iff]
  rcases meaning?_float x with ⟨finite, means⟩ | ⟨infinite, _, means⟩ | ⟨infinite, _, means⟩ <;> simp [*]

theorem same_int_iff {n : Int} :
    same (.int n) k = true ↔ k.meaning? = some (.number (Binary64.unitsOf n)) := by
  have whole (m : Int) : (n == m) = true ↔
      some (Meaning.number (Binary64.unitsOf m)) = some (.number (Binary64.unitsOf n)) := by
    rw [beq_iff_eq, Option.some.injEq, Meaning.number.injEq, Binary64.unitsOf_inj, eq_comm]
  cases k with
  | bool b => exact whole _
  | int m => exact whole m
  | float x => exact equalsInt_iff_meaning
  | _ => exact ⟨nofun, nofun⟩

theorem same_finite_iff (finite : x.isFinite = true) :
    same (.float x) k = true ↔ k.meaning? = some (.number x.scaled) := by
  have whole (n : Int) : x.equalsInt n = true ↔
      some (Meaning.number (Binary64.unitsOf n)) = some (.number x.scaled) := by
    rw [Binary64.equalsInt_iff, and_iff_right finite, Option.some.injEq, Meaning.number.injEq, eq_comm]
  cases k with
  | bool b => exact whole _
  | int n => exact whole n
  | float y =>
    change x.same y = true ↔ _
    rcases meaning?_float y with ⟨other, means⟩ | ⟨other, _, means⟩ | ⟨other, _, means⟩ <;> rw [means]
    · rw [Binary64.same_iff_scaled finite other, Option.some.injEq, Meaning.number.injEq, eq_comm]
    · exact iff_of_false (Binary64.not_same_of_infinite finite other) nofun
    · exact iff_of_false (Binary64.not_same_of_infinite finite other) nofun
  | _ => exact ⟨nofun, nofun⟩

theorem same_infinite_iff (infinite : x.isFinite = false) :
    same (.float x) k = true ↔ x.isNaN = false ∧ k = .float x := by
  have fraction (n : Int) : x.equalsInt n ≠ true := by
    rw [ne_eq, Binary64.equalsInt_iff]
    simp [infinite]
  cases k with
  | bool b => exact iff_of_false (fraction _) nofun
  | int n => exact iff_of_false (fraction n) nofun
  | float y =>
    change x.same y = true ↔ _
    rw [Binary64.same_iff_of_infinite infinite, Key.float.injEq, eq_comm (a := y)]
  | _ => exact ⟨nofun, nofun⟩

theorem same_bool (b : Bool) : same (.bool b) k = same (.int (if b then 1 else 0)) k := by
  cases k <;> rfl

theorem meaning?_eq_infinite_iff {y : Binary64} : k.meaning? = some (.infinite y) ↔
    k = .float y ∧ y.isFinite = false ∧ y.isNaN = false := by
  cases k with
  | float x =>
    rcases meaning?_float x with ⟨finite, means⟩ | ⟨infinite, none, means⟩ | ⟨infinite, number, means⟩ <;>
      rw [means]
    · refine iff_of_false nofun ?_
      rintro ⟨⟨⟩, infinite, _⟩
      simp [finite] at infinite
    · refine iff_of_false nofun ?_
      rintro ⟨⟨⟩, _, number⟩
      simp [none] at number
    · constructor
      · rintro ⟨⟩
        exact ⟨rfl, infinite, number⟩
      · rintro ⟨⟨⟩, _⟩
        rfl
  | _ => exact iff_of_false nofun nofun

/-- Keys name the same entry exactly if they mean the same. -/
theorem same_iff : a.same b = true ↔ ∃ meaning, a.meaning? = some meaning ∧ b.meaning? = some meaning := by
  cases a with
  | text s => simp [same_text_iff, meaning?]
  | null => simp [same_null_iff, meaning?]
  | bool flag => simp only [same_bool, same_int_iff, meaning?, Option.some.injEq, exists_eq_left']
  | int n => simp only [same_int_iff, meaning?, Option.some.injEq, exists_eq_left']
  | float x =>
    rcases meaning?_float x with ⟨finite, means⟩ | ⟨infinite, none, means⟩ | ⟨infinite, number, means⟩
    · simp [same_finite_iff finite, means]
    · simp [same_infinite_iff infinite, means, none]
    · simp [same_infinite_iff infinite, means, number, meaning?_eq_infinite_iff, infinite]

theorem same_symm (same : a.same b = true) : b.same a = true := by
  obtain ⟨meaning, left, right⟩ := same_iff.mp same
  exact same_iff.mpr ⟨meaning, right, left⟩

theorem same_trans (first : a.same b = true) (second : b.same c = true) : a.same c = true := by
  obtain ⟨meaning, left, middle⟩ := same_iff.mp first
  obtain ⟨other, again, right⟩ := same_iff.mp second
  obtain rfl := Option.some.inj (middle.symm.trans again)
  exact same_iff.mpr ⟨meaning, left, right⟩

theorem same_congr (same : a.same b = true) : a.same c = b.same c := by
  rw [Bool.eq_iff_iff]
  exact ⟨same_trans (same_symm same), same_trans same⟩

end

section
variable {α : Type} {k name : Key} {entries : List (Key × α)}

theorem isSome_lookup_iff : (k.lookup entries).isSome = true ↔ ∃ entry ∈ entries, k.same entry.1 = true := by
  induction entries with
  | nil => simp [lookup]
  | cons entry rest ih =>
    rw [lookup]
    split
    next same => simp [same]
    next other => simp [other, ih]

theorem lookup_put {a : α} : k.lookup (name.put a entries) = if k.same name then some a else k.lookup entries := by
  induction entries with
  | nil => rfl
  | cons entry rest ih =>
    obtain ⟨taken, old⟩ := entry
    unfold put
    -- A third key names the same entry as both the new key and the one that is there, or as neither.
    by_cases found : name.same taken = true
    · rw [if_pos found, lookup, lookup]
      by_cases same : k.same name = true
      · rw [if_pos same, if_pos (same_trans same found)]
      · have other : ¬ k.same taken = true := fun also => same (same_trans also (same_symm found))
        rw [if_neg other, if_neg same, if_neg other]
    · rw [if_neg found, lookup, ih, lookup]
      by_cases same : k.same name = true
      · have other : ¬ k.same taken = true := fun also => found (same_trans (same_symm same) also)
        rw [if_neg other, if_pos same, if_pos same]
      · rw [if_neg same, if_neg same]

end

section
variable {α : Type} {k name : Key} {entries : List (Key × α)} {a b : α}

def Absent (k : Key) (entries : List (Key × α)) : Prop := ∀ entry ∈ entries, k.same entry.1 = false

theorem lookup_eq_none_iff : k.lookup entries = none ↔ k.Absent entries := by
  rw [← Option.not_isSome_iff_eq_none, isSome_lookup_iff]
  simp only [Absent, not_exists, not_and, Bool.not_eq_true]

theorem Absent.of_same (same : k.same name = true) (absent : name.Absent entries) : k.Absent entries :=
  fun entry among => (same_congr same).trans (absent entry among)

theorem put_cons_of_same (same : k.same name = true) :
    k.put a ((name, b) :: entries) = (name, a) :: entries := by
  rw [put, if_pos same]

theorem put_cons_of_apart (apart : k.same name = false) :
    k.put a ((name, b) :: entries) = (name, b) :: k.put a entries := by
  rw [put, if_neg (by simp [apart])]

theorem put_of_absent (absent : k.Absent entries) : k.put a entries = entries ++ [(k, a)] := by
  induction entries with
  | nil => rfl
  | cons entry rest ih =>
    obtain ⟨taken, old⟩ := entry
    obtain ⟨here, later⟩ := List.forall_mem_cons.mp absent
    rw [put_cons_of_apart here, ih later, List.cons_append]

theorem put_put (same : k.same name = true) : k.put b (name.put a entries) = name.put b entries := by
  induction entries with
  | nil => exact put_cons_of_same same
  | cons entry rest ih =>
    obtain ⟨taken, old⟩ := entry
    cases found : name.same taken with
    | true => rw [put_cons_of_same found, put_cons_of_same found, put_cons_of_same (same_trans same found)]
    | false =>
      have apart : k.same taken = false := (same_congr same).trans found
      rw [put_cons_of_apart found, put_cons_of_apart found, put_cons_of_apart apart, ih]

theorem put_comm (there : (k.lookup entries).isSome = true) (apart : k.same name = false) :
    k.put a (name.put b entries) = name.put b (k.put a entries) := by
  induction entries with
  | nil => cases there
  | cons entry rest ih =>
    obtain ⟨taken, old⟩ := entry
    -- The key that is there is put into its own entry, so only the other one can lengthen the list.
    cases found : k.same taken with
    | true =>
      have other : name.same taken = false := by
        rw [← Bool.not_eq_true] at apart ⊢
        exact fun also => apart (same_trans found (same_symm also))
      rw [put_cons_of_apart other, put_cons_of_same found, put_cons_of_same found, put_cons_of_apart other]
    | false =>
      rw [lookup, if_neg (by simp [found])] at there
      cases also : name.same taken with
      | true => rw [put_cons_of_same also, put_cons_of_apart found, put_cons_of_apart found, put_cons_of_same also]
      | false =>
        rw [put_cons_of_apart also, put_cons_of_apart found, put_cons_of_apart found, put_cons_of_apart also,
          ih there]

end

/-- No two of the keys name the same entry. -/
def Distinct (keys : List Key) : Prop := keys.Pairwise fun first second => first.same second = false

instance (keys : List Key) : Decidable (Distinct keys) := inferInstanceAs (Decidable (List.Pairwise _ keys))

section
variable {α : Type} {k : Key} {entry : Key × α} {entries rest : List (Key × α)} {a : α}

theorem Distinct.cons_iff : Distinct ((entry :: rest).map (·.1)) ↔
    entry.1.Absent rest ∧ Distinct (rest.map (·.1)) := by
  rw [List.map_cons, Distinct, List.pairwise_cons, List.forall_mem_map]
  rfl

theorem Distinct.put (distinct : Distinct (entries.map (·.1))) : Distinct ((k.put a entries).map (·.1)) := by
  induction entries with
  | nil => exact List.pairwise_singleton _ _
  | cons entry rest ih =>
    obtain ⟨taken, old⟩ := entry
    obtain ⟨apart, others⟩ := cons_iff.mp distinct
    cases found : k.same taken with
    | true =>
      rw [put_cons_of_same found]
      exact cons_iff.mpr ⟨apart, others⟩
    | false =>
      rw [put_cons_of_apart found]
      refine cons_iff.mpr ⟨?_, ih others⟩
      -- Only the new key may have joined the others, and it does not name this entry.
      rw [← Bool.not_eq_true] at found
      rw [← lookup_eq_none_iff, lookup_put, if_neg fun same => found (same_symm same)]
      exact lookup_eq_none_iff.mpr apart

end

variable {f : Key → Key} {keys : List Key}

theorem Distinct.map (distinct : Distinct keys)
    (apart : ∀ a ∈ keys, ∀ b ∈ keys, a.same b = false → (f a).same (f b) = false) :
    Distinct (keys.map f) := by
  rw [Distinct, List.pairwise_map]
  exact distinct.imp_of_mem fun left right => apart _ left _ right

theorem Distinct.eq_of_map (distinct : Distinct (keys.map f)) {a b : Key} {name : String} (left : a ∈ keys)
    (right : b ∈ keys) (first : f a = .text name) (second : f b = .text name) : a = b := by
  let Agree (a b : Key) : Prop := ∀ name, f a = .text name → f b = .text name → a = b
  have agree : keys.Pairwise Agree := by
    refine (List.pairwise_map.mp distinct).imp fun {a b} differ name first second => ?_
    rw [first, second, same_text, beq_self_eq_true] at differ
    cases differ
  have symmetric : Std.Symm Agree :=
    ⟨fun a b same name second first => (same name first second).symm⟩
  exact agree.forall_of_forall (fun _ _ _ _ _ => rfl) left right name first second

end ClientGen.Key
