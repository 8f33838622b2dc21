import ClientGen.Document.Access
import Mathlib.Data.List.Basic

/-! Values that name everything by texts, as JSON does, and what is read of them: it names everything by texts as
well. -/

set_option autoImplicit false

namespace ClientGen

namespace Value

mutual

/-- Whether all names in a value are texts, as those of JSON are. -/
def hasTextNames : Value → Bool
  | .list items => allHaveTextNames items
  | .object entries => entriesHaveTextNames entries
  | _ => true

def allHaveTextNames : List Value → Bool
  | [] => true
  | v :: rest => v.hasTextNames && allHaveTextNames rest

def entriesHaveTextNames : List (Key × Value) → Bool
  | [] => true
  | (name, v) :: rest => name.toValue.isText && v.hasTextNames && entriesHaveTextNames rest

end

theorem allHaveTextNames_iff {items : List Value} :
    allHaveTextNames items = true ↔ ∀ v ∈ items, v.hasTextNames = true := by
  induction items with
  | nil => simp [allHaveTextNames]
  | cons v rest ih => rw [allHaveTextNames, Bool.and_eq_true, ih, List.forall_mem_cons]

theorem entriesHaveTextNames_iff {entries : List (Key × Value)} : entriesHaveTextNames entries = true ↔
    ∀ entry ∈ entries, entry.1.toValue.isText = true ∧ entry.2.hasTextNames = true := by
  induction entries with
  | nil => simp [entriesHaveTextNames]
  | cons entry rest ih =>
    rw [entriesHaveTextNames, Bool.and_eq_true, Bool.and_eq_true, ih, List.forall_mem_cons]

theorem hasTextNames_of_lookup {entries : List (Key × Value)} {k : Key} {v : Value}
    (named : (Value.object entries).hasTextNames = true) (found : k.lookup entries = some v) :
    v.hasTextNames = true := by
  rw [hasTextNames, entriesHaveTextNames_iff] at named
  obtain ⟨name, among⟩ := Key.mem_of_lookup found
  exact (named _ among).2

theorem hasTextNames_of_get? {document v : Value} {name : String} (named : document.hasTextNames = true)
    (found : document.get? name = some v) : v.hasTextNames = true := by
  cases document with
  | object entries => exact hasTextNames_of_lookup named found
  | _ => cases found

theorem hasTextNames_orElse {v other : Value} (named : v.hasTextNames = true) (otherwise : other.hasTextNames = true) :
    (v.orElse other).hasTextNames = true := by
  unfold orElse
  split
  · exact named
  · exact otherwise

theorem hasTextNames_getD {v : Option Value} (named : ∀ held ∈ v, held.hasTextNames = true) :
    (v.getD .null).hasTextNames = true := by
  cases v with
  | none => rfl
  | some held => exact named held rfl

theorem hasTextNames_of_field {v held : Value} {name : String} (named : v.hasTextNames = true)
    (found : v.field name = .ok held) : held.hasTextNames = true := by
  cases v with
  | object entries =>
    cases found
    exact hasTextNames_getD fun _ found => hasTextNames_of_lookup named found
  | _ => cases found

end Value

theorem Key.exists_text {name : Key} (named : name.toValue.isText = true) : ∃ s, name = .text s := by
  cases name with
  | text s => exact ⟨s, rfl⟩
  | _ => cases named

end ClientGen
