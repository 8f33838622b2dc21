import ClientGen.Document.Access
import Mathlib.Data.List.Basic

/-! Objects that have the same entries outside certain names cannot be told apart by reading any other
entry. -/

set_option autoImplicit false

namespace ClientGen.Value

/-- Both values are objects, and they have the same entries under all names that are not set apart. -/
structure AgreeOutside (apart : List String) (first second : Value) : Prop where
  first_object : ∃ entries, first = .object entries
  second_object : ∃ entries, second = .object entries
  same : ∀ name, name ∉ apart → first.get? name = second.get? name

namespace AgreeOutside

variable {apart : List String} {first second : Value} {name : String}

theorem field?_eq (agree : AgreeOutside apart first second) (other : name ∉ apart) :
    first.field? name = second.field? name := by
  obtain ⟨left, rfl⟩ := agree.first_object
  obtain ⟨right, rfl⟩ := agree.second_object
  exact congrArg Except.ok (agree.same name other)

theorem field_eq (agree : AgreeOutside apart first second) (other : name ∉ apart) :
    first.field name = second.field name := by
  unfold field
  rw [agree.field?_eq other]

theorem has_eq (agree : AgreeOutside apart first second) (other : name ∉ apart) :
    first.has name = second.has name := by
  obtain ⟨left, rfl⟩ := agree.first_object
  obtain ⟨right, rfl⟩ := agree.second_object
  exact congrArg (fun found => Except.ok found.isSome) (agree.same name other)

end AgreeOutside

end ClientGen.Value
