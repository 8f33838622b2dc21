import ClientGen.Proofs.Schema.Activation

/-! Which steps of the conversion can notice a definition within itself: none but following a reference. All
else that can go wrong with a schema is ordinary. -/

set_option autoImplicit false

namespace ClientGen

open Outcome (Avoids)

theorem Value.elements_avoids (v : Value) : Avoids .circular v.elements := by
  cases v <;> rintro ⟨⟩

theorem Value.keySet_avoids (v : Value) : Avoids .circular v.keySet := by
  refine v.elements_avoids.bind fun elements _ => .mapM fun element _ => ?_
  cases element.toKey? <;> rintro ⟨⟩

theorem Value.isNonnegative_avoids (v : Value) : Avoids .circular v.isNonnegative := by
  cases v <;> rintro ⟨⟩

namespace SchemaType

theorem notASchema_ne (v : Value) : notASchema v ≠ .circular := by
  unfold notASchema
  split <;> rintro ⟨⟩

theorem notAMember_ne (v : Value) : notAMember v ≠ .circular := by
  unfold notAMember
  split
  · exact notASchema_ne v
  · rintro ⟨⟩

theorem countsItems_avoids (entries : List (Key × Value)) : Avoids .circular (countsItems entries) := by
  unfold countsItems
  split
  · exact Value.isNonnegative_avoids _
  · rintro ⟨⟩

theorem of_avoids (schema : Value) : Avoids .circular (of schema) := by
  cases schema with
  | object entries =>
    unfold of ofEntries
    dsimp only
    split
    · rintro ⟨⟩
    · rintro ⟨⟩
    · exact (Value.elements_avoids _).bind fun _ _ => .ok _
    · split
      · rintro ⟨⟩
      · split
        · rintro ⟨⟩
        · refine (countsItems_avoids entries).bind fun counts _ => ?_
          cases counts <;> rintro ⟨⟩
  | _ => exact fun same => notASchema_ne _ (Except.error.inj same)

theorem membersOf_avoids (entries : List (Key × Value)) : Avoids .circular (membersOf entries) := by
  unfold membersOf
  split
  · rintro ⟨⟩
  · refine Avoids.bind ?_ fun _ _ => .ok _
    refine (Value.elements_avoids _).bind fun elements _ => ?_
    cases elements with
    | nil => rintro ⟨⟩
    | cons first _ => exact fun same => notAMember_ne first (Except.error.inj same)
  · rintro ⟨⟩

theorem requiredKeys_avoids (entries : List (Key × Value)) :
    Avoids .circular (requiredKeys entries) := by
  unfold requiredKeys
  split
  · split
    · exact Value.keySet_avoids _
    · rintro ⟨⟩
  · rintro ⟨⟩

theorem declaredIn_avoids (entries : List (Key × Value)) : Avoids .circular (declaredIn entries) := by
  unfold declaredIn
  split
  · rintro ⟨⟩
  · split <;> rintro ⟨⟩
  · rintro ⟨⟩

theorem definitionsFor_avoids (document : Value) : Avoids .circular (definitionsFor document) := by
  refine Avoids.bind ?_ fun _ _ => .ok _
  cases document.orElse (.object []) <;> rintro ⟨⟩

theorem find_avoids {definitions : Except Failure Value} (known : Avoids .circular definitions)
    (reference : Value) : Avoids .circular (find definitions reference) := by
  refine known.bind fun definitions _ => ?_
  cases reference with
  | text path =>
    have has : Avoids .circular (definitions.has (refName path)) := by cases definitions <;> rintro ⟨⟩
    refine has.bind fun defined _ => ?_
    cases defined with
    | false => rintro ⟨⟩
    | true => cases definitions.get? (refName path) <;> simp [Avoids]
  | _ => rintro ⟨⟩

end SchemaType

theorem TypeExpr.nameText_avoids (name : Option Key) : Avoids .circular (nameText name) := by
  unfold nameText
  split
  · rintro ⟨⟩
  · split <;> rintro ⟨⟩
  · rintro ⟨⟩

namespace Dialect

theorem object_avoids (dialect : Dialect) (description : Value) (properties : List TypeExpr) :
    Avoids .circular (dialect.object description properties) := by
  refine Avoids.bind ?_ fun _ _ => .ok _
  exact .mapM fun property _ => (TypeExpr.nameText_avoids property.name).bind fun _ _ => .ok _

open SchemaType

theorem activation_avoids (dialect : Dialect) {within behind : Value → Except Failure TypeExpr}
    {schema : Value}
    (parts : ∀ inner, Part schema inner → Avoids .circular (within inner))
    (references : ∀ reference, Refers schema reference → Avoids .circular (behind reference)) :
    Avoids .circular (dialect.activation within behind schema) := by
  refine (of_avoids schema).bind fun type asked => ?_
  cases type with
  | wrapped inner => exact parts inner (.wrapped asked)
  | ref | enum | primitive => exact .ok _
  | array description element => exact (parts element (.element asked)).bind fun _ _ => .ok _
  | object description entries =>
    refine (membersOf_avoids entries).bind fun members composed => ?_
    -- A member fails by its kind, which is no circle, or as the schema behind it does.
    refine Avoids.bind (.mapM fun member among => ?_) fun inherited _ => ?_
    · cases member with
      | object member =>
        refine Avoids.bind ?_ fun _ _ => .ok _
        unfold memberType
        cases found : (Key.text "$ref").lookup member with
        | none => exact parts _ (.member asked composed among found)
        | some reference => exact references _ (.member asked composed among found)
      | _ => exact fun same => notAMember_ne _ (Except.error.inj same)
    refine (requiredKeys_avoids entries).bind fun required _ => ?_
    refine (declaredIn_avoids entries).bind fun declared listed => ?_
    refine Avoids.bind (.mapM fun property among => ?_) fun own _ => dialect.object_avoids _ _
    exact (parts _ (.property asked listed among)).bind fun _ _ => .ok _

end Dialect

end ClientGen
