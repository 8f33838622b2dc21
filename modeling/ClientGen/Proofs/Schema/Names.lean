import ClientGen.Proofs.Schema.Invariant

/-! The names of definitions in a dialect. A reserved word is set apart by a suffix, which never gives another
reserved word but may give the name of another definition. All references in a type go by these names. -/

set_option autoImplicit false

namespace ClientGen

namespace Dialect

variable {dialect : Dialect} {first second : String}

theorem typeName_of_mem (reserved : first ∈ dialect.reservedWords) : dialect.typeName first = first ++ "Type" := by
  simp [typeName, reserved]

theorem typeName_of_notMem (free : first ∉ dialect.reservedWords) : dialect.typeName first = first := by
  simp [typeName, free]

@[simp] theorem typeName_typescript (name : String) : typescript.typeName name = name :=
  typeName_of_notMem List.not_mem_nil

theorem suffixed_notMem_reservedWords (reserved : first ∈ dialect.reservedWords) :
    first ++ "Type" ∉ dialect.reservedWords := by
  cases dialect with
  | typescript => cases reserved
  | flow =>
    have each : ∀ word ∈ flow.reservedWords, word ++ "Type" ∉ flow.reservedWords := by decide +kernel
    exact each first reserved

theorem typeName_notMem_reservedWords (dialect : Dialect) (name : String) :
    dialect.typeName name ∉ dialect.reservedWords := by
  by_cases reserved : name ∈ dialect.reservedWords
  · rw [typeName_of_mem reserved]
    exact suffixed_notMem_reservedWords reserved
  · rwa [typeName_of_notMem reserved]

/-- The second definition has the name that a first one gets because its own is reserved. -/
def TakesNameOf (dialect : Dialect) (second first : String) : Prop :=
  first ∈ dialect.reservedWords ∧ second = first ++ "Type"

theorem typeName_eq_iff : dialect.typeName first = dialect.typeName second ↔
    first = second ∨ dialect.TakesNameOf second first ∨ dialect.TakesNameOf first second := by
  -- By which of the two names is reserved, since only a reserved one is changed.
  by_cases left : first ∈ dialect.reservedWords <;> by_cases right : second ∈ dialect.reservedWords
  · rw [typeName_of_mem left, typeName_of_mem right, String.append_left_inj]
    refine ⟨.inl, ?_⟩
    rintro (same | ⟨_, rfl⟩ | ⟨_, rfl⟩)
    · exact same
    · exact absurd right (suffixed_notMem_reservedWords left)
    · exact absurd left (suffixed_notMem_reservedWords right)
  · rw [typeName_of_mem left, typeName_of_notMem right]
    refine ⟨fun same => .inr (.inl ⟨left, same.symm⟩), ?_⟩
    rintro (rfl | ⟨_, same⟩ | ⟨reserved, _⟩)
    · exact absurd left right
    · exact same.symm
    · exact absurd reserved right
  · rw [typeName_of_notMem left, typeName_of_mem right]
    refine ⟨fun same => .inr (.inr ⟨right, same⟩), ?_⟩
    rintro (rfl | ⟨reserved, _⟩ | ⟨_, same⟩)
    · exact absurd right left
    · exact absurd reserved left
    · exact same
  · rw [typeName_of_notMem left, typeName_of_notMem right]
    refine ⟨.inl, ?_⟩
    rintro (same | ⟨reserved, _⟩ | ⟨reserved, _⟩)
    · exact same
    · exact absurd reserved left
    · exact absurd reserved right

end Dialect

namespace TypeExpr

/-- If the type is a reference, its text is the name of what it refers to. -/
def RefersByName (dialect : Dialect) (type : TypeExpr) : Prop :=
  type.kind = .ref → ∃ target, type.target = some target ∧ type.text = dialect.typeName target

theorem RefersByName.of_ne_ref {dialect : Dialect} {type : TypeExpr} (other : type.kind ≠ .ref) :
    RefersByName dialect type :=
  fun ref => absurd ref other

end TypeExpr

namespace Dialect

open TypeExpr

theorem invariant_refersByName (dialect : Dialect) :
    dialect.Invariant (Everywhere (RefersByName dialect)) (Everywhere (RefersByName dialect)) := by
  refine .everywhere ?ref ?enum ?primitive ?array ?property ?object
  case ref => exact fun description target _ => ⟨target, rfl, rfl⟩
  case enum => exact fun description values => .of_ne_ref (by rintro ⟨⟩)
  case primitive => exact fun description which => by cases which <;> exact .of_ne_ref (by rintro ⟨⟩)
  case array => exact fun description element _ => .of_ne_ref (by rintro ⟨⟩)
  -- A property keeps the kind, the target and the text of its type.
  case property => exact fun name optional type holds => holds.here
  case object =>
    intro description properties _ type done
    obtain ⟨members, _, same⟩ := Outcome.bind_eq_ok.mp done
    cases same
    exact .of_ne_ref (by rintro ⟨⟩)

theorem typeOf_refersByName {dialect : Dialect} {document schema : Value} {type : TypeExpr}
    (converted : dialect.typeOf document schema = .ok type) : type.Everywhere (RefersByName dialect) :=
  dialect.invariant_refersByName.typeOf document schema type converted

end Dialect

end ClientGen
