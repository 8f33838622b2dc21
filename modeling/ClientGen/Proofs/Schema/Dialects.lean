import ClientGen.Proofs.Schema.Definitions
import Mathlib.Data.Option.Defs

/-! The two dialects side by side. They write a type in different ways, but none of the ways fails where the
other does not, and no later step of the conversion reads a text that was written before. -/

set_option autoImplicit false

namespace ClientGen

/-- Type expressions that differ in their texts only, and whose parts do so as well. -/
inductive TypeExpr.SameButText : TypeExpr → TypeExpr → Prop where
  | intro {first second : TypeExpr} : first.kind = second.kind → first.description = second.description →
      first.target = second.target → first.name = second.name → first.optional = second.optional →
      Option.Rel SameButText first.element second.element →
      List.Forall₂ SameButText first.properties second.properties → SameButText first second

namespace TypeExpr.SameButText

theorem name_eq {first second : TypeExpr} (same : SameButText first second) :
    first.name = second.name := by
  cases same
  assumption

theorem plain (kind : TypeKind) (first second : String) (description : Value) :
    SameButText (TypeExpr.plain kind first description) (TypeExpr.plain kind second description) :=
  .intro rfl rfl rfl rfl rfl .none .nil

theorem asProperty {first second : TypeExpr} (same : SameButText first second) (name : Key)
    (optional : Bool) : SameButText (first.asProperty name optional) (second.asProperty name optional) := by
  cases same with
  | intro kind description target _ _ element properties =>
    exact .intro kind description target rfl rfl element properties

theorem memberText {first second : TypeExpr} (same : SameButText first second) :
    Outcome.Related (fun _ => False) (fun _ _ => True) first.memberText second.memberText := by
  unfold TypeExpr.memberText
  rw [same.name_eq]
  exact .bind_same fun _ _ => .ok trivial

end TypeExpr.SameButText

namespace Dialect

open SchemaType TypeExpr

theorem writes_sameButText (first second : Dialect) :
    Writes (fun _ => False) SameButText first second where
  ref _ _ := .intro rfl rfl rfl rfl rfl .none .nil
  plain kind text description := .plain kind text text description
  array _ _ _ same := .intro rfl rfl rfl rfl rfl (.some same) .nil
  property name optional _ _ same := same.asProperty name optional
  properties same := by
    cases same
    assumption
  object description as bs same := by
    refine Outcome.Related.bind (.mapM (same.imp fun _ _ => SameButText.memberText)) fun _ _ _ => ?_
    exact .ok (.intro rfl rfl rfl rfl rfl .none same)

/-- Any two dialects convert a schema alike, whatever definitions are left. -/
theorem convert_sameButText (first second : Dialect) {definitions : Except Failure Value}
    {available : List (Key × Value)} (remaining : Remaining definitions available) (schema : Value) :
    Outcome.Related (fun _ => False) SameButText (first.convert definitions available schema)
      (second.convert definitions available schema) := by
  refine conversion_induction ?_ available remaining schema
  intro available schema remaining parts references
  rw [convert_eq_activation, convert_eq_activation]
  refine activation_related (writes_sameButText first second) parts fun reference refers => ?_
  rw [convertReferred_eq first remaining, convertReferred_eq second remaining]
  refine .bind_same fun found sought => ?_
  obtain ⟨name, definition⟩ := found
  cases left : (Key.text name).lookup available with
  | none => exact .error _
  | some other =>
    obtain rfl := remaining.eq_of_find sought left
    exact references reference name other refers sought left

theorem typeOf_eq_error_iff (first second : Dialect) {document schema : Value} {failure : Failure} :
    first.typeOf document schema = .error failure ↔ second.typeOf document schema = .error failure :=
  (convert_sameButText first second (.all (definitionsFor document)) schema).eq_error_iff

/-- In TypeScript and in Flow a schema either fails to have a type for the same reason, or has types that
differ in nothing but their texts. -/
theorem typeOf_typescript_flow (document schema : Value) :
    (∃ failure, typescript.typeOf document schema = .error failure ∧
      flow.typeOf document schema = .error failure) ∨
    ∃ first second, typescript.typeOf document schema = .ok first ∧
      flow.typeOf document schema = .ok second ∧ SameButText first second := by
  have related := convert_sameButText typescript flow (.all (definitionsFor document)) schema
  change Outcome.Related _ _ (typescript.typeOf document schema) (flow.typeOf document schema) at related
  generalize typescript.typeOf document schema = first at related ⊢
  generalize flow.typeOf document schema = second at related ⊢
  cases related with
  | ok same => exact .inr ⟨_, _, rfl, rfl, same⟩
  | error failure => exact .inl ⟨failure, rfl, rfl⟩
  | stopped _ never => exact never.elim

end Dialect

end ClientGen
