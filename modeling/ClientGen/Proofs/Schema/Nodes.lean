import ClientGen.Schema.Expression
import Mathlib.Logic.Relation

/-! The types within a type: its elements and properties, theirs, and so on. There are finitely many, so what is
said of all of them can be checked. -/

set_option autoImplicit false

namespace ClientGen

namespace TypeExpr

inductive Child (parent : TypeExpr) : TypeExpr → Prop where
  | element {child : TypeExpr} : parent.element = some child → Child parent child
  | property {child : TypeExpr} : child ∈ parent.properties → Child parent child

theorem Child.asProperty_iff {type child : TypeExpr} {name : Key} {optional : Bool} :
    Child (type.asProperty name optional) child ↔ Child type child := by
  constructor
  · rintro (found | among)
    · exact .element found
    · exact .property among
  · rintro (found | among)
    · exact .element found
    · exact .property among

/-- A type itself or one of the types within it. -/
def Node (type node : TypeExpr) : Prop := Relation.ReflTransGen Child type node

mutual

def nodes : TypeExpr → List TypeExpr
  | type@⟨_, _, _, _, element, properties, _, _⟩ => type :: (elementNodes element ++ propertyNodes properties)

def elementNodes : Option TypeExpr → List TypeExpr
  | none => []
  | some element => element.nodes

def propertyNodes : List TypeExpr → List TypeExpr
  | [] => []
  | property :: rest => property.nodes ++ propertyNodes rest

end

mutual

theorem node_of_mem {node : TypeExpr} : ∀ {type : TypeExpr}, node ∈ type.nodes → Node type node
  | ⟨_, _, _, _, element, properties, _, _⟩, listed => by
    rw [nodes, List.mem_cons, List.mem_append] at listed
    rcases listed with rfl | below | below
    · exact .refl
    · obtain ⟨child, rfl, reached⟩ := node_of_mem_element below
      exact .head (.element rfl) reached
    · obtain ⟨child, among, reached⟩ := node_of_mem_properties below
      exact .head (.property among) reached

theorem node_of_mem_element {node : TypeExpr} : ∀ {element : Option TypeExpr}, node ∈ elementNodes element →
    ∃ child, element = some child ∧ Node child node
  | none, listed => by cases listed
  | some child, listed => ⟨child, rfl, node_of_mem (by rwa [elementNodes] at listed)⟩

theorem node_of_mem_properties {node : TypeExpr} : ∀ {properties : List TypeExpr},
    node ∈ propertyNodes properties → ∃ child ∈ properties, Node child node
  | [], listed => by cases listed
  | property :: rest, listed => by
    rw [propertyNodes, List.mem_append] at listed
    rcases listed with here | later
    · exact ⟨property, List.mem_cons_self, node_of_mem here⟩
    · obtain ⟨child, among, reached⟩ := node_of_mem_properties later
      exact ⟨child, List.mem_cons_of_mem property among, reached⟩

end

theorem mem_nodes_self (type : TypeExpr) : type ∈ type.nodes := by
  obtain ⟨_, _, _, _, _, _, _, _⟩ := type
  rw [nodes]
  exact List.mem_cons_self

theorem nodes_subset_propertyNodes {child : TypeExpr} {properties : List TypeExpr}
    (among : child ∈ properties) : child.nodes ⊆ propertyNodes properties := by
  induction properties with
  | nil => cases among
  | cons property rest ih =>
    rw [propertyNodes]
    rcases List.mem_cons.mp among with rfl | later
    · exact List.subset_append_left _ _
    · exact List.Subset.trans (ih later) (List.subset_append_right _ _)

theorem Child.nodes_subset {type child : TypeExpr} (step : Child type child) : child.nodes ⊆ type.nodes := by
  obtain ⟨_, _, _, _, element, properties, _, _⟩ := type
  rw [nodes]
  refine List.Subset.trans ?_ (List.subset_cons_self _ _)
  rcases step with found | among
  · cases found
    exact List.subset_append_left _ _
  · exact List.Subset.trans (nodes_subset_propertyNodes among) (List.subset_append_right _ _)

theorem node_iff_mem {type node : TypeExpr} : Node type node ↔ node ∈ type.nodes := by
  constructor
  · intro reached
    induction reached using Relation.ReflTransGen.head_induction_on with
    | refl => exact mem_nodes_self node
    | head step _ ih => exact step.nodes_subset ih
  · exact node_of_mem

def Everywhere (Q : TypeExpr → Prop) (type : TypeExpr) : Prop := ∀ node, Node type node → Q node

instance {Q : TypeExpr → Prop} [DecidablePred Q] (type : TypeExpr) : Decidable (Everywhere Q type) :=
  decidable_of_iff (∀ node ∈ type.nodes, Q node) (by simp only [Everywhere, node_iff_mem])

namespace Everywhere

variable {Q : TypeExpr → Prop} {type child : TypeExpr}

theorem intro (here : Q type) (within : ∀ child, Child type child → Everywhere Q child) :
    Everywhere Q type := by
  intro node reached
  rcases reached.cases_head with rfl | ⟨child, step, reached⟩
  · exact here
  · exact within child step node reached

theorem here (everywhere : Everywhere Q type) : Q type := everywhere type .refl

theorem of_child (everywhere : Everywhere Q type) (step : Child type child) : Everywhere Q child :=
  fun node reached => everywhere node (.head step reached)

theorem of_leaf (here : Q type) (noElement : type.element = none) (noProperties : type.properties = []) :
    Everywhere Q type := by
  refine intro here ?_
  rintro child (found | among)
  · rw [noElement] at found
    cases found
  · rw [noProperties] at among
    cases among

theorem asProperty {name : Key} {optional : Bool} (everywhere : Everywhere Q type)
    (here : Q (type.asProperty name optional)) : Everywhere Q (type.asProperty name optional) :=
  intro here fun _ step => everywhere.of_child (Child.asProperty_iff.mp step)

end Everywhere

end TypeExpr

end ClientGen
