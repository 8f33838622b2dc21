import ClientGen.Proofs.Schema.Definitions
import ClientGen.Proofs.Schema.Nodes

/-! What holds of every type that a dialect writes. It is shown of each way of writing a type, given that it
holds of the parts, and then holds of all that the conversion gives, whatever references it follows. -/

set_option autoImplicit false

namespace ClientGen

namespace Dialect

open SchemaType
open Outcome (Yields)

inductive DeclaresName (schema : Value) : Key → Prop where
  | intro {description inner : Value} {entries : List (Key × Value)} {name : Key}
      {declared : { declared : List (Key × Value) //
        Value.entrySizes declared ≤ Value.entrySizes entries }} :
      of schema = .ok (.object description entries) → declaredIn entries = .ok declared →
      (name, inner) ∈ declared.1 → DeclaresName schema name

/-- Schemas of a sort, whose parts and all definitions are of the same sort, and the names that they declare. -/
structure Closed (definitions : Except Failure Value) (OfSchema : Value → Prop) (OfName : Key → Prop) : Prop where
  part : ∀ {schema inner}, OfSchema schema → Part schema inner → OfSchema inner
  definition : ∀ {name definition}, definitionAt definitions name = some definition → OfSchema definition
  name : ∀ {schema name}, OfSchema schema → DeclaresName schema name → OfName name

/-- Statements about types and about properties, whose names are of a sort, that hold of what the dialect writes if
they hold of what it is written from. -/
structure NamedInvariant (dialect : Dialect) (OfName : Key → Prop) (OfType OfProperty : TypeExpr → Prop) :
    Prop where
  ref : ∀ description target, OfType (dialect.ref description target)
  enum : ∀ description (values : List Value), OfType (.enum description (values.map Value.json))
  primitive : ∀ description which, OfType (.primitive description which)
  array : ∀ description {element}, OfType element → OfType (dialect.array description element)
  property : ∀ {name} optional {type}, OfName name → OfType type → OfProperty (type.asProperty name optional)
  properties : ∀ {type}, OfType type → ∀ property ∈ type.properties, OfProperty property
  object : ∀ description {properties}, (∀ property ∈ properties, OfProperty property) →
    Yields OfType (dialect.object description properties)

namespace NamedInvariant

variable {dialect : Dialect} {OfName : Key → Prop} {OfType OfProperty : TypeExpr → Prop}
  {within behind : Value → Except Failure TypeExpr}

theorem activation (invariant : NamedInvariant dialect OfName OfType OfProperty) {schema : Value}
    (parts : ∀ inner, Part schema inner → Yields OfType (within inner))
    (references : ∀ reference, Refers schema reference → Yields OfType (behind reference))
    (names : ∀ name, DeclaresName schema name → OfName name) :
    Yields OfType (dialect.activation within behind schema) := by
  refine .bind_any fun type asked => ?_
  cases type with
  | wrapped inner => exact parts inner (.wrapped asked)
  | ref description target => exact .ok (invariant.ref description target)
  | enum description literals =>
    obtain ⟨values, rfl⟩ := of_enum asked
    exact .ok (invariant.enum description values)
  | primitive description which => exact .ok (invariant.primitive description which)
  | array description element =>
    exact (parts element (.element asked)).bind fun _ _ holds => .ok (invariant.array description holds)
  | object description entries =>
    refine .bind_any fun members composed => ?_
    have contributed : ∀ member ∈ members.1,
        Yields (fun properties => ∀ property ∈ properties, OfProperty property)
          (memberProperties within behind member) := by
      intro member among
      cases member with
      | object member =>
        refine Yields.bind (P := OfType) ?_ fun _ _ holds => .ok (invariant.properties holds)
        unfold memberType
        cases found : (Key.text "$ref").lookup member with
        | none => exact parts _ (.member asked composed among found)
        | some reference => exact references _ (.member asked composed among found)
      | _ => exact .error _
    refine (Yields.mapM contributed).bind fun inherited _ others => ?_
    refine .bind_any fun required _ => .bind_any fun declared listed => ?_
    have declares : ∀ property ∈ declared.1, Yields OfProperty (declaredProperty within required property) :=
      fun property among => (parts _ (.property asked listed among)).bind fun _ _ holds =>
        .ok (invariant.property _ (names _ (.intro asked listed among)) holds)
    refine (Yields.mapM declares).bind fun own _ mine => invariant.object description ?_
    intro property among
    rcases List.mem_append.mp among with before | here
    · obtain ⟨properties, listed, among⟩ := List.mem_flatten.mp before
      exact others properties listed property among
    · exact mine property here

/-- All that a schema of the sort is converted to keeps what the ways of writing types keep. -/
theorem convert (invariant : NamedInvariant dialect OfName OfType OfProperty) {definitions : Except Failure Value}
    {OfSchema : Value → Prop} (closed : Closed definitions OfSchema OfName) {available : List (Key × Value)}
    (remaining : Remaining definitions available) (schema : Value) :
    OfSchema schema → Yields OfType (dialect.convert definitions available schema) := by
  refine conversion_induction ?_ available remaining schema
  intro available schema remaining parts references holds
  rw [convert_eq_activation]
  refine invariant.activation (fun inner part => parts inner part (closed.part holds part))
    (fun reference refers => ?_) fun name declares => closed.name holds declares
  rw [convertReferred_eq dialect remaining]
  refine .bind_any fun found sought => ?_
  obtain ⟨name, definition⟩ := found
  cases left : (Key.text name).lookup available with
  | none => exact .error _
  | some other =>
    obtain rfl := remaining.eq_of_find sought left
    exact references reference name other refers sought left (closed.definition (remaining name other left))

theorem typeOf (invariant : NamedInvariant dialect OfName OfType OfProperty) {document : Value}
    {OfSchema : Value → Prop} (closed : Closed (definitionsFor document) OfSchema OfName) {schema : Value}
    (holds : OfSchema schema) : Yields OfType (dialect.typeOf document schema) :=
  invariant.convert closed (.all _) schema holds

end NamedInvariant

/-- Statements about types and about properties that hold of what the dialect writes if they hold of what it
is written from. -/
structure Invariant (dialect : Dialect) (OfType OfProperty : TypeExpr → Prop) : Prop where
  ref : ∀ description target, OfType (dialect.ref description target)
  enum : ∀ description (values : List Value), OfType (.enum description (values.map Value.json))
  primitive : ∀ description which, OfType (.primitive description which)
  array : ∀ description {element}, OfType element → OfType (dialect.array description element)
  property : ∀ name optional {type}, OfType type → OfProperty (type.asProperty name optional)
  properties : ∀ {type}, OfType type → ∀ property ∈ type.properties, OfProperty property
  object : ∀ description {properties}, (∀ property ∈ properties, OfProperty property) →
    Yields OfType (dialect.object description properties)

namespace Invariant

variable {dialect : Dialect} {OfType OfProperty : TypeExpr → Prop}

theorem closed_any (definitions : Except Failure Value) : Closed definitions (fun _ => True) fun _ => True :=
  ⟨fun _ _ => trivial, fun _ => trivial, fun _ _ => trivial⟩

theorem named (invariant : Invariant dialect OfType OfProperty) :
    NamedInvariant dialect (fun _ => True) OfType OfProperty :=
  { invariant with property := fun optional _ _ holds => invariant.property _ optional holds }

theorem typeOf (invariant : Invariant dialect OfType OfProperty) (document schema : Value) :
    Yields OfType (dialect.typeOf document schema) :=
  invariant.named.typeOf (closed_any _) trivial

/-- A statement holds everywhere in what the dialect writes if it holds of each type that is written from types
in which it holds everywhere. -/
theorem everywhere {Q : TypeExpr → Prop} (ref : ∀ description target, Q (dialect.ref description target))
    (enum : ∀ description (values : List Value), Q (.enum description (values.map Value.json)))
    (primitive : ∀ description which, Q (.primitive description which))
    (array : ∀ description {element : TypeExpr}, element.Everywhere Q → Q (dialect.array description element))
    (property : ∀ name optional {type : TypeExpr}, type.Everywhere Q → Q (type.asProperty name optional))
    (object : ∀ description {properties : List TypeExpr},
      (∀ property ∈ properties, property.Everywhere Q) → Yields Q (dialect.object description properties)) :
    dialect.Invariant (TypeExpr.Everywhere Q) (TypeExpr.Everywhere Q) where
  ref description target := .of_leaf (ref description target) rfl rfl
  enum description values := .of_leaf (enum description values) rfl rfl
  primitive description which := by
    have here := primitive description which
    cases which <;> exact .of_leaf here rfl rfl
  array description element holds := by
    refine .intro (array description holds) ?_
    rintro child (found | among)
    · cases found
      exact holds
    · cases among
  property name optional type holds := holds.asProperty (property name optional holds)
  properties holds property among := holds.of_child (.property among)
  object description properties each := by
    intro type done
    refine .intro (object description each type done) ?_
    obtain ⟨members, _, same⟩ := Outcome.bind_eq_ok.mp done
    cases same
    rintro child (found | among)
    · cases found
    · exact each child among

end Invariant

end Dialect

end ClientGen
