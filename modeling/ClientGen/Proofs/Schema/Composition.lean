import ClientGen.Proofs.Document.Keys
import ClientGen.Proofs.Schema.Stack

/-! What an object is composed of. Each of the objects behind a composition is a layer, which declares properties
and requires some of them. The properties of the type are those that the layers declare, one layer after
another. Layers know nothing of each other: what two of them declare is there twice, and none requires what
another declares. -/

set_option autoImplicit false

namespace ClientGen

/-- What one of the objects of a composition declares itself. -/
structure Layer where
  required : List Key
  declared : List (Key × Value)

structure Declaration where
  name : Key
  schema : Value
  required : Bool

namespace Layer

def names (layer : Layer) : List Key := layer.declared.map Prod.fst

def declarations (layer : Layer) : List Declaration :=
  layer.declared.map fun property => ⟨property.1, property.2, layer.required.any property.1.same⟩

theorem names_declarations (layer : Layer) : layer.declarations.map Declaration.name = layer.names := by
  simp [declarations, names]

end Layer

namespace SchemaType

def isBare : SchemaType → Bool
  | .wrapped _ | .object _ _ => false
  | _ => true

def memberSchema (definitions : Except Failure Value) : Value → Except Failure Value
  | .object member =>
    match (Key.text "$ref").lookup member with
    | some reference => do return (← find definitions reference).2
    | none => .ok (.object member)
  | other => .error (notAMember other)

/-- The layers that some schemas are composed of, those of the members of an object before its own. -/
inductive Composes (definitions : Except Failure Value) : List Value → List Layer → Prop where
  | done : Composes definitions [] []
  | wrapped {schema inner : Value} {rest : List Value} {layers : List Layer} :
      of schema = .ok (.wrapped inner) → Composes definitions (inner :: rest) layers →
      Composes definitions (schema :: rest) layers
  | bare {schema : Value} {type : SchemaType} {rest : List Value} {layers : List Layer} :
      of schema = .ok type → type.isBare = true → Composes definitions rest layers →
      Composes definitions (schema :: rest) layers
  | object {schema description : Value} {entries declared : List (Key × Value)}
      {members schemas rest : List Value} {required : List Key} {layers more : List Layer}
      {fit : Value.sizes members ≤ Value.entrySizes entries}
      {fits : Value.entrySizes declared ≤ Value.entrySizes entries} :
      of schema = .ok (.object description entries) → membersOf entries = .ok ⟨members, fit⟩ →
      members.mapM (memberSchema definitions) = .ok schemas → requiredKeys entries = .ok required →
      declaredIn entries = .ok ⟨declared, fits⟩ → Composes definitions schemas layers →
      Composes definitions rest more →
      Composes definitions (schema :: rest) (layers ++ ⟨required, declared⟩ :: more)

namespace Composes

variable {definitions : Except Failure Value} {schemas rest : List Value} {layers more : List Layer}

theorem append (first : Composes definitions schemas layers) (second : Composes definitions rest more) :
    Composes definitions (schemas ++ rest) (layers ++ more) := by
  induction first with
  | done => exact second
  | wrapped asked _ ih => exact .wrapped asked ih
  | bare asked none _ ih => exact .bare asked none ih
  | object asked composed stand requires declares within _ _ ih =>
    rw [List.append_assoc, List.cons_append]
    exact .object asked composed stand requires declares within ih

theorem unique (first : Composes definitions schemas layers) (second : Composes definitions schemas more) :
    layers = more := by
  -- The rules exclude each other by what the schema asks for, and what they ask for is the same on both sides.
  induction first generalizing more with
  | done =>
    cases second
    rfl
  | wrapped asked _ ih =>
    cases second with
    | wrapped other within =>
      obtain ⟨rfl⟩ := asked.symm.trans other
      exact ih within
    | bare other none =>
      obtain ⟨rfl⟩ := asked.symm.trans other
      cases none
    | object other => cases asked.symm.trans other
  | bare asked none _ ih =>
    cases second with
    | wrapped other =>
      obtain ⟨rfl⟩ := asked.symm.trans other
      cases none
    | bare _ _ others => exact ih others
    | object other =>
      obtain ⟨rfl⟩ := asked.symm.trans other
      cases none
  | object asked composed stand requires declares _ _ ihWithin ih =>
    cases second with
    | wrapped other => cases asked.symm.trans other
    | bare other none =>
      obtain ⟨rfl⟩ := asked.symm.trans other
      cases none
    | object other composedOther standOther requiresOther declaresOther within others =>
      obtain ⟨rfl⟩ := asked.symm.trans other
      obtain ⟨rfl⟩ := composed.symm.trans composedOther
      obtain ⟨rfl⟩ := stand.symm.trans standOther
      obtain ⟨rfl⟩ := requires.symm.trans requiresOther
      obtain ⟨rfl⟩ := declares.symm.trans declaresOther
      rw [ihWithin within, ih others]

end Composes

end SchemaType

namespace Declaration

def Declares (declaration : Declaration) (property : TypeExpr) : Prop :=
  property.name = some declaration.name ∧ property.optional = !declaration.required

def Gives (dialect : Dialect) (document : Value) (declaration : Declaration) (property : TypeExpr) : Prop :=
  ∃ type, dialect.typeOf document declaration.schema = .ok type ∧
    property = type.asProperty declaration.name (!declaration.required)

theorem Gives.declares {dialect : Dialect} {document : Value} {declaration : Declaration} {property : TypeExpr}
    (gives : Gives dialect document declaration property) : declaration.Declares property := by
  obtain ⟨type, _, rfl⟩ := gives
  exact ⟨rfl, rfl⟩

end Declaration

namespace Dialect

open SchemaType

/-- The properties are those that the layers of some schemas declare. -/
def Layered (dialect : Dialect) (document : Value) (schemas : List Value) (properties : List TypeExpr) : Prop :=
  ∃ layers, Composes (definitionsFor document) schemas layers ∧
    List.Forall₂ (Declaration.Gives dialect document) (layers.flatMap Layer.declarations) properties

theorem Layered.cons {dialect : Dialect} {document schema : Value} {rest : List Value}
    {properties more : List TypeExpr} (first : dialect.Layered document [schema] properties)
    (second : dialect.Layered document rest more) :
    dialect.Layered document (schema :: rest) (properties ++ more) := by
  obtain ⟨layers, composes, each⟩ := first
  obtain ⟨others, composesMore, eachMore⟩ := second
  refine ⟨layers ++ others, composes.append composesMore, ?_⟩
  rw [List.flatMap_append]
  exact List.rel_append each eachMore

theorem memberProperties_eq (within : Value → Except Failure TypeExpr) (definitions : Except Failure Value)
    (member : Value) :
    memberProperties within (fun reference => do within (← find definitions reference).2) member = (do
      let schema ← memberSchema definitions member
      return (← within schema).properties) := by
  cases member with
  | object member =>
    cases found : (Key.text "$ref").lookup member <;>
      simp [memberProperties, memberType, memberSchema, found, bind_assoc]
  | _ => rfl

theorem layered_of_members {dialect : Dialect} {document : Value} {members : List Value}
    {inherited : List (List TypeExpr)}
    (each : List.Forall₂ (fun member properties => ∃ schema,
      memberSchema (definitionsFor document) member = .ok schema ∧
        dialect.Layered document [schema] properties) members inherited) :
    ∃ schemas, members.mapM (memberSchema (definitionsFor document)) = .ok schemas ∧
      dialect.Layered document schemas inherited.flatten := by
  induction each with
  | nil => exact ⟨[], rfl, [], .done, .nil⟩
  | cons here _ ih =>
    obtain ⟨schema, stands, layered⟩ := here
    obtain ⟨schemas, others, rest⟩ := ih
    refine ⟨schema :: schemas, ?_, layered.cons rest⟩
    rw [List.mapM_cons, stands, others]
    rfl

theorem convertOn_layered (dialect : Dialect) {document : Value} {room : Nat} {schema : Value} {type : TypeExpr}
    (done : dialect.convertOn (definitionsFor document) room schema = .ok type) :
    dialect.Layered document [schema] type.properties := by
  -- On a stack the definitions stay the same throughout, so what a layer declares is converted as on its own.
  induction room generalizing schema type with
  | zero => cases done
  | succ room ih =>
    obtain ⟨form, asked, written⟩ := Outcome.bind_eq_ok.mp done
    cases form with
    | wrapped inner =>
      obtain ⟨layers, composes, each⟩ := ih written
      exact ⟨layers, .wrapped asked composes, each⟩
    | ref | enum =>
      cases written
      exact ⟨[], .bare asked rfl .done, .nil⟩
    | primitive description which =>
      cases written
      cases which <;> exact ⟨[], .bare asked rfl .done, .nil⟩
    | array description element =>
      obtain ⟨_, _, same⟩ := Outcome.bind_eq_ok.mp written
      cases same
      exact ⟨[], .bare asked rfl .done, .nil⟩
    | object description entries =>
      dsimp only at written
      obtain ⟨⟨members, _⟩, composed, written⟩ := Outcome.bind_eq_ok.mp written
      obtain ⟨inherited, contributed, written⟩ := Outcome.bind_eq_ok.mp written
      obtain ⟨required, requires, written⟩ := Outcome.bind_eq_ok.mp written
      obtain ⟨⟨declared, _⟩, declares, written⟩ := Outcome.bind_eq_ok.mp written
      obtain ⟨own, owned, written⟩ := Outcome.bind_eq_ok.mp written
      obtain ⟨_, _, same⟩ := Outcome.bind_eq_ok.mp written
      cases same
      have behind : List.Forall₂ (fun member properties => ∃ schema,
          memberSchema (definitionsFor document) member = .ok schema ∧
            dialect.Layered document [schema] properties) members inherited := by
        refine (Outcome.forall₂_of_mapM contributed).imp fun member properties here => ?_
        rw [memberProperties_eq] at here
        obtain ⟨schema, stands, here⟩ := Outcome.bind_eq_ok.mp here
        obtain ⟨type, converted, same⟩ := Outcome.bind_eq_ok.mp here
        cases same
        exact ⟨schema, stands, ih converted⟩
      have given : List.Forall₂ (Declaration.Gives dialect document)
          (Layer.declarations ⟨required, declared⟩) own := by
        rw [Layer.declarations, List.forall₂_map_left_iff]
        refine (Outcome.forall₂_of_mapM owned).imp fun property given here => ?_
        obtain ⟨type, converted, same⟩ := Outcome.bind_eq_ok.mp here
        cases same
        exact ⟨type, dialect.typeOf_of_convertOn converted, rfl⟩
      obtain ⟨schemas, stand, layers, composes, each⟩ := layered_of_members behind
      refine ⟨_, .object asked composed stand requires declares composes .done, ?_⟩
      rw [List.flatMap_append, List.flatMap_singleton]
      exact List.rel_append each given

theorem typeOf_layered (dialect : Dialect) {document schema : Value} {type : TypeExpr}
    (converts : dialect.typeOf document schema = .ok type) :
    dialect.Layered document [schema] type.properties := by
  have ordinary : dialect.typeOf document schema ≠ .error .circular := by simp [converts]
  obtain ⟨enough, ends⟩ := dialect.convertOn_eq_typeOf document schema ordinary
  exact dialect.convertOn_layered ((ends enough (Nat.le_refl _)).trans converts)

end Dialect

def TypeExpr.names (properties : List TypeExpr) : List Key := properties.filterMap TypeExpr.name

theorem TypeExpr.names_of_declared {declarations : List Declaration} {properties : List TypeExpr}
    (each : List.Forall₂ Declaration.Declares declarations properties) :
    names properties = declarations.map Declaration.name := by
  induction each with
  | nil => rfl
  | cons here _ ih => rw [names, List.filterMap_cons, here.1, ← names, ih, List.map_cons]

namespace Layer

theorem distinct_names_iff (layers : List Layer) :
    Key.Distinct (layers.flatMap names) ↔ (∀ layer ∈ layers, Key.Distinct layer.names) ∧
      layers.Pairwise fun first second => ∀ a ∈ first.names, ∀ b ∈ second.names, a.same b = false := by
  unfold Key.Distinct
  exact List.pairwise_flatMap

end Layer

namespace Dialect

open SchemaType

/-- The properties of a type are those that the layers of its schema declare, and each is required exactly if its
own layer requires it. Their names are distinct exactly when those within each layer are and no two layers
declare the same. -/
theorem typeOf_properties_layered (dialect : Dialect) {document schema : Value} {type : TypeExpr}
    (converts : dialect.typeOf document schema = .ok type) :
    ∃ layers, (∀ other, Composes (definitionsFor document) [schema] other ↔ other = layers) ∧
      List.Forall₂ Declaration.Declares (layers.flatMap Layer.declarations) type.properties ∧
      (Key.Distinct (TypeExpr.names type.properties) ↔ (∀ layer ∈ layers, Key.Distinct layer.names) ∧
        layers.Pairwise fun first second => ∀ a ∈ first.names, ∀ b ∈ second.names, a.same b = false) := by
  obtain ⟨layers, composes, gives⟩ := dialect.typeOf_layered converts
  have each : List.Forall₂ Declaration.Declares (layers.flatMap Layer.declarations) type.properties :=
    gives.imp fun _ _ => Declaration.Gives.declares
  refine ⟨layers, fun other => ⟨fun also => also.unique composes, ?_⟩, each, ?_⟩
  · rintro rfl
    exact composes
  · rw [← Layer.distinct_names_iff, TypeExpr.names_of_declared each, List.map_flatMap]
    simp only [Layer.names_declarations]

def requiringShared : List (Key × Value) :=
  let declared := (Key.text "id", Value.object [(.text "type", .text "string")])
  let member := Value.object [(.text "properties", .object [declared])]
  [(.text "allOf", .list [member, member]), (.text "required", .list [.text "id"])]

/-- The property is there twice, and optional both times. -/
theorem properties_share_name : ∃ type, typescript.typeOf (.object []) (.object requiringShared) = .ok type ∧
    TypeExpr.names type.properties = [.text "id", .text "id"] ∧
    ¬ Key.Distinct (TypeExpr.names type.properties) ∧ requiredKeys requiringShared = .ok [.text "id"] ∧
    type.properties.map TypeExpr.optional = [true, true] := by
  have evaluated : (typescript.typeOf (.object []) (.object requiringShared)).toOption.map
      (fun type => (TypeExpr.names type.properties, type.properties.map TypeExpr.optional)) =
        some ([.text "id", .text "id"], [true, true]) := by decide +kernel
  obtain ⟨type, converts, same⟩ := Outcome.eq_ok_of_toOption_map evaluated
  obtain ⟨names, optional⟩ := Prod.mk.inj same
  refine ⟨type, converts, names, ?_, rfl, optional⟩
  rw [names]
  decide

def extendable : Value := .object [(.text "definitions", .object [
  (.text "Base", .object [(.text "properties", .object [(.text "id", .object [])])])])]

def extension : Value := .object [
  (.text "allOf", .list [.object [(.text "$ref", .text "#/definitions/Base")]]),
  (.text "required", .list [.text "id", .text "extra"]),
  (.text "properties", .object [(.text "extra", .object [])])]

theorem typeOf_properties_layered_extension : ∃ type, flow.typeOf extendable extension = .ok type ∧
    Key.Distinct (TypeExpr.names type.properties) ∧
    List.Forall₂ Declaration.Declares
      [⟨.text "id", .object [], false⟩, ⟨.text "extra", .object [], true⟩] type.properties := by
  have evaluated : (flow.typeOf extendable extension).toOption.map (fun _ => ()) = some () := by decide +kernel
  obtain ⟨type, converts, _⟩ := Outcome.eq_ok_of_toOption_map evaluated
  obtain ⟨layers, only, each, distinct⟩ := flow.typeOf_properties_layered converts
  have composes : Composes (definitionsFor extendable) [extension]
      [⟨[], [(.text "id", .object [])]⟩, ⟨[.text "id", .text "extra"], [(.text "extra", .object [])]⟩] :=
    .object rfl rfl rfl rfl rfl (.object rfl rfl rfl rfl rfl .done .done) .done
  obtain rfl := (only _).mp composes
  exact ⟨type, converts, distinct.mpr (by decide), each⟩

end Dialect

end ClientGen
