import ClientGen.Schema.Expression

/-! Writing the type of a schema. Only members of a composition are looked up in the definitions of the
document; any other reference is kept as a name. A composition is walked with the definitions that have not
been entered yet, so that one which contains itself is noticed, and the walk ends because each step goes to a
smaller schema or enters one more definition. -/

set_option autoImplicit false

namespace ClientGen

namespace SchemaType

def definitionsOf (document : Value) : Except Failure Value := do
  return (← document.field "definitions").orElse (.object [])

/-- The definitions that the schemas of a document are converted with. A document that is not true is one
without definitions. -/
def definitionsFor (document : Value) : Except Failure Value :=
  definitionsOf (document.orElse (.object []))

def entriesOf (definitions : Except Failure Value) : List (Key × Value) :=
  match definitions with
  | .ok (.object entries) => entries
  | _ => []

def notAMember (v : Value) : Failure :=
  match v.has "$ref" with
  | .ok false => notASchema v
  | _ => .wrongKind

/-- Members that are not given as a list: there may be none, but none of them is a schema. -/
def membersElsewhere (v : Value) : Except Failure Unit := do
  match ← v.elements with
  | [] => return ()
  | first :: _ => throw (notAMember first)

def membersOf (entries : List (Key × Value)) :
    Except Failure { members : List Value // Value.sizes members ≤ Value.entrySizes entries } :=
  match composed : (Key.text "allOf").lookup entries with
  | some (.list members) =>
    .ok ⟨members, by have := Value.size_le_of_lookup composed; simp only [Value.size] at this; omega⟩
  | some other => do
    membersElsewhere other
    return ⟨[], by simp [Value.sizes]⟩
  | none => .ok ⟨[], by simp [Value.sizes]⟩

def requiredKeys (entries : List (Key × Value)) : Except Failure (List Key) :=
  match (Key.text "required").lookup entries with
  | some v => if v.isTrue then v.keySet else .ok []
  | none => .ok []

def declaredIn (entries : List (Key × Value)) :
    Except Failure { declared : List (Key × Value) //
      Value.entrySizes declared ≤ Value.entrySizes entries } :=
  match declared : (Key.text "properties").lookup entries with
  | some (.object properties) =>
    .ok ⟨properties, by have := Value.size_le_of_lookup declared; simp only [Value.size] at this; omega⟩
  | some other => if other.isTrue then .error .noOperation else .ok ⟨[], by simp [Value.entrySizes]⟩
  | none => .ok ⟨[], by simp [Value.entrySizes]⟩

def find (definitions : Except Failure Value) (reference : Value) : Except Failure (String × Value) := do
  let definitions ← definitions
  match reference with
  | .text path =>
    let name := refName path
    if !(← definitions.has name) then throw (.unresolved path)
    match definitions.get? name with
    | some definition => return (name, definition)
    | none => throw .wrongKind
  | _ => throw .noOperation

/-- The definition that a member of a composition refers to and the definitions not entered then. -/
def enter (definitions : Except Failure Value) (available : List (Key × Value)) (reference : Value) :
    Except Failure { found : Value × List (Key × Value) //
      found.1.size + Value.entrySizes found.2 < Value.entrySizes available } := do
  let (name, _) ← find definitions reference
  -- The name is defined, so if it is not available any more it has been entered on the way here.
  match taken : (Key.text name).take available with
  | some found => return ⟨found, Value.entrySizes_of_take taken⟩
  | none => throw .circular

end SchemaType

namespace Dialect

open SchemaType

mutual

def convert (dialect : Dialect) (definitions : Except Failure Value) (available : List (Key × Value))
    (schema : Value) : Except Failure TypeExpr :=
  match asked : SchemaType.of schema with
  | .error failure => .error failure
  | .ok (.wrapped inner) =>
    have : inner.size < schema.size := of_partSize asked
    convert dialect definitions available inner
  | .ok (.ref description target) => .ok (dialect.ref description target)
  | .ok (.enum description literals) => .ok (.enum description literals)
  | .ok (.primitive description which) => .ok (.primitive description which)
  | .ok (.array description element) => do
    have : element.size < schema.size := of_partSize asked
    return dialect.array description (← convert dialect definitions available element)
  | .ok (.object description entries) => do
    have : Value.entrySizes entries < schema.size := of_partSize asked
    let ⟨members, _⟩ ← membersOf entries
    let inherited ← inheritedProperties dialect definitions available members
    let required ← requiredKeys entries
    let ⟨declared, _⟩ ← declaredIn entries
    let own ← ownProperties dialect definitions available required declared
    dialect.object description (inherited ++ own)
termination_by Value.entrySizes available + schema.size
decreasing_by all_goals omega

def inheritedProperties (dialect : Dialect) (definitions : Except Failure Value)
    (available : List (Key × Value)) (members : List Value) : Except Failure (List TypeExpr) :=
  match members with
  | [] => .ok []
  | .object entries :: rest => do
    let type ← match (Key.text "$ref").lookup entries with
      | some reference => do
        let ⟨(definition, others), _⟩ ← enter definitions available reference
        convert dialect definitions others definition
      | none => convert dialect definitions available (.object entries)
    return type.properties ++ (← inheritedProperties dialect definitions available rest)
  | other :: _ => .error (notAMember other)
termination_by Value.entrySizes available + Value.sizes members
decreasing_by all_goals simp only [Value.size, Value.sizes] at *; omega

def ownProperties (dialect : Dialect) (definitions : Except Failure Value)
    (available : List (Key × Value)) (required : List Key) (declared : List (Key × Value)) :
    Except Failure (List TypeExpr) :=
  match declared with
  | [] => .ok []
  | (name, schema) :: rest => do
    let type ← convert dialect definitions available schema
    let more ← ownProperties dialect definitions available required rest
    return type.asProperty name (!required.any name.same) :: more
termination_by Value.entrySizes available + Value.entrySizes declared
decreasing_by all_goals simp only [Value.entrySizes] at *; omega

end

/-- The type of a schema of the document, with all definitions still to be entered. -/
def typeOf (dialect : Dialect) (document schema : Value) : Except Failure TypeExpr :=
  dialect.convert (definitionsFor document) (entriesOf (definitionsFor document)) schema

end Dialect

end ClientGen
