import ClientGen.Document.Yaml.Node
import ClientGen.Document.Yaml.Scalar

/-! Reading YAML: the values that nodes denote. A merge key puts the entries of other mappings before those of
its own, which win. -/

set_option autoImplicit false

namespace ClientGen.Document.Yaml

def isAllowed (c : Char) : Bool :=
  c = '\t' || c = '\n' || c = '\r' || c = '\u0085' || (0x20 ≤ c.toNat && c.toNat ≤ 0x7E) ||
    (0xA0 ≤ c.toNat && c.toNat ≤ 0xFFFD) || 0x10000 ≤ c.toNat

namespace Node

private def standard (name : String) : Option String := some ("tag:yaml.org,2002:" ++ name)

/-- The kind of a scalar that has a tag; a tag that does not say one is none. -/
private def taggedKind? (tag : Option String) (text : String) : Option ScalarKind :=
  if tag = standard "str" then some .text
  else if tag = standard "null" then some .null
  else if tag = standard "bool" then some .bool
  else if tag = standard "int" then some .int
  else if tag = standard "float" then
    some (if Scalar.kindOf text = .int then .float else Scalar.kindOf text)
  else none

private def scalarKind (tag : Option String) (text : String) (plain : Bool) : Option ScalarKind :=
  match tag with
  | none => some (if plain then Scalar.kindOf text else .text)
  | tag => taggedKind? tag text

private def isMerge : Node → Bool
  | .scalar none text true => Scalar.kindOf text = .merge
  | _ => false

private def mappingEntries? : Node → Option (List (Node × Node))
  | .mapping _ entries => some entries
  | _ => none

/-- The entries of a mapping, and of a sequence of mappings those of the first one last. -/
private def mergedEntries : Node → Option (List (Node × Node))
  | .sequence _ items => (items.mapM mappingEntries?).map fun parts => parts.reverse.flatten
  | node => mappingEntries? node

private def flatten (bound : Nat) (entries : List (Node × Node)) : Option (List (Node × Node)) :=
  match bound with
  | 0 => some entries
  | bound + 1 => do
    let merged ← (entries.filter fun (key, _) => key.isMerge).mapM fun (_, value) => do
      flatten bound (← mergedEntries value)
    return merged.flatten ++ entries.filter fun (key, _) => !key.isMerge

mutual

private def toValue? (bound : Nat) (node : Node) : Option Value :=
  match bound with
  | 0 => none
  | bound + 1 =>
    match node with
    | .scalar tag text plain =>
      match scalarKind tag text plain with
      | none => none
      | some .default | some .merge => none
      | some kind => Scalar.toValue? kind text
    | .sequence tag items =>
      if tag = none || tag = standard "seq" then (itemValues? bound items).map .list else none
    | .mapping tag entries =>
      if tag = none || tag = standard "map" then
        (flatten bound entries).bind fun entries => (entryValues? bound [] entries).map .object
      else none

private def itemValues? (bound : Nat) : List Node → Option (List Value)
  | [] => some []
  | node :: rest => (toValue? bound node).bind fun v => (itemValues? bound rest).map (v :: ·)

private def entryValues? (bound : Nat) (sofar : List (Key × Value)) :
    List (Node × Node) → Option (List (Key × Value))
  | [] => some sofar
  | (key, value) :: rest =>
    let keyValue := match key with
      | .scalar none "=" true => some (Value.text "=")
      | key => toValue? bound key
    keyValue.bind fun k => k.toKey?.bind fun k =>
      (toValue? bound value).bind fun v => entryValues? bound (k.put v sofar) rest

end

end Node

/-- The value that a text writes; a text without a document writes null. -/
def read (text : String) : Except Failure Value :=
  let chars := text.toList
  if !chars.all isAllowed then .error (.yaml .character)
  else match Node.ofTokens (tokens chars) with
    | .error fault => .error (.yaml fault)
    | .ok none => .ok .null
    | .ok (some node) =>
      match node.toValue? (chars.length + 1) with
      | some v => .ok v
      | none => .error (.yaml .value)

end ClientGen.Document.Yaml
