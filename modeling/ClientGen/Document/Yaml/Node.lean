import ClientGen.Document.Yaml.Token

/-! The nodes that the tokens of a YAML text form. An alias stands for the node that its anchor names. -/

set_option autoImplicit false

namespace ClientGen.Document.Yaml

inductive Node where
  | scalar (tag : Option String) (text : String) (plain : Bool)
  | sequence (tag : Option String) (items : List Node)
  | mapping (tag : Option String) (entries : List (Node × Node))
  deriving Inhabited, Repr

def Node.blank : Node := .scalar none "" true

namespace Node

/-- The tokens still to come, and the nodes that have an anchor; an anchor within its own node has none
yet. -/
private structure Source where
  tokens : List Token
  anchors : List (String × Option Node) := []

private abbrev Parse := StateT Source (Except YamlFault)

private def peek : Parse (Option Token) := do return (← get).tokens.head?

private def advance : Parse Unit := modify fun s => { s with tokens := s.tokens.drop 1 }

private def accept (token : Token) : Parse Bool := do
  if (← peek) = some token then
    advance
    return true
  return false

private def unexpected {α : Type} : Parse α := do
  match ← peek with
  | some .broken => throw .token
  | _ => throw .structural

private def nextIs (tokens : List Token) : Parse Bool := do
  match ← peek with
  | some token => return tokens.contains token
  | none => return true

private def tagName (handle : Option String) (suffix : String) : Parse String :=
  match handle with
  | none => return suffix
  | some "!" => return "!" ++ suffix
  | some "!!" => return "tag:yaml.org,2002:" ++ suffix
  | some _ => throw .structural

private def properties (bound : Nat) (anchor tag : Option String) :
    Parse (Option String × Option String) := do
  match bound with
  | 0 => return (anchor, tag)
  | bound + 1 =>
    match ← peek, anchor, tag with
    | some (.anchor name), none, tag =>
      advance
      properties bound (some name) tag
    | some (.tag handle suffix), anchor, none =>
      advance
      properties bound anchor (some (← tagName handle suffix))
    | _, anchor, tag => return (anchor, tag)

private def nameAnchor (anchor : Option String) (node : Option Node) : Parse Unit :=
  match anchor with
  | none => return ()
  | some name => modify fun s => { s with anchors := (name, node) :: s.anchors }

mutual

/-- A node; block structures may stand outside of brackets only, and a sequence that is not indented only
as a value in a mapping. -/
private def read (bound : Nat) (inBlock notIndented : Bool) : Parse Node := do
  match bound with
  | 0 => throw .structural
  | bound + 1 =>
    match ← peek with
    | some (.alias name) =>
      advance
      match (← get).anchors.lookup name with
      | some (some node) => return node
      | _ => throw .node
    | _ =>
      let (anchor, tag) ← properties 2 none none
      let known := (← get).anchors
      if anchor.any fun name => (known.lookup name).isSome then throw .node
      nameAnchor anchor none
      let tag := tag.filter (· ≠ "!")
      let node ← match ← peek with
        | some .entry =>
          if notIndented then do pure (Node.sequence tag (← plainEntries bound)) else unexpected
        | some (.scalar text plain) => do
          advance
          pure (Node.scalar tag text (plain && tag.isNone))
        | some .flowSequence => do
          advance
          pure (Node.sequence tag (← flowItems bound true))
        | some .flowMapping => do
          advance
          pure (Node.mapping tag (← flowEntries bound true))
        | some .blockSequence =>
          if inBlock then do
            advance
            pure (Node.sequence tag (← blockItems bound))
          else unexpected
        | some .blockMapping =>
          if inBlock then do
            advance
            pure (Node.mapping tag (← blockEntries bound))
          else unexpected
        | _ =>
          if anchor.isSome || tag.isSome then pure (Node.scalar tag "" tag.isNone) else unexpected
      nameAnchor anchor (some node)
      return node

private def blockItems (bound : Nat) : Parse (List Node) := do
  match bound with
  | 0 => throw .structural
  | bound + 1 =>
    if ← accept .entry then
      let item ← if ← nextIs [.entry, .blockEnd] then pure blank else read bound true false
      return item :: (← blockItems bound)
    else if ← accept .blockEnd then return []
    else unexpected

private def plainEntries (bound : Nat) : Parse (List Node) := do
  match bound with
  | 0 => throw .structural
  | bound + 1 =>
    if ← accept .entry then
      let item ←
        if ← nextIs [.entry, .key, .value, .blockEnd] then pure blank else read bound true false
      return item :: (← plainEntries bound)
    else return []

private def blockEntries (bound : Nat) : Parse (List (Node × Node)) := do
  match bound with
  | 0 => throw .structural
  | bound + 1 =>
    if ← accept .key then
      let key ← if ← nextIs [.key, .value, .blockEnd] then pure blank else read bound true true
      let value ←
        if ← accept .value then
          if ← nextIs [.key, .value, .blockEnd] then pure blank else read bound true true
        else pure blank
      return (key, value) :: (← blockEntries bound)
    else if ← accept .blockEnd then return []
    else unexpected

/-- The items of a sequence in brackets; a key makes an item a mapping of one entry. -/
private def flowItems (bound : Nat) (first : Bool) : Parse (List Node) := do
  match bound with
  | 0 => throw .structural
  | bound + 1 =>
    if ← accept .flowSequenceEnd then return []
    if !first then
      if !(← accept .flowEntry) then unexpected
    if ← accept .flowSequenceEnd then return []
    if ← accept .key then
      let key ←
        if ← nextIs [.value, .flowEntry, .flowSequenceEnd] then pure blank else read bound false false
      let value ←
        if ← accept .value then
          if ← nextIs [.flowEntry, .flowSequenceEnd] then pure blank else read bound false false
        else pure blank
      return Node.mapping none [(key, value)] :: (← flowItems bound false)
    let item ← read bound false false
    return item :: (← flowItems bound false)

private def flowEntries (bound : Nat) (first : Bool) : Parse (List (Node × Node)) := do
  match bound with
  | 0 => throw .structural
  | bound + 1 =>
    if ← accept .flowMappingEnd then return []
    if !first then
      if !(← accept .flowEntry) then unexpected
    if ← accept .flowMappingEnd then return []
    let hasKey ← accept .key
    let key ←
      if hasKey then
        if ← nextIs [.value, .flowEntry, .flowMappingEnd] then pure blank else read bound false false
      else read bound false false
    let value ←
      if hasKey then
        if ← accept .value then
          if ← nextIs [.flowEntry, .flowMappingEnd] then pure blank else read bound false false
        else pure blank
      else pure blank
    return (key, value) :: (← flowEntries bound false)

end

private def directives (bound : Nat) : Parse Bool := do
  match bound, ← peek with
  | bound + 1, some (.directive _) =>
    advance
    let _ ← directives bound
    return true
  | _, _ => return false

private def documentEnds (bound : Nat) : Parse Unit := do
  match bound, ← peek with
  | bound + 1, some .documentEnd =>
    advance
    documentEnds bound
  | _, _ => return ()

private def onlyDocument (bound : Nat) : Parse (Option Node) := do
  if (← peek).isNone then return none
  let directed ← directives bound
  let explicit ← accept .documentStart
  if directed && !explicit then unexpected
  let node ←
    if explicit && (← nextIs [.documentStart, .documentEnd]) then pure blank
    else match ← peek with
      | some (.directive _) => if explicit then pure blank else unexpected
      | _ => read bound true false
  documentEnds bound
  match ← peek with
  | none => return some node
  | some .documentStart => throw .node
  | some (.directive _) =>
    let _ ← directives bound
    if ← accept .documentStart then throw .node else unexpected
  | some _ => unexpected

def ofTokens (tokens : List Token) : Except YamlFault (Option Node) :=
  (onlyDocument (3 * tokens.length + 3)).run' { tokens }

end Node

end ClientGen.Document.Yaml
