import ClientGen.Client.View

/-! What can be told of the work on a document while it goes on: which entries were resolved, dropped or
passed over, and which names were changed. The notices of a part of the work that fails are those up to the
failure. -/

set_option autoImplicit false

namespace ClientGen

inductive Notice where
  | resolved (path : String)
  | dropped (name : Value)
  | skipped (verb path : Key)
  | renamed (name unique : String)
  | built (methods definitions : Nat)
  | rendered (target : String) (length : Nat)

namespace Notice

def text : Notice → String
  | .resolved path => "DEBUG:jscodegen.schema_parser:Resolved parameter reference " ++ path
  | .dropped name => "DEBUG:jscodegen.schema_parser:Dropping excluded parameter " ++ name.quoted
  | .skipped verb path =>
    "DEBUG:jscodegen.context_builder:Skipping unsupported verb " ++ verb.quoted ++ " on " ++ path.shown
  | .renamed name unique =>
    "DEBUG:jscodegen.naming:Method name " ++ Text.quoted name ++ " already taken, using " ++
      Text.quoted unique
  | .built methods definitions =>
    "DEBUG:jscodegen.context_builder:Built view model: " ++ toString methods ++ " methods, " ++
      toString definitions ++ " definitions"
  | .rendered target length =>
    "DEBUG:jscodegen.codegen:Rendered " ++ target ++ " source (" ++ toString length ++ " chars)"

end Notice

private def succeeds {α : Type} (outcome : Except Failure α) : Bool :=
  match outcome with
  | .ok _ => true
  | .error _ => false

private def fieldOr (v : Value) (name : String) (other : Value) : Value := (v.get? name).getD other

def Parameter.entryNotices (document entry : Value) : List Notice :=
  match isExcluded entry with
  | .error _ => []
  | .ok true => [.dropped (fieldOr entry "name" (fieldOr entry "$ref" .null))]
  | .ok false =>
    match entry.get? "$ref" with
    | some (.text path) =>
      match resolve document path with
      | .error _ => []
      | .ok shared =>
        .resolved path :: match isExcluded shared with
          | .ok true => [.dropped (fieldOr shared "name" .null)]
          | _ => []
    | _ => []

/-- The notices of a parameter list, up to the first entry that fails. -/
def Parameter.notices (document : Value) : List Value → List Notice
  | [] => []
  | entry :: rest =>
    entryNotices document entry ++
      if succeeds (contribution document entry) then notices document rest else []

def Operation.notices (document : Value) (operation : Operation) (used : List String) : List Notice :=
  match operation.candidate with
  | .error _ => []
  | .ok candidate =>
    let name := Naming.unique candidate used
    let details := operation.details
    let naming := if name = candidate then [] else [Notice.renamed candidate name]
    let reachesParameters :=
      succeeds (Security.ofOperation document details) && succeeds (Response.ofOperation document details)
    naming ++
      if reachesParameters then
        match Parameter.listed (fieldOr details "parameters" .null) operation.sharedParameters with
        | .ok entries => Parameter.notices document entries
        | .error _ => []
      else []

/-- What is told of a part of the walk, and the names in use after it unless it fails. -/
private structure Walk where
  told : List Notice
  used : Option (List String)

private def Walk.andThen (walk : Walk) (next : List String → Walk) : Walk :=
  match walk.used with
  | none => walk
  | some used =>
    let more := next used
    ⟨walk.told ++ more.told, more.used⟩

private def entryWalk (document : Value) (path : Key) (shared : Value) (used : List String)
    (entry : Key × Value) : Walk :=
  let (verb, details) := entry
  if View.isSupported verb then
    let operation : Operation := ⟨path, verb, details, shared⟩
    let outcome := do
      let (name, used) := Naming.giveOut (← operation.candidate) used
      -- No class name: whether a method succeeds does not depend on it.
      let _ ← operation.method document name none
      return used
    ⟨operation.notices document used, outcome.toOption⟩
  else if Text.lower verb.shown = "parameters" then ⟨[], some used⟩
  else ⟨[.skipped verb path], some used⟩

private def pathWalk (document : Value) (used : List String) (path : Key × Value) : Walk :=
  let shared := do
    let entries ← path.2.entries
    return (entries, ← View.sharedParameters entries)
  match shared with
  | .error _ => ⟨[], none⟩
  | .ok (entries, shared) =>
    entries.foldl (fun walk entry => walk.andThen fun used => entryWalk document path.1 shared used entry)
      ⟨[], some used⟩

def View.notices (document : Value) (target : String) (options : Options) : List Notice :=
  let start := do
    let _ ← header document target options
    pathsOf document
  match start with
  | .error _ => []
  | .ok paths =>
    let walk := paths.foldl (fun walk path => walk.andThen fun used => pathWalk document used path)
      (⟨[], some []⟩ : Walk)
    match walk.used, definitionsFor document target with
    | some used, .ok definitions => walk.told ++ [.built used.length definitions.length]
    | _, _ => walk.told

end ClientGen
