import ClientGen.Client.Method

/-! The view of a document from which clients are written: its methods in document order and its
definitions. -/

set_option autoImplicit false

namespace ClientGen

structure Definition where
  name : Key
  description : Value
  tsType : TypeExpr
  flowType : TypeExpr

structure View where
  title : Value
  version : Value
  domain : String
  security : Security
  methods : List Method
  definitions : List Definition
  className : Option String
  moduleName : Option String
  imports : List Value
  isEs6 : Bool

structure View.Options where
  className : Option String := none
  moduleName : Option String := none
  imports : Value := .null
  isEs6 : Bool := false

namespace View

def methodNames (view : View) : List String := view.methods.map (·.name)

def empty : View where
  title := .text ""
  version := .text ""
  domain := ""
  security := {}
  methods := []
  definitions := []
  className := none
  moduleName := none
  imports := []
  isEs6 := false

def addMethod (view : View) (method : Method) : View :=
  { view with
    methods := view.methods ++ [method]
    security := view.security.raise method.security }

def checkVersion (document : Value) : Except Failure Unit := do
  match ← document.field "swagger" with
  | .text "2.0" => return ()
  | version => throw (.unsupportedVersion version)

private def trimSlashes (path : String) : String :=
  String.ofList (path.toList.reverse.dropWhile (· == '/')).reverse

/-- Where the document is served, or nothing when a part of it is missing. -/
def domainOf (document : Value) : Except Failure String := do
  let schemes := (← document.field "schemes").orElse (.list [])
  let host ← document.field "host"
  let base ← document.field "basePath"
  if !(schemes.isTrue && host.isTrue && base.isTrue) then return ""
  let scheme ← schemes.at? 0
  match base with
  | .text base => return scheme.shown ++ "://" ++ host.shown ++ trimSlashes base
  | _ => throw .noOperation

def header (document : Value) (target : String) (options : Options) : Except Failure View := do
  checkVersion document
  let info := (← document.field "info").orElse (.object [])
  let title := (← info.field? "title").getD (.text "")
  let version := (← info.field? "version").getD (.text "")
  let domain ← domainOf document
  let isSecure ← document.has "securityDefinitions"
  let imports ← (options.imports.orElse (.list [])).elements
  return { View.empty with
    title, version, domain, imports
    security := { isSecure }
    className := options.className
    moduleName := options.moduleName
    isEs6 := options.isEs6 || target == "javascript" }

/-- The shared parameters of a path after one more of its entries. Keys have to be texts. -/
def shareEntry (shared : Value) : Key × Value → Except Failure Value
  | (.text key, value) =>
    .ok (if Text.lower key = "parameters" then value.orElse (.list []) else shared)
  | _ => .error .noOperation

def sharedParameters (item : List (Key × Value)) : Except Failure Value :=
  item.foldlM shareEntry (.list [])

def isSupported (verb : Key) : Bool :=
  match verb with
  | .text verb => supportedVerbs.contains (Text.upper verb)
  | _ => false

def operationsOf (path : Key) (item : Value) : Except Failure (List Operation) := do
  -- Shared parameters may come after the operations that share them, so all entries are gone through first.
  let entries ← item.entries
  let shared ← sharedParameters entries
  return (entries.filter fun (verb, _) => isSupported verb).map fun (verb, details) =>
    ⟨path, verb, details, shared⟩

/-- The definitions of a document under the names that the target exports them by. -/
def definitionsFor (document : Value) (target : String) : Except Failure (List Definition) := do
  (← (← SchemaType.definitionsOf document).entries).mapM fun (name, schema) => do
    return {
      name := match name with
        | .text s => .text (if target = "flow" then Dialect.flow.typeName s else s)
        | other => other
      description := ← schema.field "description"
      tsType := ← Dialect.typescript.typeOf document schema
      flowType := ← Dialect.flow.typeOf document schema }

def pathsOf (document : Value) : Except Failure (List (Key × Value)) := do
  ((← document.field "paths").orElse (.object [])).entries

end View

structure Assembly where
  view : View := View.empty
  used : List String := []

namespace Assembly

/-- Adds an operation. A name that was chosen stays in use even when the method fails afterwards. -/
def add (assembly : Assembly) (document : Value) (operation : Operation) (className : Option String) :
    Assembly × Except Failure Method :=
  match operation.candidate with
  | .error failure => (assembly, .error failure)
  | .ok candidate =>
    -- The name is given out before the method is known to succeed.
    let (name, used) := Naming.giveOut candidate assembly.used
    match operation.method document name className with
    | .error failure => ({ assembly with used }, .error failure)
    | .ok method => (⟨assembly.view.addMethod method, used⟩, .ok method)

def addOrFail (document : Value) (className : Option String) (assembly : Assembly)
    (operation : Operation) : Except Failure Assembly :=
  let (next, outcome) := assembly.add document operation className
  outcome.map fun _ => next

def addPath (document : Value) (className : Option String) (assembly : Assembly)
    (path : Key × Value) : Except Failure Assembly := do
  (← View.operationsOf path.1 path.2).foldlM (addOrFail document className) assembly

end Assembly

def View.build (document : Value) (target : String) (options : Options) : Except Failure View := do
  let view ← header document target options
  let assembly ← (← pathsOf document).foldlM (Assembly.addPath document options.className) ⟨view, []⟩
  return { assembly.view with definitions := ← definitionsFor document target }

end ClientGen
