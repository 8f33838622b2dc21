import ClientGen.Generation.Templates
import ClientGen.Lint
import ClientGen.Template.Render

/-! Generating the code of a client: the templates of the target are rendered with the view of the document,
custom code is checked, and the text is laid out. -/

set_option autoImplicit false

namespace ClientGen.Generation

structure Options where
  className : Option String := some "Client"
  moduleName : Option String := none
  imports : Value := .list []
  template : Value := .null
  /-- What names in templates stand for besides the view, or instead of it. -/
  extraContext : Value := .object []
  esnext : Bool := false
  /-- Whether to check the code; it is checked if nothing is said. -/
  lint : Option Bool := none
  beautify : Bool := true
  isEs6 : Bool := false

def Options.isChecked (options : Options) : Bool := options.lint.getD true

def Options.viewOptions (options : Options) : View.Options where
  className := options.className
  moduleName := options.moduleName
  imports := options.imports
  isEs6 := options.isEs6

structure Tools where
  judge : Script.Judge
  format : String → Except Failure String

def contextOf (view : View) : Template.Env := [
  ("title", .value view.title),
  ("version", .value view.version),
  ("domain", .text view.domain),
  ("is_secure", .bool view.security.isSecure),
  ("methods", .list (view.methods.map .method)),
  ("definitions", .list (view.definitions.map .definition)),
  ("is_secure_token", .bool view.security.token),
  ("is_secure_api_key", .bool view.security.apiKey),
  ("is_secure_basic", .bool view.security.basic),
  ("class_name", .ofText? view.className),
  ("module_name", .ofText? view.moduleName),
  ("imports", .value (.list view.imports)),
  ("is_es6", .bool view.isEs6)]

/-- What entries give their names as a meaning, the last one where a name is given twice. Only a text can be a name. -/
def namesOf (entries : List (Key × Value)) : Except Failure Template.Env :=
  entries.reverse.mapM fun
    | (.text name, value) => .ok (name, .value value)
    | _ => .error .wrongKind

def extraNames (extra : Value) : Except Failure Template.Env := do namesOf (← extra.pairs)

def pretypedTargets : List String := ["javascript", "typescript", "flow"]

/-- What the templates of a target are rendered to for a view. That a name is no text is noticed when its template has
been read. -/
def fragmentsOf (view : View) (target : String) (options : Options) :
    Except Failure (List Template.Fragment) := do
  let templates ← Templates.forTarget target options.template
  let extra ← options.extraContext.pairs
  Template.fragmentsUnder templates.partials (templates.main.orElse (.text ""))
    ((namesOf extra).map (· ++ contextOf view))

def renderView (view : View) (target : String) (options : Options) : Except Failure String :=
  (fragmentsOf view target options).map Template.textOf

def checkSource (tools : Tools) (target : String) (options : Options) (source : String) : Except Failure Unit :=
  if !pretypedTargets.contains target && options.isChecked then
    Lint.check tools.judge { esnext := options.esnext } source
  else .ok ()

def layOut (tools : Tools) (options : Options) (source : String) : Except Failure String :=
  if options.beautify then tools.format source else .ok source

def generate (tools : Tools) (view : View) (target : String) (options : Options) :
    Except Failure String := do
  let source ← renderView view target options
  let _ ← checkSource tools target options source
  layOut tools options source

def viewOf (document : Value) (target : String) (options : Options) : Except Failure View :=
  View.build document target options.viewOptions

/-- The code of a document for a target. Unusable templates are noticed before the document is read. -/
def code (tools : Tools) (document : Value) (target : String) (options : Options) :
    Except Failure String := do
  let _ ← Templates.forTarget target options.template
  generate tools (← viewOf document target options) target options

/-- The TypeScript code of a document, whose version is checked before anything else. -/
def typescriptCode (tools : Tools) (document : Value) (options : Options) : Except Failure String := do
  View.checkVersion document
  code tools document "typescript" options

def targetCode (tools : Tools) (document : Value) (target : String) (options : Options) :
    Except Failure String :=
  if target = "typescript" then typescriptCode tools document options
  else code tools document target options

end ClientGen.Generation
