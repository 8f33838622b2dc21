import ClientGen.Document.Access
import ClientGen.Template.Builtin.Flow
import ClientGen.Template.Builtin.JavaScript
import ClientGen.Template.Builtin.TypeScript

/-! The templates of a target: those that the caller gives, and the built-in ones in place of what is
missing. -/

set_option autoImplicit false

namespace ClientGen

/-- Template texts as the caller gave them: the one that is rendered, and those it can include. Null stands
for none. -/
structure Templates where
  main : Value := .null
  method : Value := .null
  type : Value := .null

namespace Templates

def ofValue : Value → Except Failure Templates
  | .null => .ok {}
  | v@(.object _) => .ok {
      main := (v.get? "class").getD .null
      method := (v.get? "method").getD .null
      type := (v.get? "type").getD .null }
  | _ => .error .invalidTemplates

def partials (templates : Templates) : List (String × Value) :=
  ("method", templates.method.orElse (.text "")) ::
    match templates.type with
    | .null => []
    | type => [("type", type)]

def builtin? : String → Option Templates
  | "javascript" => some {
      main := .text Template.Builtin.javascriptClass
      method := .text Template.Builtin.method }
  | "typescript" => some {
      main := .text Template.Builtin.typescriptClass
      method := .text Template.Builtin.typescriptMethod
      type := .text Template.Builtin.type }
  | "flow" => some {
      main := .text Template.Builtin.flowClass
      method := .text Template.Builtin.flowMethod
      type := .text Template.Builtin.flowType }
  | _ => none

/-- The templates for a target; a custom target has no built-in ones to fall back on. -/
def forTarget (target : String) (given : Value) : Except Failure Templates := do
  let templates ← ofValue given
  if target = "custom" then
    if templates.main.isText && templates.method.isText then return templates
    else throw .invalidTemplates
  match builtin? target with
  | none => throw (.unsupportedTarget target)
  | some builtin =>
    return {
      main := templates.main.orElse builtin.main
      method := templates.method.orElse builtin.method
      type := templates.type.orElse builtin.type }

end Templates

end ClientGen
