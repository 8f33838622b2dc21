import ClientGen.Document.Access
import ClientGen.Files.Path
import ClientGen.Text.Lines

/-! Documents from files. The name of a file says which format it has: JSON, unless it ends as YAML files
do. -/

set_option autoImplicit false

namespace ClientGen.Document

structure Parsers where
  json : String → Except Failure Value
  yaml : String → Except Failure Value

def isYamlName (path : Files.Path) : Bool :=
  let suffix := Text.lower path.suffix
  suffix = ".yaml" || suffix = ".yml"

def ofText (parsers : Parsers) (path : Files.Path) (text : String) : Except Failure Value := do
  match ← if isYamlName path then parsers.yaml text else parsers.json text with
  | .object entries => return .object entries
  | _ => throw (.notADocument path.shown)

/-- The document in a file, whose bytes have to be UTF-8; line breaks of all kinds are read as line feeds. -/
def load (parsers : Parsers) (path : Files.Path) (content : ByteArray) : Except Failure Value :=
  match String.fromUTF8? content with
  | none => .error .encoding
  | some text => ofText parsers path (String.ofList (Text.unifyBreaks text.toList))

end ClientGen.Document
