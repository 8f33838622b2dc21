import ClientGen.Command.Run
import ClientGen.Document.Json.Reader
import ClientGen.Document.Yaml.Reader
import ClientGen.Layout.Format
import ClientGen.Script.Grammar.Module

/-! What clients are generated with: parsers of documents and of scripts, a formatter, and an output that takes every
text. -/

set_option autoImplicit false

namespace ClientGen

namespace Script

/-- Every rule that another comes back to takes a token or leads to one that does in a few steps, so this depth
is never reached. -/
def depthFor (text : List Char) : Nat := 4 * text.length + 16

/-- Parses a text as a script or as a module: the first error that is not tolerated, or all that was tolerated. -/
def judge : Judge := fun isModule source =>
  let text := source.toList
  let outcome := do
    let start ← Parse.start text
    (Grammar.program isModule (Grammar.rules (depthFor text))).run start
  match outcome with
  | .error problem => .rejected problem.line problem.reason
  -- The reason of a remark tells the line with the rest of the problem, so the remark has none of its own.
  | .ok (_, state) => .accepted (state.scanner.remarks.reverse.map fun problem => { reason := problem.remark })

end Script

def Document.Parsers.standard : Parsers where
  json := Json.read
  yaml := Yaml.read

def Generation.Tools.standard : Tools where
  judge := Script.judge
  format source := .ok (Layout.format source)

def Command.Tools.standard : Tools where
  toTools := .standard
  parsers := .standard
  writable _ := .ok ()
  printable _ := .ok ()

end ClientGen
