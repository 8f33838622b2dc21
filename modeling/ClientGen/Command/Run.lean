import ClientGen.Client.Notice
import ClientGen.Command.Arguments
import ClientGen.Document.Load
import ClientGen.Files.Folder
import ClientGen.Generation.Generate

/-! A run of the command: a document is read, its client generated, and the code printed or written to a
file. -/

set_option autoImplicit false

namespace ClientGen.Command

open Files

/-- What a run works with besides the folder: the parsers of documents, and what writing or printing a text fails with
when a character of it cannot be encoded. -/
structure Tools extends Generation.Tools where
  parsers : Document.Parsers
  writable : String → Except Failure Unit
  printable : String → Except Failure Unit

/-- What a run is to leave behind: its exit code or the failure that ended it, what it prints, and the file that
it writes before it prints. -/
structure Plan where
  result : Except Failure Nat
  output : String
  messages : String
  file : Option (Path × ByteArray) := none

@[ext] structure Report where
  result : Except Failure Nat
  output : String
  messages : String
  folder : Folder

namespace Arguments

def options (arguments : Arguments) : Generation.Options where
  className := some arguments.className
  moduleName := arguments.moduleName
  beautify := arguments.beautify

end Arguments

def produce (tools : Tools) (arguments : Arguments) (content : Except Failure ByteArray) :
    Except Failure (Value × String) := do
  let document ← Document.load tools.parsers (Path.ofString arguments.document) (← content)
  return (document, ← Generation.code tools.toTools document arguments.target arguments.options)

def notices (parsers : Document.Parsers) (arguments : Arguments) (content : Except Failure ByteArray) : List Notice :=
  match content.bind (Document.load parsers (Path.ofString arguments.document)) with
  | .error _ => []
  | .ok document =>
    let target := arguments.target
    let options := arguments.options
    let building := View.notices document target options.viewOptions
    let rendered := do
      Generation.renderView (← Generation.viewOf document target options) target options
    match rendered with
    | .ok source => building ++ [.rendered target source.length]
    | .error _ => building

def receipt (path : Path) (document : Value) : String :=
  let paths := match (document.get? "paths").map (·.orElse (.object [])) with
    | some (.object entries) => entries.length
    | _ => 0
  "Generated " ++ path.shown ++ " (" ++ toString paths ++ " paths)\n"

private def lineOf (notice : Notice) : String := notice.text ++ "\n"

/-- Prints a text as the last thing that is done, or nothing of it if it cannot be printed. -/
def printing (tools : Tools) (text told : String) (file : Option (Path × ByteArray)) : Plan :=
  match tools.printable text with
  | .ok () => ⟨.ok 0, text, told, file⟩
  | .error failure => ⟨.error failure, "", told, file⟩

/-- What a run does with the content of the document's file. Failures that have a message end it with that one;
others are passed on. -/
def plan (tools : Tools) (arguments : Arguments) (content : Except Failure ByteArray) : Plan :=
  let told :=
    if arguments.verbose then String.join ((notices tools.parsers arguments content).map lineOf) else ""
  match produce tools arguments content with
  | .error failure =>
    match failure.message? with
    | some message => ⟨.ok 1, "", told ++ "error: " ++ message ++ "\n", none⟩
    | none => ⟨.error failure, "", told, none⟩
  | .ok (document, code) =>
    match arguments.output with
    | none => printing tools code told none
    | some output =>
      let path := Path.ofString output
      -- The file is opened, and thereby emptied, before its text is encoded.
      match tools.writable code with
      | .ok () => printing tools (receipt path document) told (some (path, code.toUTF8))
      | .error failure => ⟨.error failure, "", told, some (path, .empty)⟩

namespace Plan

def carryOut (plan : Plan) (folder : Folder) : Report :=
  match plan.file with
  | none => ⟨plan.result, plan.output, plan.messages, folder⟩
  | some (path, content) =>
    match folder.write path content with
    | .error failure => ⟨.error failure, "", plan.messages, folder⟩
    | .ok folder => ⟨plan.result, plan.output, plan.messages, folder⟩

end Plan

def run (tools : Tools) (arguments : Arguments) (folder : Folder) : Report :=
  (plan tools arguments (folder.read (Path.ofString arguments.document))).carryOut folder

end ClientGen.Command
