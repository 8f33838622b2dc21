import ClientGen.Command.Run
import ClientGen.Proofs.Client.Assembly
import ClientGen.Proofs.Files.Folder
import ClientGen.Proofs.Generation.Blocks

/-! What a run of the command leaves behind. A run that fails changes no file and prints no code; one that succeeds
prints the code, or writes it to one file and says so. -/

set_option autoImplicit false

namespace ClientGen

namespace Failure

end Failure

namespace Command

open Files

def loaded (parsers : Document.Parsers) (arguments : Arguments) (folder : Folder) : Except Failure Value := do
  let source := Path.ofString arguments.document
  Document.load parsers source (← folder.read source)

def generated (tools : Tools) (arguments : Arguments) (folder : Folder) : Except Failure String := do
  let document ← loaded tools.parsers arguments folder
  Generation.code tools.toTools document arguments.target arguments.options

def told (parsers : Document.Parsers) (arguments : Arguments) (folder : Folder) : String :=
  let content := folder.read (Path.ofString arguments.document)
  if arguments.verbose then
    String.join ((notices parsers arguments content).map fun notice => notice.text ++ "\n")
  else ""

namespace Plan

variable {plan : Plan} {folder : Folder} {path : Path} {content : ByteArray}

end Plan

variable {tools : Tools} {arguments : Arguments} {folder : Folder}

section
variable {text told : String} {path : Path} {content : ByteArray}

end

def isBare : Value → Bool
  | .object [(.text name, .text version)] => name == "swagger" && version == "2.0"
  | _ => false

section
open Generation Template
set_option maxRecDepth 1000000

end

end Command

end ClientGen
