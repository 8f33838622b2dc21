import ClientGen.Standard

/-! The command line: reads the document, prints or writes its client. -/

set_option autoImplicit false

namespace ClientGen.Command

def usage : String :=
  "usage: clientgen [-h] [-t TARGET] [-c NAME] [-m NAME] [-o FILE] [--no-beautify] [-v] DOCUMENT\n"

def readDocument (path : Files.Path) : IO (Except Failure ByteArray) := do
  try
    return .ok (← IO.FS.readBinFile path.shown)
  catch
    | .noFileOrDirectory .. => return .error (.file .notFound path.shown)
    | other => throw other

def writeFile (path : Files.Path) (content : ByteArray) : IO Unit := do
  IO.FS.createDirAll { path with parts := path.parts.dropLast : Files.Path }.shown
  IO.FS.writeBinFile path.shown content

def execute (arguments : Arguments) : IO UInt32 := do
  let content ← readDocument (Files.Path.ofString arguments.document)
  let plan := plan .standard arguments content
  IO.eprint plan.messages
  if let some (path, content) := plan.file then writeFile path content
  IO.print plan.output
  match plan.result with
  | .ok code => return code.toUInt32
  | .error _ =>
    IO.eprintln "error: the document is malformed"
    return 1

end ClientGen.Command

open ClientGen.Command in
def main (words : List String) : IO UInt32 := do
  match Arguments.read words with
  | .error .help =>
    IO.print usage
    return 0
  | .error .usage =>
    IO.eprint usage
    return 2
  | .ok arguments => execute arguments
