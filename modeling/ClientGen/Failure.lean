import ClientGen.Document.Display

/-! Why a document, a template or a command cannot be processed. A document is taken as it comes, so a
value of the wrong kind is noticed only where it is used, and the failure says which use it was. -/

set_option autoImplicit false

namespace ClientGen

/-- One report of a check: what is wrong, the text of the line and its number, counted from 1; line 0 is
no line of the script. -/
structure Finding where
  code : String
  reason : String
  evidence : String
  line : Int
  deriving DecidableEq, Repr

/-- Codes of errors begin with an E; the others are warnings. -/
def Finding.isError (finding : Finding) : Bool := finding.code.startsWith "E"

inductive TemplateFault where
  | malformed
  | unknownFilter
  /-- A filter that does not exist, in a branch that was reached. -/
  | unknownFilterReached
  | notFound
  /-- An undefined value is used for more than printing or testing. -/
  | undefinedUse
  deriving DecidableEq, Repr

inductive YamlFault where
  | character
  | token
  /-- The tokens do not form a document. -/
  | structural
  /-- The nodes do not form a graph: an unknown or repeated anchor, or a second document. -/
  | node
  | value
  deriving DecidableEq, Repr

inductive FileFault where
  | notFound
  | isDirectory
  | alreadyExists
  | notDirectory
  deriving DecidableEq, Repr

inductive Failure where
  /-- The value lacks the operation: an entry is asked of something else than an object, or a letter case
  of something else than a text. -/
  | noOperation
  /-- The value is of a kind that cannot be searched, counted, joined, compared or used as a key. -/
  | wrongKind
  | noEntry
  | notAPair
  | circular
  | unsupportedVersion (version : Value)
  | unresolved (ref : String)
  | unsupportedLocation (name location : Value)
  | notADocument (path : String)
  | unsupportedTarget (target : String)
  | invalidTemplates
  | rejected (finding : Finding)
  | template (fault : TemplateFault)
  | json
  | encoding
  /-- A text has a character that the encoding it is written in lacks, or only half of one. -/
  | unencodable
  | yaml (fault : YamlFault)
  | file (fault : FileFault) (path : String)
  deriving Repr

namespace Failure

def message? : Failure → Option String
  | .unsupportedVersion version =>
    some ("Unsupported specification version " ++ version.quoted ++
      ": only Swagger 2.0 documents are supported")
  | .unresolved ref => some ("Cannot resolve reference " ++ Text.quoted ref)
  | .unsupportedLocation name location =>
    some ("Parameter " ++ name.quoted ++ " has unsupported location " ++ location.quoted)
  | .notADocument path => some (path ++ " does not contain a Swagger document object")
  | .unsupportedTarget target =>
    some ("Unsupported target " ++ Text.quoted target ++
      "; expected one of javascript, typescript, flow, custom")
  | .invalidTemplates =>
    some ("Custom target requires a template bundle with 'class' and 'method' template strings" ++
      " (and optionally 'type')")
  | .rejected finding =>
    some (finding.reason ++ " in " ++ finding.evidence ++ " (" ++ finding.code ++ ")")
  | .file .notFound path => some ("[Errno 2] No such file or directory: " ++ Text.quoted path)
  | _ => none

end Failure

end ClientGen
