import ClientGen.Main
import ClientGen.Proofs.Client.Names
import ClientGen.Proofs.Client.Assembly
import ClientGen.Proofs.Naming.Unique
import ClientGen.Proofs.Client.Agreement
import ClientGen.Proofs.Client.Extension
import ClientGen.Proofs.Outcome
import ClientGen.Proofs.Schema.Activation
import ClientGen.Proofs.Schema.Definitions
import ClientGen.Proofs.Schema.Dialects
import ClientGen.Proofs.Schema.Ordinary
import ClientGen.Proofs.Schema.Stack
import ClientGen.Proofs.Schema.Links
import ClientGen.Proofs.Schema.Shape
import ClientGen.Proofs.Schema.Walk
import ClientGen.Proofs.Schema.Recursion
import ClientGen.Proofs.Client.Entries
import ClientGen.Proofs.Client.Flags
import ClientGen.Proofs.Client.Steps
import ClientGen.Proofs.Document.Json
import ClientGen.Proofs.Schema.Invariant
import ClientGen.Proofs.Schema.Brackets
import ClientGen.Proofs.Client.Types
import ClientGen.Proofs.Schema.Names
import ClientGen.Proofs.Client.Exports
import ClientGen.Proofs.Schema.Missing
import ClientGen.Proofs.Schema.Composition
import ClientGen.Proofs.Client.Targets
import ClientGen.Proofs.Schema.Locality
import ClientGen.Proofs.Client.Locality
import ClientGen.Proofs.Template.Scope
import ClientGen.Proofs.Template.Copies
import ClientGen.Proofs.Template.Shape
import ClientGen.Proofs.Generation.Blocks
import ClientGen.Proofs.Generation.Helpers
import ClientGen.Proofs.Files.Folder
import ClientGen.Proofs.Command.Run
import ClientGen.Proofs.Template.Same
import ClientGen.Proofs.Generation.Signatures
import ClientGen.Proofs.Naming.Spelling
import ClientGen.Proofs.Client.Arguments
import ClientGen.Proofs.Text.Case
import ClientGen.Proofs.Naming.Derived
import ClientGen.Proofs.Client.Members
import ClientGen.Proofs.Template.Gathered
import ClientGen.Proofs.Template.Members
import ClientGen.Proofs.Generation.Members
import ClientGen.Proofs.Client.Responses
import ClientGen.Proofs.Client.Parameters
import ClientGen.Proofs.Generation.Stages
import ClientGen.Proofs.Generation.Comments
import ClientGen.Proofs.Number.Binary64
import ClientGen.Proofs.Client.Requirements
import ClientGen.Proofs.Client.Merging
import ClientGen.Proofs.Text.Identifier
import ClientGen.Proofs.Naming.Path
import ClientGen.Proofs.Naming.Words
import ClientGen.Proofs.Schema.Listing
import ClientGen.Proofs.Document.TextNames
import ClientGen.Proofs.Schema.Consistency
import ClientGen.Proofs.Lint.Findings
import ClientGen.Proofs.Generation.Checking
import ClientGen.Proofs.Lint.Directive
import ClientGen.Proofs.Text.Lines
import ClientGen.Proofs.Script.Lines
import ClientGen.Proofs.Lint.Evidence
import ClientGen.Proofs.Script.Literal
import ClientGen.Proofs.Client.Headers
import ClientGen.Proofs.Text.Escaped
import ClientGen.Proofs.Schema.Literals
