import ApiOutline.Calendar
import ApiOutline.CommandLine
import ApiOutline.Configuration
import ApiOutline.Definition.Catalog
import ApiOutline.Definition.Hints
import ApiOutline.Definition.Registry
import ApiOutline.Document
import ApiOutline.Entries
import ApiOutline.Failure
import ApiOutline.Identifier
import ApiOutline.Json.Reader
import ApiOutline.Json.Writer
import ApiOutline.Log
import ApiOutline.Machine
import ApiOutline.Main
import ApiOutline.Malformed
import ApiOutline.Method
import ApiOutline.Number.Binary64
import ApiOutline.Number.Reader
import ApiOutline.Number.Shortest
import ApiOutline.Operation.Link
import ApiOutline.Operation.Parameter
import ApiOutline.Operation.Payload
import ApiOutline.Operation.Requirement
import ApiOutline.Operation.Response
import ApiOutline.Operation.Route
import ApiOutline.Operation.Site
import ApiOutline.Options
import ApiOutline.Outline
import ApiOutline.Path
import ApiOutline.Program
import ApiOutline.Proofs.CommandLine
import ApiOutline.Proofs.Configuration
import ApiOutline.Proofs.Configuration.Agreement
import ApiOutline.Proofs.Configuration.Failures
import ApiOutline.Proofs.Configuration.Precedence
import ApiOutline.Proofs.Definition.Choice
import ApiOutline.Proofs.Definition.Distinct
import ApiOutline.Proofs.Definition.Naming
import ApiOutline.Proofs.Definition.Outcome
import ApiOutline.Proofs.Definition.Parallel
import ApiOutline.Proofs.Definition.Reuse
import ApiOutline.Proofs.Definition.Sharing
import ApiOutline.Proofs.Document
import ApiOutline.Proofs.Document.Comparison
import ApiOutline.Proofs.Document.Truth
import ApiOutline.Proofs.Entries
import ApiOutline.Proofs.Failure
import ApiOutline.Proofs.Identifier
import ApiOutline.Proofs.Identifier.Runs
import ApiOutline.Proofs.Json
import ApiOutline.Proofs.Log
import ApiOutline.Proofs.Operation.Assignment
import ApiOutline.Proofs.Operation.Declared
import ApiOutline.Proofs.Operation.Failures
import ApiOutline.Proofs.Operation.Frame
import ApiOutline.Proofs.Operation.Hereditary
import ApiOutline.Proofs.Operation.Parameter
import ApiOutline.Proofs.Operation.Requirement
import ApiOutline.Proofs.Operation.Response
import ApiOutline.Proofs.Operation.Route
import ApiOutline.Proofs.Operation.Site
import ApiOutline.Proofs.Operation.Warnings
import ApiOutline.Proofs.Options
import ApiOutline.Proofs.Outline.Accounting
import ApiOutline.Proofs.Outline.Appending
import ApiOutline.Proofs.Outline.Components
import ApiOutline.Proofs.Outline.Derived
import ApiOutline.Proofs.Outline.Endpoints
import ApiOutline.Proofs.Outline.Failures
import ApiOutline.Proofs.Outline.Hierarchy
import ApiOutline.Proofs.Outline.Independence
import ApiOutline.Proofs.Outline.Json
import ApiOutline.Proofs.Outline.Naming
import ApiOutline.Proofs.Outline.Order
import ApiOutline.Proofs.Outline.Payloads
import ApiOutline.Proofs.Outline.Protocols
import ApiOutline.Proofs.Outline.Strictness
import ApiOutline.Proofs.Outline.Summary
import ApiOutline.Proofs.Outline.TypeNames
import ApiOutline.Proofs.Outline.Visits
import ApiOutline.Proofs.Program
import ApiOutline.Proofs.Program.Definitions
import ApiOutline.Proofs.Program.Spelling
import ApiOutline.Proofs.Reference
import ApiOutline.Proofs.Reference.Chain
import ApiOutline.Proofs.Reference.Hereditary
import ApiOutline.Proofs.Reference.Local
import ApiOutline.Proofs.Reference.Pointer
import ApiOutline.Proofs.Scalar
import ApiOutline.Proofs.Security
import ApiOutline.Proofs.Security.Credentials
import ApiOutline.Proofs.Security.Strictness
import ApiOutline.Proofs.Source
import ApiOutline.Proofs.Surroundings
import ApiOutline.Proofs.Terminal
import ApiOutline.Proofs.Text.Alphabet
import ApiOutline.Proofs.Text.Integer
import ApiOutline.Proofs.Text.Pieces
import ApiOutline.Proofs.Tree.Canonical
import ApiOutline.Proofs.Tree.Depth
import ApiOutline.Proofs.Tree.Equality
import ApiOutline.Proofs.Tree.Hereditary
import ApiOutline.Proofs.Tree.Json
import ApiOutline.Proofs.Tree.Shape
import ApiOutline.Proofs.Tree.Strings
import ApiOutline.Proofs.Tree.Update
import ApiOutline.Proofs.Yaml
import ApiOutline.Reference
import ApiOutline.Scalar
import ApiOutline.Security
import ApiOutline.Source
import ApiOutline.Summary
import ApiOutline.Surroundings
import ApiOutline.Terminal
import ApiOutline.Terminal.Emoji
import ApiOutline.Terminal.Layout
import ApiOutline.Terminal.Literal
import ApiOutline.Terminal.Markup
import ApiOutline.Terminal.Style
import ApiOutline.Terminal.Width
import ApiOutline.Text.Base64
import ApiOutline.Text.Blank
import ApiOutline.Text.Case
import ApiOutline.Text.Digit
import ApiOutline.Text.Half
import ApiOutline.Text.Integer
import ApiOutline.Text.Printable
import ApiOutline.Text.Word
import ApiOutline.Tree
import ApiOutline.Tree.Display
import ApiOutline.Tree.Field
import ApiOutline.Tree.Portable
import ApiOutline.Tree.Same
import ApiOutline.Version
import ApiOutline.Yaml.Character
import ApiOutline.Yaml.Fault
import ApiOutline.Yaml.Merge
import ApiOutline.Yaml.Node
import ApiOutline.Yaml.Scalar
import ApiOutline.Yaml.Shape
import ApiOutline.Yaml.Tag
import ApiOutline.Yaml.Token
import ApiOutline.Yaml.Token.Scalar
import ApiOutline.Yaml.Token.Scan
import ApiOutline.Yaml.Token.Tag
import ApiOutline.Yaml.Value
