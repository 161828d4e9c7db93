import SeedNavigator.Command.Arguments
import SeedNavigator.Command.Encoding
import SeedNavigator.Command.Report
import SeedNavigator.Command.Run
import SeedNavigator.Completion.Context
import SeedNavigator.Completion.Suggestions
import SeedNavigator.Config.Basic
import SeedNavigator.Config.Reader
import SeedNavigator.Config.Validity
import SeedNavigator.Decimal.Shortest
import SeedNavigator.Descriptor.Basic
import SeedNavigator.Descriptor.Recognition
import SeedNavigator.Descriptor.Strategy
import SeedNavigator.Descriptor.Structural
import SeedNavigator.Descriptor.Textual
import SeedNavigator.Environment.Aliases
import SeedNavigator.Environment.Basic
import SeedNavigator.Environment.Candidates
import SeedNavigator.Environment.Listing
import SeedNavigator.Environment.Scan
import SeedNavigator.Error
import SeedNavigator.Files.Host
import SeedNavigator.Files.Tree
import SeedNavigator.Glob.Basic
import SeedNavigator.Glob.Match
import SeedNavigator.Json.Fault
import SeedNavigator.Json.Message
import SeedNavigator.Json.Reader
import SeedNavigator.Json.Value
import SeedNavigator.Log.Event
import SeedNavigator.Log.Filter
import SeedNavigator.Main
import SeedNavigator.Outline.Basic
import SeedNavigator.Outline.Members
import SeedNavigator.Path.Document
import SeedNavigator.Path.Join
import SeedNavigator.Path.Mapping
import SeedNavigator.Path.Normal
import SeedNavigator.Path.Occurrence
import SeedNavigator.Path.Stem
import SeedNavigator.Project.Basic
import SeedNavigator.Project.Navigation
import SeedNavigator.Project.Templates
import SeedNavigator.Proofs.Command.Endings
import SeedNavigator.Proofs.Command.Members
import SeedNavigator.Proofs.Completion.Chains
import SeedNavigator.Proofs.Completion.Context
import SeedNavigator.Proofs.Completion.Cursor
import SeedNavigator.Proofs.Completion.Suggestions
import SeedNavigator.Proofs.Descriptor.BasePaths
import SeedNavigator.Proofs.Descriptor.Bindings
import SeedNavigator.Proofs.Descriptor.Entries
import SeedNavigator.Proofs.Descriptor.Lines
import SeedNavigator.Proofs.Descriptor.Literals
import SeedNavigator.Proofs.Descriptor.Objects
import SeedNavigator.Proofs.Descriptor.Recognition
import SeedNavigator.Proofs.Descriptor.Values
import SeedNavigator.Proofs.Environment.Aliases
import SeedNavigator.Proofs.Environment.Failures
import SeedNavigator.Proofs.Environment.Listing
import SeedNavigator.Proofs.Environment.Scan
import SeedNavigator.Proofs.Environment.Strategies
import SeedNavigator.Proofs.Files.Tree
import SeedNavigator.Proofs.Files.Work
import SeedNavigator.Proofs.Glob.Base
import SeedNavigator.Proofs.Glob.Match
import SeedNavigator.Proofs.Outline.Accessors
import SeedNavigator.Proofs.Outline.Declarations
import SeedNavigator.Proofs.Outline.Lookup
import SeedNavigator.Proofs.Outline.Visibility
import SeedNavigator.Proofs.Path.Document
import SeedNavigator.Proofs.Path.Enclosing
import SeedNavigator.Proofs.Path.Join
import SeedNavigator.Proofs.Path.Keys
import SeedNavigator.Proofs.Path.NormalForm
import SeedNavigator.Proofs.Path.Overlap
import SeedNavigator.Proofs.Path.Relocation
import SeedNavigator.Proofs.Path.RoundTrip
import SeedNavigator.Proofs.Path.Search
import SeedNavigator.Proofs.Path.Switching
import SeedNavigator.Proofs.Path.Tidy
import SeedNavigator.Proofs.Path.Walk
import SeedNavigator.Proofs.Path.WholeSegments
import SeedNavigator.Proofs.Project.Breakdown
import SeedNavigator.Proofs.Project.Candidates
import SeedNavigator.Proofs.Project.Confinement
import SeedNavigator.Proofs.Project.Failures
import SeedNavigator.Proofs.Project.Navigation
import SeedNavigator.Proofs.Project.Scan
import SeedNavigator.Proofs.Project.Templates
import SeedNavigator.Proofs.Script.Tree
import SeedNavigator.Proofs.Script.Walk
import SeedNavigator.Proofs.Text.Boundary
import SeedNavigator.Proofs.Text.Order
import SeedNavigator.Proofs.Text.Utf8
import SeedNavigator.Script.Bracketed
import SeedNavigator.Script.Expressions
import SeedNavigator.Script.Members
import SeedNavigator.Script.Program
import SeedNavigator.Script.Sketch
import SeedNavigator.Script.Statements
import SeedNavigator.Script.Token
import SeedNavigator.Script.Tree
import SeedNavigator.Script.Types
import SeedNavigator.Stop
import SeedNavigator.Text.Blank
import SeedNavigator.Text.Boundary
import SeedNavigator.Text.Debug
import SeedNavigator.Text.Lowercase
import SeedNavigator.Text.Pieces
import SeedNavigator.Text.Word
