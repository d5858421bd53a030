import Pseudonym.Extraction.Basic
import Pseudonym.Extraction.Completion
import Pseudonym.Extraction.Declaration
import Pseudonym.Extraction.Import
import Pseudonym.Extraction.Inheritance
import Pseudonym.Extraction.Library
import Pseudonym.Extraction.Module
import Pseudonym.Extraction.Reference
import Pseudonym.Extraction.Resolution
import Pseudonym.Files.Disk
import Pseudonym.Files.Path
import Pseudonym.Files.Platform
import Pseudonym.Graph.Basic
import Pseudonym.Graph.Hierarchy
import Pseudonym.Graph.Reach
import Pseudonym.Interface.Catalogue
import Pseudonym.Interface.CommandLine
import Pseudonym.Interface.Stylesheet
import Pseudonym.Json.Basic
import Pseudonym.Json.Display
import Pseudonym.Json.Project
import Pseudonym.Json.Reader
import Pseudonym.Json.Renaming
import Pseudonym.Json.Symbol
import Pseudonym.Json.Writer
import Pseudonym.Log.Registry
import Pseudonym.Main
import Pseudonym.Model.Chain
import Pseudonym.Model.Transition
import Pseudonym.Name.Accessor
import Pseudonym.Name.Reserved
import Pseudonym.Name.Style
import Pseudonym.Name.Words
import Pseudonym.Number.Binary
import Pseudonym.Number.Decimal
import Pseudonym.Number.Fixed
import Pseudonym.Number.Shortest
import Pseudonym.Project.Analysis
import Pseudonym.Project.Job
import Pseudonym.Project.Layout
import Pseudonym.Project.Progress
import Pseudonym.Project.Reading
import Pseudonym.Project.Run
import Pseudonym.Project.Validation
import Pseudonym.Python.Comment
import Pseudonym.Python.Grammar.Basic
import Pseudonym.Python.Grammar.Expression
import Pseudonym.Python.Grammar.Pattern
import Pseudonym.Python.Grammar.Statement
import Pseudonym.Python.Lexeme
import Pseudonym.Python.Literal
import Pseudonym.Python.Printer
import Pseudonym.Python.Token
import Pseudonym.Python.Tree
import Pseudonym.Python.Walk
import Pseudonym.Random.Twister
import Pseudonym.Renaming.Cascade
import Pseudonym.Renaming.Changes
import Pseudonym.Renaming.Conflict
import Pseudonym.Renaming.Eligibility
import Pseudonym.Renaming.Plan
import Pseudonym.Renaming.Rendering
import Pseudonym.Renaming.Workflow
import Pseudonym.Settings.Basic
import Pseudonym.Settings.Check
import Pseudonym.Settings.Preset
import Pseudonym.Settings.Profile
import Pseudonym.Source.Edit
import Pseudonym.Source.Line
import Pseudonym.Source.Search
import Pseudonym.Symbol.Basic
import Pseudonym.Symbol.Kind
import Pseudonym.Symbol.Marker
import Pseudonym.Text.Case
import Pseudonym.Text.CaseTable
import Pseudonym.Text.Category
import Pseudonym.Text.CategoryTable
import Pseudonym.Text.CharacterName
import Pseudonym.Text.Normal
import Pseudonym.Text.NormalTable
import Pseudonym.Text.Quoted
import Pseudonym.Text.StepTable
import Pseudonym.Text.Word
import Pseudonym.Proofs.Graph.Reach
import Pseudonym.Proofs.Graph.WellFormed
import Pseudonym.Proofs.Graph.Scopes
import Pseudonym.Proofs.Graph.Renamed
import Pseudonym.Proofs.Renaming.Plan
import Pseudonym.Proofs.Renaming.Conflict
import Pseudonym.Proofs.Renaming.Capture
import Pseudonym.Proofs.Graph.Override
import Pseudonym.Proofs.Renaming.Cascade
import Pseudonym.Proofs.Renaming.Workflow
import Pseudonym.Proofs.Name.Accessor
import Pseudonym.Proofs.Renaming.Family
import Pseudonym.Proofs.Renaming.Pinned
import Pseudonym.Proofs.Renaming.Usable
import Pseudonym.Proofs.Renaming.MemberLookup
import Pseudonym.Proofs.Renaming.Public
import Pseudonym.Proofs.Renaming.Contract
import Pseudonym.Proofs.Extraction.Regions
import Pseudonym.Proofs.Extraction.Outline
import Pseudonym.Proofs.Extraction.Phases
import Pseudonym.Proofs.Extraction.Numbering
import Pseudonym.Proofs.Extraction.Steps
import Pseudonym.Proofs.Extraction.Binding
import Pseudonym.Proofs.Extraction.Completeness
import Pseudonym.Proofs.Extraction.Dynamic
import Pseudonym.Proofs.Extraction.Marks
import Pseudonym.Proofs.Extraction.Keywords
import Pseudonym.Proofs.Renaming.Edits
import Pseudonym.Proofs.Model.Training
import Pseudonym.Proofs.Project.Mirror
import Pseudonym.Proofs.Project.Output
import Pseudonym.Proofs.Extraction.Anchors
import Pseudonym.Proofs.Renaming.Accounts
import Pseudonym.Proofs.Project.InPlace
import Pseudonym.Proofs.Source.Line
import Pseudonym.Proofs.Python.Pieces
import Pseudonym.Proofs.Python.Scanning
import Pseudonym.Proofs.Python.Rows
import Pseudonym.Proofs.Python.Stripping
import Pseudonym.Proofs.Python.Removal
import Pseudonym.Proofs.Source.Edit
import Pseudonym.Proofs.Model.Sampling
import Pseudonym.Proofs.Json.RoundTrip
import Pseudonym.Proofs.Settings.Profile
import Pseudonym.Proofs.Extraction.Attribution
import Pseudonym.Proofs.Renaming.Inlining
import Pseudonym.Proofs.Renaming.Roots
import Pseudonym.Proofs.Renaming.Markers
import Pseudonym.Proofs.Graph.Accessors
import Pseudonym.Proofs.Graph.Relations
import Pseudonym.Proofs.Renaming.Extent
import Pseudonym.Proofs.Name.Respelling
import Pseudonym.Proofs.Renaming.Pairing
import Pseudonym.Proofs.Renaming.Naming
import Pseudonym.Proofs.Renaming.Overloads
import Pseudonym.Proofs.Name.Deriving
import Pseudonym.Proofs.Renaming.Mangling
import Pseudonym.Proofs.Text.Trim
import Pseudonym.Proofs.Name.Splitting
import Pseudonym.Proofs.Model.Repetition
import Pseudonym.Proofs.Text.Split
import Pseudonym.Proofs.Symbol.Entries
import Pseudonym.Proofs.Files.Discovery
import Pseudonym.Proofs.Name.Boundary
import Pseudonym.Proofs.Graph.Traversal
import Pseudonym.Proofs.Source.Column
import Pseudonym.Proofs.Log.Hierarchy
import Pseudonym.Proofs.Log.Coverage
