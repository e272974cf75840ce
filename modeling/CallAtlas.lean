import CallAtlas.Call.Denylist
import CallAtlas.Call.Relation
import CallAtlas.Call.Site
import CallAtlas.CommandLine.Arguments
import CallAtlas.CommandLine.Output
import CallAtlas.CommandLine.Plan
import CallAtlas.CommandLine.Run
import CallAtlas.CommandLine.Session
import CallAtlas.Decimal.Shortest
import CallAtlas.Diagram.Basic
import CallAtlas.Diagram.Dot
import CallAtlas.Failure
import CallAtlas.FileSystem.Basic
import CallAtlas.FileSystem.Error
import CallAtlas.FileSystem.SourceFiles
import CallAtlas.FileTree.Attributes
import CallAtlas.FileTree.Basic
import CallAtlas.FileTree.Changes
import CallAtlas.FileTree.Identity
import CallAtlas.Function.Catalog
import CallAtlas.Function.Form
import CallAtlas.Function.Naming
import CallAtlas.Graph.Analysis
import CallAtlas.Graph.DeadCode
import CallAtlas.Graph.Reachability
import CallAtlas.Main
import CallAtlas.Name.Map
import CallAtlas.Name.Set
import CallAtlas.Path.Basic
import CallAtlas.Path.Order
import CallAtlas.Proofs.Call.Attribution
import CallAtlas.Proofs.Call.Denial
import CallAtlas.Proofs.Call.Pairs
import CallAtlas.Proofs.Call.Parentheses
import CallAtlas.Proofs.Call.Sites
import CallAtlas.Proofs.Call.Usage
import CallAtlas.Proofs.CommandLine.ArtifactNames
import CallAtlas.Proofs.CommandLine.Artifacts
import CallAtlas.Proofs.CommandLine.Confinement
import CallAtlas.Proofs.CommandLine.Endings
import CallAtlas.Proofs.CommandLine.OutputPath
import CallAtlas.Proofs.CommandLine.Preparation
import CallAtlas.Proofs.CommandLine.Stages
import CallAtlas.Proofs.CommandLine.Turns
import CallAtlas.Proofs.Diagram.Dot
import CallAtlas.Proofs.Diagram.Export
import CallAtlas.Proofs.Diagram.Faithful
import CallAtlas.Proofs.Diagram.Quoting
import CallAtlas.Proofs.FileSystem.Directories
import CallAtlas.Proofs.FileSystem.Gathering
import CallAtlas.Proofs.FileSystem.Inputs
import CallAtlas.Proofs.FileSystem.Resolution
import CallAtlas.Proofs.FileSystem.Separation
import CallAtlas.Proofs.FileSystem.Walking
import CallAtlas.Proofs.FileSystem.Writing
import CallAtlas.Proofs.FileTree.Frame
import CallAtlas.Proofs.FileTree.Proper
import CallAtlas.Proofs.Function.Duplicates
import CallAtlas.Proofs.Function.Extent
import CallAtlas.Proofs.Function.Naming
import CallAtlas.Proofs.Function.Records
import CallAtlas.Proofs.Function.Registration
import CallAtlas.Proofs.Graph.Analysis
import CallAtlas.Proofs.Graph.DeadCode
import CallAtlas.Proofs.Graph.Search
import CallAtlas.Proofs.Path.Names
import CallAtlas.Proofs.Path.Order
import CallAtlas.Proofs.Removal.Absorption
import CallAtlas.Proofs.Removal.BlankLines
import CallAtlas.Proofs.Removal.Cutting
import CallAtlas.Proofs.Removal.Frame
import CallAtlas.Proofs.Removal.Growth
import CallAtlas.Proofs.Removal.Merging
import CallAtlas.Proofs.Removal.Outcome
import CallAtlas.Proofs.Removal.Separators
import CallAtlas.Proofs.Removal.Spans
import CallAtlas.Proofs.Removal.Tokens
import CallAtlas.Proofs.Report.DeadSection
import CallAtlas.Proofs.Report.Plain
import CallAtlas.Proofs.Survey.Files
import CallAtlas.Proofs.Text.BlankRuns
import CallAtlas.Proofs.Text.LineCounts
import CallAtlas.Proofs.Text.Offsets
import CallAtlas.Proofs.Text.Parts
import CallAtlas.Proofs.Text.RunPattern
import CallAtlas.Proofs.Text.Squeezing
import CallAtlas.Proofs.Text.Survival
import CallAtlas.Proofs.Tree.Faults
import CallAtlas.Proofs.Tree.Layout
import CallAtlas.Proofs.Tree.Places
import CallAtlas.Proofs.Tree.Resolution
import CallAtlas.Proofs.Tree.Sketch
import CallAtlas.Proofs.Tree.Visits
import CallAtlas.Removal.Basic
import CallAtlas.Removal.BlankRun
import CallAtlas.Removal.Cut
import CallAtlas.Render.Basic
import CallAtlas.Render.Process
import CallAtlas.Report.Basic
import CallAtlas.Report.Json
import CallAtlas.Script
import CallAtlas.Script.Arithmetic
import CallAtlas.Script.Builtin.Basic
import CallAtlas.Script.Builtin.Directory
import CallAtlas.Script.Builtin.Limits
import CallAtlas.Script.Builtin.Names
import CallAtlas.Script.Builtin.Printing
import CallAtlas.Script.Builtin.Settings
import CallAtlas.Script.Builtin.Signals
import CallAtlas.Script.Builtin.Table
import CallAtlas.Script.Builtin.Variables
import CallAtlas.Script.ByteText
import CallAtlas.Script.Condition
import CallAtlas.Script.Decimal.Places
import CallAtlas.Script.Decimal.Real
import CallAtlas.Script.Execution
import CallAtlas.Script.Expansion
import CallAtlas.Script.Format
import CallAtlas.Script.Grammar
import CallAtlas.Script.Launch
import CallAtlas.Script.Links
import CallAtlas.Script.Machine
import CallAtlas.Script.Opening
import CallAtlas.Script.Pattern
import CallAtlas.Script.Process
import CallAtlas.Script.Program
import CallAtlas.Script.Redirection
import CallAtlas.Script.Regex
import CallAtlas.Script.Shell
import CallAtlas.Script.Signal
import CallAtlas.Script.Subshell
import CallAtlas.Script.Token
import CallAtlas.Script.Utility.Backups
import CallAtlas.Script.Utility.Catenation
import CallAtlas.Script.Utility.Characters
import CallAtlas.Script.Utility.Comparison
import CallAtlas.Script.Utility.Copying
import CallAtlas.Script.Utility.Environment
import CallAtlas.Script.Utility.Expressions
import CallAtlas.Script.Utility.Extents
import CallAtlas.Script.Utility.Finding
import CallAtlas.Script.Utility.Formatting
import CallAtlas.Script.Utility.Linking
import CallAtlas.Script.Utility.Listing
import CallAtlas.Script.Utility.Making
import CallAtlas.Script.Utility.Modes
import CallAtlas.Script.Utility.Names
import CallAtlas.Script.Utility.Options
import CallAtlas.Script.Utility.Paths
import CallAtlas.Script.Utility.Quoting
import CallAtlas.Script.Utility.Records
import CallAtlas.Script.Utility.Removing
import CallAtlas.Script.Utility.Running
import CallAtlas.Script.Utility.Search
import CallAtlas.Script.Utility.Sed
import CallAtlas.Script.Utility.Sed.Commands
import CallAtlas.Script.Utility.Sed.Editing
import CallAtlas.Script.Utility.Sequence
import CallAtlas.Script.Utility.Sorting
import CallAtlas.Script.Utility.Table
import CallAtlas.Script.Utility.Testing
import CallAtlas.Script.Utility.WordRunning
import CallAtlas.Settings.Basic
import CallAtlas.Settings.Shape
import CallAtlas.Survey.Basic
import CallAtlas.Text.Blank
import CallAtlas.Text.Bytes
import CallAtlas.Text.Invisible
import CallAtlas.Text.Lines
import CallAtlas.Text.Lossy
import CallAtlas.Text.Position
import CallAtlas.Text.Quoted
import CallAtlas.Text.Reader
import CallAtlas.Toml.Document
import CallAtlas.Toml.Lexical
import CallAtlas.Toml.Numbers
import CallAtlas.Toml.Strings
import CallAtlas.Toml.Value
import CallAtlas.Tree.Checked
import CallAtlas.Tree.Cursor
import CallAtlas.Tree.Node
import CallAtlas.Tree.Outline
import CallAtlas.Tree.Written
