import CommandManual.Command.Descriptor
import CommandManual.Command.Load
import CommandManual.Command.Manifest
import CommandManual.Command.Project
import CommandManual.Command.Provider
import CommandManual.Command.Registry
import CommandManual.Console.ColorNames
import CommandManual.Console.Emoji
import CommandManual.Console.EmojiTable
import CommandManual.Console.Expression
import CommandManual.Console.Expression.Token
import CommandManual.Console.Markup
import CommandManual.Console.Style
import CommandManual.Console.Styled
import CommandManual.Console.Table
import CommandManual.Console.Width
import CommandManual.Console.WidthTable
import CommandManual.Console.Wrap
import CommandManual.Data.Calendar
import CommandManual.Data.Fields
import CommandManual.Data.Json.Reader
import CommandManual.Data.Json.Writer
import CommandManual.Data.Misuse
import CommandManual.Data.TimePattern
import CommandManual.Data.Toml.Document
import CommandManual.Data.Toml.Reader
import CommandManual.Data.Value
import CommandManual.Data.Yaml
import CommandManual.Digest.Sha1
import CommandManual.Docs.Docblock
import CommandManual.Docs.Extract
import CommandManual.Docs.MethodDoc
import CommandManual.Docs.Page
import CommandManual.Fault
import CommandManual.Files.Access
import CommandManual.Files.Tree
import CommandManual.Files.Walk
import CommandManual.Log.Hub
import CommandManual.Log.Level
import CommandManual.Log.Record
import CommandManual.Log.Sink
import CommandManual.Log.Trace
import CommandManual.Main
import CommandManual.Manual.Generate
import CommandManual.Manual.Output
import CommandManual.Manual.Report
import CommandManual.Number.Binary64
import CommandManual.Number.Places
import CommandManual.Number.Shortest
import CommandManual.Path
import CommandManual.Problem
import CommandManual.ProblemKind
import CommandManual.Proofs.Action
import CommandManual.Proofs.Command.Apart
import CommandManual.Proofs.Command.Grammar
import CommandManual.Proofs.Command.Growth
import CommandManual.Proofs.Command.Intake
import CommandManual.Proofs.Command.Interrupted
import CommandManual.Proofs.Command.Load
import CommandManual.Proofs.Command.Manifest
import CommandManual.Proofs.Command.Once
import CommandManual.Proofs.Command.Plugins
import CommandManual.Proofs.Command.Project
import CommandManual.Proofs.Command.Registry
import CommandManual.Proofs.Command.Siblings
import CommandManual.Proofs.Console.Cells
import CommandManual.Proofs.Console.Markup
import CommandManual.Proofs.Console.Reading
import CommandManual.Proofs.Console.Table
import CommandManual.Proofs.Console.Width
import CommandManual.Proofs.Console.Wrapping
import CommandManual.Proofs.Data.Json
import CommandManual.Proofs.Data.Keys
import CommandManual.Proofs.Data.Value
import CommandManual.Proofs.Docs.Descriptions
import CommandManual.Proofs.Docs.Examples
import CommandManual.Proofs.Docs.Fences
import CommandManual.Proofs.Docs.FirstLine
import CommandManual.Proofs.Docs.Listing
import CommandManual.Proofs.Docs.Markers
import CommandManual.Proofs.Docs.Normal
import CommandManual.Proofs.Docs.Sections
import CommandManual.Proofs.Docs.Tags
import CommandManual.Proofs.Escape
import CommandManual.Proofs.Except
import CommandManual.Proofs.Files.Directories
import CommandManual.Proofs.Files.Paths
import CommandManual.Proofs.Files.Relisted
import CommandManual.Proofs.Files.Shape
import CommandManual.Proofs.Files.Walk
import CommandManual.Proofs.Frame
import CommandManual.Proofs.Log.Configure
import CommandManual.Proofs.Log.Ownership
import CommandManual.Proofs.Log.Variables
import CommandManual.Proofs.Manual.Abort
import CommandManual.Proofs.Manual.Breach
import CommandManual.Proofs.Manual.Command
import CommandManual.Proofs.Manual.Destination
import CommandManual.Proofs.Manual.Footprint
import CommandManual.Proofs.Manual.Isolation
import CommandManual.Proofs.Manual.Order
import CommandManual.Proofs.Manual.Pages
import CommandManual.Proofs.Manual.Report
import CommandManual.Proofs.Manual.Settled
import CommandManual.Proofs.Manual.Turns
import CommandManual.Proofs.Renumber.Calls
import CommandManual.Proofs.Renumber.Classes
import CommandManual.Proofs.Renumber.Imports
import CommandManual.Proofs.Renumber.Memory
import CommandManual.Proofs.Renumber.Objects
import CommandManual.Proofs.Renumber.Runs
import CommandManual.Proofs.Script.Finished
import CommandManual.Proofs.Script.Hierarchy
import CommandManual.Proofs.Script.Items
import CommandManual.Proofs.Script.Methods
import CommandManual.Proofs.Script.Modules
import CommandManual.Proofs.Script.Relisted
import CommandManual.Proofs.Script.SearchPath
import CommandManual.Proofs.Settings.Faults
import CommandManual.Proofs.Settings.Fields
import CommandManual.Proofs.Settings.Layers
import CommandManual.Proofs.Shell.Listing
import CommandManual.Proofs.Shell.Start
import CommandManual.Proofs.Text.Blanks
import CommandManual.Proofs.Text.Core
import CommandManual.Proofs.Text.Indent
import CommandManual.Proofs.Text.Lines
import CommandManual.Proofs.Text.Names
import CommandManual.Proofs.Text.Occurrences
import CommandManual.Proofs.Text.Seams
import CommandManual.Proofs.Text.Search
import CommandManual.Proofs.Text.Trimmed
import CommandManual.Script.Attribute
import CommandManual.Script.Call
import CommandManual.Script.Compiled
import CommandManual.Script.Errors
import CommandManual.Script.Import
import CommandManual.Script.Item
import CommandManual.Script.Known
import CommandManual.Script.KnownTable
import CommandManual.Script.Linearize
import CommandManual.Script.Memory
import CommandManual.Script.NewClass
import CommandManual.Script.Object
import CommandManual.Script.Offered
import CommandManual.Script.Run
import CommandManual.Settings.Basic
import CommandManual.Settings.Load
import CommandManual.Shell.Options
import CommandManual.Shell.Request
import CommandManual.Shell.Run
import CommandManual.Text.Basic
import CommandManual.Text.CaseTable
import CommandManual.Text.Casing
import CommandManual.Text.Digits
import CommandManual.Text.Format
import CommandManual.Text.Indent
import CommandManual.Text.Name
import CommandManual.Text.NameTable
import CommandManual.Text.Normal
import CommandManual.Text.NormalTable
import CommandManual.Text.Percent
import CommandManual.Text.Printable
import CommandManual.Text.Quoted
import CommandManual.Text.Reached
import CommandManual.Text.Search
import CommandManual.Text.Template
import CommandManual.Text.Utf8
import CommandManual.Workspace
