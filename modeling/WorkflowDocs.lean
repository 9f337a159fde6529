import WorkflowDocs.Calls.CallList
import WorkflowDocs.Catalog.Agreement
import WorkflowDocs.Catalog.CommandInfo
import WorkflowDocs.Catalog.Document
import WorkflowDocs.Catalog.ImageInfo
import WorkflowDocs.Catalog.ParseFailure
import WorkflowDocs.Catalog.Survey
import WorkflowDocs.Catalog.TypeInfo
import WorkflowDocs.Command.Arguments
import WorkflowDocs.Command.Graph
import WorkflowDocs.Command.Run
import WorkflowDocs.Component.Badge
import WorkflowDocs.Component.Basic
import WorkflowDocs.Component.Datum
import WorkflowDocs.Component.Entry
import WorkflowDocs.Component.Figure
import WorkflowDocs.Component.Filter
import WorkflowDocs.Component.Section
import WorkflowDocs.Component.Table
import WorkflowDocs.Decimal.Binary64
import WorkflowDocs.Decimal.Notation
import WorkflowDocs.Decimal.Reading
import WorkflowDocs.Decimal.Shortest
import WorkflowDocs.Fields
import WorkflowDocs.FileTree.Basic
import WorkflowDocs.FileTree.Steps
import WorkflowDocs.Flowchart.Dependencies
import WorkflowDocs.Flowchart.Figure
import WorkflowDocs.Flowchart.Mermaid
import WorkflowDocs.Html.Badge
import WorkflowDocs.Html.Basic
import WorkflowDocs.Html.Error
import WorkflowDocs.Html.InventoryList
import WorkflowDocs.Html.Layout
import WorkflowDocs.Html.Modal
import WorkflowDocs.Html.Section
import WorkflowDocs.Html.Stats
import WorkflowDocs.Html.Table
import WorkflowDocs.Html.Tabs
import WorkflowDocs.Images.Inventory
import WorkflowDocs.Images.TaskImage
import WorkflowDocs.Literal.Basic
import WorkflowDocs.Literal.Dialect
import WorkflowDocs.Literal.Escape
import WorkflowDocs.Literal.Json
import WorkflowDocs.Literal.Layer
import WorkflowDocs.Literal.Nesting
import WorkflowDocs.Literal.Number
import WorkflowDocs.Literal.Parameters
import WorkflowDocs.Literal.Reader
import WorkflowDocs.Literal.Run
import WorkflowDocs.Literal.Scan
import WorkflowDocs.Literal.Standard
import WorkflowDocs.Literal.Template
import WorkflowDocs.Literal.Term
import WorkflowDocs.Literal.Token
import WorkflowDocs.Main
import WorkflowDocs.Page.Document
import WorkflowDocs.Page.Index
import WorkflowDocs.Page.Inventory
import WorkflowDocs.Path.Basic
import WorkflowDocs.Path.Fault
import WorkflowDocs.Path.Link
import WorkflowDocs.Path.Normalize
import WorkflowDocs.Project.Discovery
import WorkflowDocs.Project.Imports
import WorkflowDocs.Proofs.Calls.Nodes
import WorkflowDocs.Proofs.Catalog.Descriptions
import WorkflowDocs.Proofs.Catalog.Indentation
import WorkflowDocs.Proofs.Catalog.PrintedTypes
import WorkflowDocs.Proofs.Catalog.StructuredNotes
import WorkflowDocs.Proofs.Command.GraphFile
import WorkflowDocs.Proofs.Decimal.Characters
import WorkflowDocs.Proofs.Decimal.Range
import WorkflowDocs.Proofs.Fields
import WorkflowDocs.Proofs.FileTree.Effect
import WorkflowDocs.Proofs.FileTree.Room
import WorkflowDocs.Proofs.FileTree.Writing
import WorkflowDocs.Proofs.Flowchart.BoxLabels
import WorkflowDocs.Proofs.Flowchart.Collection
import WorkflowDocs.Proofs.Flowchart.Drawing
import WorkflowDocs.Proofs.Flowchart.Events
import WorkflowDocs.Proofs.Flowchart.Followed
import WorkflowDocs.Proofs.Flowchart.Gathered
import WorkflowDocs.Proofs.Flowchart.Graph
import WorkflowDocs.Proofs.Flowchart.Labels
import WorkflowDocs.Proofs.Flowchart.Lines
import WorkflowDocs.Proofs.Flowchart.Lookback
import WorkflowDocs.Proofs.Flowchart.Nesting
import WorkflowDocs.Proofs.Flowchart.Reading
import WorkflowDocs.Proofs.Flowchart.Reordering
import WorkflowDocs.Proofs.Flowchart.Rooted
import WorkflowDocs.Proofs.Grouping
import WorkflowDocs.Proofs.Html.Components
import WorkflowDocs.Proofs.Html.Inert
import WorkflowDocs.Proofs.Html.ScriptText
import WorkflowDocs.Proofs.Images.Called
import WorkflowDocs.Proofs.Images.Defaults
import WorkflowDocs.Proofs.Images.Flags
import WorkflowDocs.Proofs.Images.Groups
import WorkflowDocs.Proofs.Images.Parameters
import WorkflowDocs.Proofs.Images.Search
import WorkflowDocs.Proofs.Lists
import WorkflowDocs.Proofs.Literal.Dictionary
import WorkflowDocs.Proofs.Literal.Faults
import WorkflowDocs.Proofs.Literal.JsonText
import WorkflowDocs.Proofs.Literal.QuotedText
import WorkflowDocs.Proofs.Literal.ReadBack
import WorkflowDocs.Proofs.Literal.Structured
import WorkflowDocs.Proofs.Page.Overview
import WorkflowDocs.Proofs.Page.Rendering
import WorkflowDocs.Proofs.Page.Scripts
import WorkflowDocs.Proofs.Page.SearchData
import WorkflowDocs.Proofs.Path.Composition
import WorkflowDocs.Proofs.Path.Link
import WorkflowDocs.Proofs.Path.Placement
import WorkflowDocs.Proofs.Path.Resolve
import WorkflowDocs.Proofs.Project.Partition
import WorkflowDocs.Proofs.Project.Sources
import WorkflowDocs.Proofs.Results
import WorkflowDocs.Proofs.Site.Callers
import WorkflowDocs.Proofs.Site.Completion
import WorkflowDocs.Proofs.Site.Confinement
import WorkflowDocs.Proofs.Site.Footprint
import WorkflowDocs.Proofs.Site.Inventory
import WorkflowDocs.Proofs.Site.Links
import WorkflowDocs.Proofs.Site.Listing
import WorkflowDocs.Proofs.Site.PageLinks
import WorkflowDocs.Proofs.Site.Pages
import WorkflowDocs.Proofs.Site.Shared
import WorkflowDocs.Proofs.Site.UsageLinks
import WorkflowDocs.Proofs.Text.Occurrences
import WorkflowDocs.Proofs.Traversal
import WorkflowDocs.Proofs.Wdl.Mentions
import WorkflowDocs.Proofs.Wdl.Quotes
import WorkflowDocs.Proofs.Workspace.Closure
import WorkflowDocs.Proofs.Workspace.Entries
import WorkflowDocs.Proofs.Workspace.External
import WorkflowDocs.Proofs.Workspace.Visits
import WorkflowDocs.Sample.Documents
import WorkflowDocs.Sample.Source
import WorkflowDocs.Sample.Tree
import WorkflowDocs.Serve
import WorkflowDocs.Site.Assets
import WorkflowDocs.Site.Callers
import WorkflowDocs.Site.Generate
import WorkflowDocs.Site.Index
import WorkflowDocs.Site.Inventory
import WorkflowDocs.Text.Alphanumeric
import WorkflowDocs.Text.Blank
import WorkflowDocs.Text.CaseMap
import WorkflowDocs.Text.CharacterName
import WorkflowDocs.Text.CharacterName.Block
import WorkflowDocs.Text.CharacterName.Functions
import WorkflowDocs.Text.CharacterName.Letters
import WorkflowDocs.Text.CharacterName.Pictographs
import WorkflowDocs.Text.CharacterName.Symbols
import WorkflowDocs.Text.Cut
import WorkflowDocs.Text.Digits
import WorkflowDocs.Text.Hidden
import WorkflowDocs.Text.JsonString
import WorkflowDocs.Text.LetterStyle
import WorkflowDocs.Text.Letters
import WorkflowDocs.Text.Names
import WorkflowDocs.Text.Newline
import WorkflowDocs.Text.Quoted
import WorkflowDocs.Wdl.Document
import WorkflowDocs.Wdl.Expr
import WorkflowDocs.Wdl.Expr.Literal
import WorkflowDocs.Wdl.Expr.Printer
import WorkflowDocs.Wdl.Expr.References
import WorkflowDocs.Wdl.Type
import WorkflowDocs.Workload.Catalog
import WorkflowDocs.Workload.Finding
import WorkflowDocs.Workload.Output
import WorkflowDocs.Workload.Paths
import WorkflowDocs.Workload.Project
import WorkflowDocs.Workload.Run
import WorkflowDocs.Workload.Sources
import WorkflowDocs.Workspace.Collect
import WorkflowDocs.Workspace.Load
import WorkflowDocs.Workspace.Parse
