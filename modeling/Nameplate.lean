import Nameplate.Binary
import Nameplate.Catalog
import Nameplate.Category
import Nameplate.CommandLine.Arguments
import Nameplate.CommandLine.Grammar
import Nameplate.CommandLine.Run
import Nameplate.Decimal
import Nameplate.Description
import Nameplate.Document
import Nameplate.Document.Reader
import Nameplate.Document.Writer
import Nameplate.Files
import Nameplate.Files.Format
import Nameplate.Files.Loading
import Nameplate.Files.Plain
import Nameplate.Graph
import Nameplate.Graph.MediaClasses
import Nameplate.Graph.Run
import Nameplate.IdMap
import Nameplate.Journal
import Nameplate.Main
import Nameplate.MediaClass
import Nameplate.Names
import Nameplate.Names.Section
import Nameplate.Path
import Nameplate.Record
import Nameplate.Report
import Nameplate.Resolution
import Nameplate.Settings
import Nameplate.Snapshot
import Nameplate.Subject
import Nameplate.Tag
import Nameplate.Template
import Nameplate.Template.Reader
import Nameplate.Terminal
import Nameplate.Text.Integer
import Nameplate.Text.Pieces
import Nameplate.Text.Printable
import Nameplate.Text.Quoted
import Nameplate.Text.Surrogates
import Nameplate.Text.Uppercase
import Nameplate.Proofs.Template.NormalForm
import Nameplate.Proofs.Template.RoundTrip
import Nameplate.Proofs.Template.Faults
import Nameplate.Proofs.Template.Concatenation
import Nameplate.Proofs.Template.Rendering
import Nameplate.Proofs.Document.Keys
import Nameplate.Proofs.Record.Fields
import Nameplate.Proofs.Resolution.Precedence
import Nameplate.Proofs.Names.NormalForm
import Nameplate.Proofs.Names.Section
import Nameplate.Proofs.Settings.Reload
import Nameplate.Proofs.Template.Equality
import Nameplate.Proofs.Graph.Run
import Nameplate.Proofs.Resolution.Locality
import Nameplate.Proofs.Graph.Keys
import Nameplate.Proofs.Description.Bulk
import Nameplate.Proofs.Graph.History
import Nameplate.Proofs.Description.Arrangement
import Nameplate.Proofs.Description.Renaming
import Nameplate.Proofs.CommandLine.Values
import Nameplate.Proofs.CommandLine.Endings
import Nameplate.Proofs.Snapshot.Records
import Nameplate.Proofs.Snapshot.Validity
import Nameplate.Proofs.Graph.Updates
import Nameplate.Proofs.Names.Validity
import Nameplate.Proofs.Resolution.Learning
import Nameplate.Proofs.Names.Faults
import Nameplate.Proofs.Document.Rearrangement
import Nameplate.Proofs.Names.Rearrangement
import Nameplate.Proofs.Snapshot.Rearrangement
import Nameplate.Proofs.Files.Roots
import Nameplate.Proofs.Graph.Replacement
import Nameplate.Proofs.Text.Plain
import Nameplate.Proofs.Terminal.Printing
import Nameplate.Proofs.Document.Written
import Nameplate.Proofs.CommandLine.Selection
import Nameplate.Proofs.Description.Contents
import Nameplate.Proofs.CommandLine.Table
import Nameplate.Proofs.Tag.Forms
import Nameplate.Proofs.Template.Placeholders
import Nameplate.Proofs.Graph.MediaClasses
import Nameplate.Proofs.Report.Templates
import Nameplate.Proofs.Terminal.Printing
import Nameplate.Proofs.Document.Written
