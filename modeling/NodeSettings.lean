import NodeSettings.Address.Literal
import NodeSettings.Address.Lookup
import NodeSettings.CommandLine.Argument
import NodeSettings.CommandLine.Overrides
import NodeSettings.Config.Basic
import NodeSettings.Config.Validation
import NodeSettings.Consistency
import NodeSettings.Document.Content
import NodeSettings.Document.Entry
import NodeSettings.Document.Interpolation
import NodeSettings.Document.Reader
import NodeSettings.Document.Value
import NodeSettings.Dump
import NodeSettings.Files.Access
import NodeSettings.Files.Creation
import NodeSettings.Files.Location
import NodeSettings.Files.Path
import NodeSettings.Files.Tree
import NodeSettings.Log.Format
import NodeSettings.Log.Highlight
import NodeSettings.Log.Journal
import NodeSettings.Log.Level
import NodeSettings.Log.Record
import NodeSettings.Log.Report
import NodeSettings.Log.Sanitize
import NodeSettings.Log.Settings
import NodeSettings.Log.Template.Basic
import NodeSettings.Log.Template.Conversion
import NodeSettings.Log.Template.Notation
import NodeSettings.Log.Template.Rendering
import NodeSettings.Main
import NodeSettings.Normalization
import NodeSettings.Notice
import NodeSettings.Outcome
import NodeSettings.Proofs.Address.Literal
import NodeSettings.Proofs.CommandLine.Agreement
import NodeSettings.Proofs.CommandLine.Argument
import NodeSettings.Proofs.CommandLine.Language
import NodeSettings.Proofs.CommandLine.Occurrences
import NodeSettings.Proofs.Config.Validity
import NodeSettings.Proofs.Document.Appending
import NodeSettings.Proofs.Document.Entries
import NodeSettings.Proofs.Document.FirstFault
import NodeSettings.Proofs.Document.Plain
import NodeSettings.Proofs.Document.Undecodable
import NodeSettings.Proofs.Document.Writing
import NodeSettings.Proofs.Log.Highlight
import NodeSettings.Proofs.Log.Sanitize
import NodeSettings.Proofs.Log.Settings
import NodeSettings.Proofs.Normalization.Fixpoint
import NodeSettings.Proofs.Normalization.Lookups
import NodeSettings.Proofs.Property.Integer
import NodeSettings.Proofs.Property.Overlay
import NodeSettings.Proofs.Property.Padding
import NodeSettings.Proofs.Property.Value
import NodeSettings.Proofs.Reload.Agreement
import NodeSettings.Proofs.Reload.Settings
import NodeSettings.Proofs.Seed.Entry
import NodeSettings.Proofs.Seed.List
import NodeSettings.Proofs.Session.Interleaving
import NodeSettings.Proofs.Session.Overlays
import NodeSettings.Proofs.Session.Reloads
import NodeSettings.Proofs.Session.Validity
import NodeSettings.Proofs.Startup.Endings
import NodeSettings.Proofs.Startup.Layers
import NodeSettings.Proofs.Startup.Refusal
import NodeSettings.Proofs.Text.Cut
import NodeSettings.Proofs.Text.Numeral
import NodeSettings.Proofs.Text.Utf8
import NodeSettings.Proofs.Text.WellFormed
import NodeSettings.Property.Basic
import NodeSettings.Property.Bindings
import NodeSettings.Property.Overlay
import NodeSettings.Property.Value
import NodeSettings.Reload
import NodeSettings.Seed.Basic
import NodeSettings.Seed.List
import NodeSettings.Session
import NodeSettings.Startup
import NodeSettings.Text.Basic
import NodeSettings.Text.Blank
import NodeSettings.Text.Capital
import NodeSettings.Text.Case
import NodeSettings.Text.CharClass
import NodeSettings.Text.Decimal
import NodeSettings.Text.Printable
import NodeSettings.Text.Quoted
import NodeSettings.Text.Utf8
import NodeSettings.Text.Word
import NodeSettings.Time.Calendar
import NodeSettings.Time.Clock
import NodeSettings.Time.Pattern
import NodeSettings.Proofs.Log.Format
import NodeSettings.Proofs.Log.Configuration
import NodeSettings.Proofs.Log.Calls
import NodeSettings.Proofs.Dump.Json
import NodeSettings.Proofs.Dump.Parts
import NodeSettings.Proofs.Dump.Reading
import NodeSettings.Proofs.Startup.Announcement
