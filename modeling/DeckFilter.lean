import DeckFilter.Command
import DeckFilter.Command.Names
import DeckFilter.Command.Options
import DeckFilter.Config
import DeckFilter.Config.Load
import DeckFilter.Config.Text
import DeckFilter.Container
import DeckFilter.Context
import DeckFilter.Diagnostic
import DeckFilter.Document
import DeckFilter.Document.Decode
import DeckFilter.Document.DecodeError
import DeckFilter.Document.Encode
import DeckFilter.Document.Height
import DeckFilter.Document.Shape
import DeckFilter.Document.Traverse
import DeckFilter.Double
import DeckFilter.Double.Shortest
import DeckFilter.Entries
import DeckFilter.Files
import DeckFilter.Files.Path
import DeckFilter.Files.Tree
import DeckFilter.Filter
import DeckFilter.FilterError
import DeckFilter.Json
import DeckFilter.Json.Parse
import DeckFilter.Json.Text
import DeckFilter.Latex
import DeckFilter.Listing
import DeckFilter.Log
import DeckFilter.Log.Directive
import DeckFilter.Log.Pattern
import DeckFilter.Log.Report
import DeckFilter.Main
import DeckFilter.Overlay
import DeckFilter.Role
import DeckFilter.SearchPath
import DeckFilter.Settings
import DeckFilter.Settings.Block
import DeckFilter.Settings.Flow
import DeckFilter.Settings.Number
import DeckFilter.Settings.Print
import DeckFilter.Settings.Read
import DeckFilter.Settings.Scan
import DeckFilter.Settings.Style
import DeckFilter.Slide
import DeckFilter.Text.Alphanumeric
import DeckFilter.Text.Digits
import DeckFilter.Text.Lines
import DeckFilter.Text.Shapeless
import DeckFilter.Text.Space
import DeckFilter.Walk
import DeckFilter.Proofs.Text.Digits
import DeckFilter.Proofs.Text.Lines
import DeckFilter.Proofs.Document.Nodes
import DeckFilter.Proofs.Document.Written
import DeckFilter.Proofs.Document.Canonical
import DeckFilter.Proofs.Document.Decoded
import DeckFilter.Proofs.Document.ReadWritten
import DeckFilter.Proofs.Document.WriteRead
import DeckFilter.Proofs.Document.RoundTrip
import DeckFilter.Proofs.Walk.Refinement
import DeckFilter.Proofs.Walk.Document
import DeckFilter.Proofs.Document.WellFormed
import DeckFilter.Proofs.Document.Readable
import DeckFilter.Proofs.Document.Text
import DeckFilter.Proofs.Document.Traversal
import DeckFilter.Proofs.Walk.Recording
import DeckFilter.Proofs.Json.Parsed
import DeckFilter.Proofs.Json.Printed
import DeckFilter.Proofs.Document.MapLists
import DeckFilter.Proofs.Document.Routes
import DeckFilter.Proofs.Document.Positions
import DeckFilter.Proofs.Document.Breaks
import DeckFilter.Proofs.Document.Recursion
import DeckFilter.Proofs.Document.Edited
import DeckFilter.Proofs.Document.FirstError
import DeckFilter.Proofs.Walk.Answers
import DeckFilter.Proofs.Walk.Steady
import DeckFilter.Proofs.Walk.Places
import DeckFilter.Proofs.Walk.Alike
import DeckFilter.Proofs.Walk.Deleting
import DeckFilter.Proofs.Settings.Scalars
import DeckFilter.Proofs.Settings.Characters
import DeckFilter.Proofs.Settings.Keys
import DeckFilter.Proofs.Settings.Written
import DeckFilter.Proofs.Config.Reread
import DeckFilter.Proofs.Filter.Adding
import DeckFilter.Proofs.Filter.Answers
import DeckFilter.Proofs.Filter.Asked
import DeckFilter.Proofs.Filter.Concatenation
import DeckFilter.Proofs.Filter.Conservation
import DeckFilter.Proofs.Filter.Failures
import DeckFilter.Proofs.Filter.Fallbacks
import DeckFilter.Proofs.Filter.Handout
import DeckFilter.Proofs.Filter.Instructor
import DeckFilter.Proofs.Filter.Nesting
import DeckFilter.Proofs.Filter.Opened
import DeckFilter.Proofs.Filter.OtherFormats
import DeckFilter.Proofs.Filter.Results
import DeckFilter.Proofs.Filter.Settled
import DeckFilter.Proofs.Filter.Edits
import DeckFilter.Proofs.Filter.Reread
import DeckFilter.Proofs.Filter.RoleIssues
import DeckFilter.Proofs.Filter.Unnoticed
import DeckFilter.Proofs.Entries.Set
import DeckFilter.Proofs.Files.Changes
import DeckFilter.Proofs.Files.SearchPath
import DeckFilter.Proofs.Listing.Arguments
import DeckFilter.Proofs.Listing.CodeBlock
import DeckFilter.Proofs.Listing.Excerpt
import DeckFilter.Proofs.Overlay.Selectors
import DeckFilter.Proofs.Role.Formats
import DeckFilter.Proofs.Role.Markup
import DeckFilter.Proofs.Role.Tokens
import DeckFilter.Proofs.Command.Output
import DeckFilter.Proofs.Log.Environment
