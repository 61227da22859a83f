import Folio.Blog.Basic
import Folio.Blog.Frontmatter
import Folio.Blog.Post
import Folio.Calendar.Date
import Folio.Calendar.Instant
import Folio.Catalog.Basic
import Folio.Catalog.Lookup
import Folio.Catalog.Navigation
import Folio.Catalog.Summary
import Folio.Console.Arguments
import Folio.Console.BlogAnswer
import Folio.Console.CatalogAnswer
import Folio.Console.Completion
import Folio.Console.Failure
import Folio.Console.Grammar
import Folio.Console.Presentation
import Folio.Console.Program
import Folio.Console.Reply
import Folio.Console.Request
import Folio.Console.Run
import Folio.Console.Table
import Folio.Console.Usage
import Folio.Console.Verbosity
import Folio.Disk
import Folio.Document.Basic
import Folio.Document.Format
import Folio.Document.Route
import Folio.Document.Status
import Folio.FileSystem.Basic
import Folio.FileSystem.Tree
import Folio.Json.Basic
import Folio.Json.Reader
import Folio.Main
import Folio.Metadata.Extraction
import Folio.Metadata.Markdown
import Folio.Metadata.Schema
import Folio.Number.Binary64
import Folio.Path
import Folio.Proofs.Blog.Enumeration
import Folio.Proofs.Blog.Fences
import Folio.Proofs.Blog.Fields
import Folio.Proofs.Blog.Found
import Folio.Proofs.Blog.Gate
import Folio.Proofs.Blog.Listed
import Folio.Proofs.Blog.Names
import Folio.Proofs.Blog.Order
import Folio.Proofs.Blog.Reading
import Folio.Proofs.Calendar.Counting
import Folio.Proofs.Calendar.Digits
import Folio.Proofs.Calendar.Inverse
import Folio.Proofs.Calendar.Notations
import Folio.Proofs.Calendar.Wording
import Folio.Proofs.Catalog.Confinement
import Folio.Proofs.Catalog.Consistency
import Folio.Proofs.Catalog.Enumeration
import Folio.Proofs.Catalog.Exclusion
import Folio.Proofs.Catalog.Files
import Folio.Proofs.Catalog.Found
import Folio.Proofs.Catalog.Listing
import Folio.Proofs.Catalog.Locality
import Folio.Proofs.Catalog.Lookup
import Folio.Proofs.Catalog.Navigation
import Folio.Proofs.Catalog.Priority
import Folio.Proofs.Catalog.Reading
import Folio.Proofs.Catalog.Routes
import Folio.Proofs.Comparison
import Folio.Proofs.Console.Alignment
import Folio.Proofs.Console.Categories
import Folio.Proofs.Console.Ending
import Folio.Proofs.Console.Exclusion
import Folio.Proofs.Console.Links
import Folio.Proofs.Console.Reply
import Folio.Proofs.Console.Run
import Folio.Proofs.Console.Shown
import Folio.Proofs.Console.Suggestion
import Folio.Proofs.Document.FileName
import Folio.Proofs.Document.Order
import Folio.Proofs.Document.Status
import Folio.Proofs.FileSystem.Agreement
import Folio.Proofs.FileSystem.Alike
import Folio.Proofs.FileSystem.Entry
import Folio.Proofs.FileSystem.Enumeration
import Folio.Proofs.FileSystem.Nodes
import Folio.Proofs.FileSystem.Replacement
import Folio.Proofs.FileSystem.Tree
import Folio.Proofs.LineEnding
import Folio.Proofs.Locality
import Folio.Proofs.Metadata.Extension
import Folio.Proofs.Metadata.Heading
import Folio.Proofs.Metadata.Marker
import Folio.Proofs.Metadata.Schema
import Folio.Proofs.Metadata.Version
import Folio.Proofs.Outcome
import Folio.Proofs.Path
import Folio.Proofs.Settings.BaseUrl
import Folio.Proofs.Settings.Merging
import Folio.Proofs.Sorting
import Folio.Proofs.Text.Case
import Folio.Proofs.Text.Distance
import Folio.Proofs.Text.Edit
import Folio.Proofs.Text.Lines
import Folio.Proofs.Text.Order
import Folio.Proofs.Text.Pattern
import Folio.Proofs.Text.Replacing
import Folio.Proofs.Text.Runs
import Folio.Proofs.Text.Trim
import Folio.Proofs.Title.Capitals
import Folio.Proofs.Title.Correction
import Folio.Proofs.Title.Words
import Folio.Proofs.Yaml.Pair
import Folio.Proofs.Yaml.Remarks
import Folio.Settings.Basic
import Folio.Settings.File
import Folio.Text.Distance
import Folio.Text.Escaped
import Folio.Text.Lines
import Folio.Text.Pattern
import Folio.Text.Split
import Folio.Text.Utf8
import Folio.Text.Words
import Folio.Title
import Folio.Unicode.Case
import Folio.Unicode.Classes
import Folio.Unicode.Printable
import Folio.Yaml.Composition
import Folio.Yaml.Cursor
import Folio.Yaml.Error
import Folio.Yaml.Event
import Folio.Yaml.Lexer
import Folio.Yaml.Resolution
import Folio.Yaml.Scalar.Block
import Folio.Yaml.Scalar.Folding
import Folio.Yaml.Scalar.Plain
import Folio.Yaml.Scalar.Quoted
import Folio.Yaml.Tag
import Folio.Yaml.Token
import Folio.Yaml.Value
