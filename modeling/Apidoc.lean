import Apidoc.Calendar
import Apidoc.Catalog
import Apidoc.Catalog.Linking
import Apidoc.Command
import Apidoc.Command.Arguments
import Apidoc.Comment
import Apidoc.CommentFile
import Apidoc.CommentFile.Read
import Apidoc.Console.Colour
import Apidoc.Console.Emoji
import Apidoc.Console.Escape
import Apidoc.Console.Literal
import Apidoc.Console.Literal.Phrase
import Apidoc.Console.Literal.Token
import Apidoc.Console.Markup
import Apidoc.Console.Panel
import Apidoc.Console.Style
import Apidoc.Console.Table
import Apidoc.Console.Wrap
import Apidoc.Decimal.Read
import Apidoc.Decimal.Shortest
import Apidoc.Decimal.Style
import Apidoc.Digest.Sha1
import Apidoc.Encoding
import Apidoc.Encoding.Decoder
import Apidoc.Encoding.Fault
import Apidoc.Encoding.Registry
import Apidoc.Encoding.SingleByte
import Apidoc.Encoding.Utf16
import Apidoc.Encoding.Utf32
import Apidoc.Encoding.Utf8
import Apidoc.Entity
import Apidoc.Entity.Change
import Apidoc.Entity.Collection
import Apidoc.Entity.Details
import Apidoc.Entity.Kind
import Apidoc.Entity.Link
import Apidoc.Excerpt
import Apidoc.Files.Folder
import Apidoc.Files.Path
import Apidoc.Log
import Apidoc.Log.Desk
import Apidoc.Main
import Apidoc.MemberId
import Apidoc.Notice
import Apidoc.Ordered
import Apidoc.Problem
import Apidoc.Proofs.MemberId
import Apidoc.Proofs.Ordered
import Apidoc.Report
import Apidoc.Session
import Apidoc.Settings
import Apidoc.Settings.Load
import Apidoc.Stem
import Apidoc.Stem.Template
import Apidoc.Text.Blank
import Apidoc.Text.Cells
import Apidoc.Text.Cluster
import Apidoc.Text.Digit
import Apidoc.Text.Identifier
import Apidoc.Text.Integer
import Apidoc.Text.Lower
import Apidoc.Text.Printable
import Apidoc.Text.Quoted
import Apidoc.Text.Ranges
import Apidoc.Text.Slice
import Apidoc.Text.Word
import Apidoc.Toml.Document
import Apidoc.Toml.Fault
import Apidoc.Toml.Lexis
import Apidoc.Toml.Nest
import Apidoc.Toml.Number
import Apidoc.Toml.Reader
import Apidoc.Value
import Apidoc.Xml.Aside
import Apidoc.Xml.Char
import Apidoc.Xml.Content
import Apidoc.Xml.Doctype
import Apidoc.Xml.Document
import Apidoc.Xml.Fault
import Apidoc.Xml.Markup
import Apidoc.Xml.Prolog.Declaration
import Apidoc.Xml.Prolog.Subset
import Apidoc.Xml.Prolog.Token
import Apidoc.Xml.Reader
import Apidoc.Xml.Reference
import Apidoc.Xml.Scope
import Apidoc.Xml.Tag
import Apidoc.Xml.Value
import Apidoc.Xml.Weight
import Apidoc.Proofs.Catalog.Linking
import Apidoc.Proofs.Catalog.Build
import Apidoc.Proofs.Catalog.Placement
import Apidoc.Proofs.Outcome
import Apidoc.Proofs.Stem
import Apidoc.Proofs.Catalog.Reordering
import Apidoc.Proofs.Xml.Run
import Apidoc.Proofs.Xml.Step
import Apidoc.Proofs.Xml.Context
import Apidoc.Proofs.Xml.Epilog
import Apidoc.Proofs.Xml.Fragment
import Apidoc.Proofs.Xml.TagMarkup
import Apidoc.Proofs.Xml.Opening
import Apidoc.Proofs.CommentFile
import Apidoc.Proofs.Xml.Token
import Apidoc.Proofs.Xml.Declared
import Apidoc.Proofs.Xml.Sound
import Apidoc.Proofs.Xml.Parsed
import Apidoc.Proofs.Xml.Prefixes
import Apidoc.Proofs.Xml.Bound
import Apidoc.Proofs.Xml.RoundTrip
import Apidoc.Proofs.Comment
import Apidoc.Proofs.Xml.Misspelt
import Apidoc.Proofs.Catalog.Identity
import Apidoc.Proofs.Entity.Documentation
import Apidoc.Proofs.Settings.Checked
import Apidoc.Proofs.Toml.Assignment
import Apidoc.Proofs.Toml.Keys
import Apidoc.Proofs.Settings.Precedence
import Apidoc.Proofs.Console.Escape
import Apidoc.Proofs.Settings.Failures
import Apidoc.Proofs.Command.Refusal
import Apidoc.Proofs.Catalog.Faults
import Apidoc.Proofs.Command.Verbosity
import Apidoc.Proofs.Log.Files
import Apidoc.Proofs.Console.Tags
import Apidoc.Proofs.Console.Seam
import Apidoc.Proofs.Console.Item
import Apidoc.Proofs.Report
import Apidoc.Proofs.Command.Display
import Apidoc.Proofs.Text.Stretch
import Apidoc.Proofs.Text.Pieces
import Apidoc.Proofs.Text.Lower
import Apidoc.Proofs.Text.Tidy
import Apidoc.Proofs.Stem.Tokens
import Apidoc.Proofs.Stem.Safety
import Apidoc.Proofs.Stem.Idempotence
import Apidoc.Proofs.Catalog.Refusal
import Apidoc.Proofs.CommentFile.Members
import Apidoc.Proofs.Encoding
import Apidoc.Proofs.Command.Input
import Apidoc.Proofs.Console.Verbatim
import Apidoc.Proofs.Command.Listing
import Apidoc.Proofs.Catalog.Accounting
import Apidoc.Proofs.Catalog.Leaves
import Apidoc.Proofs.Comment.Joining
import Apidoc.Proofs.Settings.Culprit
import Apidoc.Proofs.Excerpt
import Apidoc.Proofs.MemberId.Names
import Apidoc.Proofs.Entity.Collection
