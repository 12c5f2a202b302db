import SchemaGen.CommandLine.Help
import SchemaGen.CommandLine.Options
import SchemaGen.CommandLine.Plan
import SchemaGen.CommandLine.Reader
import SchemaGen.Config.Basic
import SchemaGen.Config.Dotenv
import SchemaGen.Config.Literal
import SchemaGen.Config.Load
import SchemaGen.Config.Toml.Document
import SchemaGen.Config.Toml.Token
import SchemaGen.Config.Value
import SchemaGen.Decimal.Double
import SchemaGen.Decimal.Shortest
import SchemaGen.Entries
import SchemaGen.Files.Content
import SchemaGen.Files.Nearest
import SchemaGen.Files.OsError
import SchemaGen.Files.Path
import SchemaGen.Files.Tree
import SchemaGen.Json.Basic
import SchemaGen.Json.Fault
import SchemaGen.Json.Number
import SchemaGen.Json.Reader
import SchemaGen.Json.Writer
import SchemaGen.Main
import SchemaGen.Naming
import SchemaGen.Notice
import SchemaGen.Notice.Filter
import SchemaGen.Notice.Pattern
import SchemaGen.Proofs.CommandLine.Consistency
import SchemaGen.Proofs.CommandLine.Precedence
import SchemaGen.Proofs.Config.Credentials
import SchemaGen.Proofs.Config.Dotenv
import SchemaGen.Proofs.Config.Layers
import SchemaGen.Proofs.Config.Literals
import SchemaGen.Proofs.Config.Merging
import SchemaGen.Proofs.Config.Ordered
import SchemaGen.Proofs.Config.Sections
import SchemaGen.Proofs.Config.Settings
import SchemaGen.Proofs.Config.Variables
import SchemaGen.Proofs.Files.Alike
import SchemaGen.Proofs.Files.Changes
import SchemaGen.Proofs.Files.Parents
import SchemaGen.Proofs.Files.Target
import SchemaGen.Proofs.Json.Literal
import SchemaGen.Proofs.Json.Reader
import SchemaGen.Proofs.Json.Steps
import SchemaGen.Proofs.Json.Texts
import SchemaGen.Proofs.Members
import SchemaGen.Proofs.Naming
import SchemaGen.Proofs.Naming.Idempotence
import SchemaGen.Proofs.Naming.Separators
import SchemaGen.Proofs.Naming.Shown
import SchemaGen.Proofs.Occurrences
import SchemaGen.Proofs.Run.Completion
import SchemaGen.Proofs.Run.Independence
import SchemaGen.Proofs.Schema.Readings
import SchemaGen.Proofs.Schema.Records
import SchemaGen.Proofs.Schema.RoundTrip
import SchemaGen.Proofs.Script.Characters
import SchemaGen.Proofs.Script.Literals
import SchemaGen.Proofs.Source.Agreement
import SchemaGen.Proofs.Source.Attempt
import SchemaGen.Proofs.Source.Breaks
import SchemaGen.Proofs.Source.Completions
import SchemaGen.Proofs.Source.Details
import SchemaGen.Proofs.Source.Exchanges
import SchemaGen.Proofs.Source.ExportEntries
import SchemaGen.Proofs.Source.Objects
import SchemaGen.Proofs.Source.Pages
import SchemaGen.Proofs.Source.Refusals
import SchemaGen.Proofs.Source.Rows
import SchemaGen.Proofs.Source.SignIn
import SchemaGen.Proofs.StableSort
import SchemaGen.Proofs.Text.Bytes
import SchemaGen.Proofs.Text.Lines
import SchemaGen.Proofs.Traversal
import SchemaGen.Proofs.Web.Endings
import SchemaGen.Proofs.Zod.Addition
import SchemaGen.Proofs.Zod.Assembly
import SchemaGen.Proofs.Zod.CodeSafe
import SchemaGen.Proofs.Zod.Constants
import SchemaGen.Proofs.Zod.Declared
import SchemaGen.Proofs.Zod.Exports
import SchemaGen.Proofs.Zod.FieldOrder
import SchemaGen.Proofs.Zod.Keys
import SchemaGen.Proofs.Zod.Lines
import SchemaGen.Proofs.Zod.MemberLists
import SchemaGen.Proofs.Zod.Members
import SchemaGen.Proofs.Zod.Names
import SchemaGen.Proofs.Zod.Order
import SchemaGen.Proofs.Zod.Origin
import SchemaGen.Proofs.Zod.Reading
import SchemaGen.Proofs.Zod.Shapes
import SchemaGen.Proofs.Zod.Warnings
import SchemaGen.Run
import SchemaGen.Schema.Collection
import SchemaGen.Schema.Field
import SchemaGen.Schema.Kind
import SchemaGen.Schema.Mismatch
import SchemaGen.Schema.Record
import SchemaGen.Schema.Record.Text
import SchemaGen.Source.Attempt
import SchemaGen.Source.Basic
import SchemaGen.Source.Database
import SchemaGen.Source.Database.Location
import SchemaGen.Source.Error
import SchemaGen.Source.Export
import SchemaGen.Source.Reading
import SchemaGen.Source.Remote
import SchemaGen.Source.Table
import SchemaGen.Text.Alphanumeric
import SchemaGen.Text.Blank
import SchemaGen.Text.Blocks
import SchemaGen.Text.CaseTables
import SchemaGen.Text.Casing
import SchemaGen.Text.Composition
import SchemaGen.Text.Hexadecimal
import SchemaGen.Text.Letters
import SchemaGen.Text.Marks
import SchemaGen.Text.Pieces
import SchemaGen.Text.Place
import SchemaGen.Text.Printable
import SchemaGen.Text.Quoted
import SchemaGen.Text.Ranges
import SchemaGen.Time.Stamp
import SchemaGen.Web.Credentials
import SchemaGen.Web.Domain
import SchemaGen.Web.Domain.Direction
import SchemaGen.Web.Domain.Joining
import SchemaGen.Web.Domain.Mapping
import SchemaGen.Web.Exchange
import SchemaGen.Web.Host
import SchemaGen.Web.Ipv4
import SchemaGen.Web.Ipv6
import SchemaGen.Web.Network
import SchemaGen.Web.Percent
import SchemaGen.Web.Proxy
import SchemaGen.Web.Punycode
import SchemaGen.Web.Url
import SchemaGen.Web.Url.Path
import SchemaGen.Web.Url.Scheme
import SchemaGen.Zod.Block
import SchemaGen.Zod.Document
import SchemaGen.Zod.Settings
import SchemaGen.Zod.Validator
