import OpenApiClient.Checked
import OpenApiClient.Client.Collected
import OpenApiClient.Client.Manifest
import OpenApiClient.Client.Models
import OpenApiClient.Client.Package
import OpenApiClient.Client.Route.Bodies
import OpenApiClient.Client.Route.Component
import OpenApiClient.Client.Route.Parameters
import OpenApiClient.Client.Route.Statement
import OpenApiClient.Client.Routes
import OpenApiClient.Client.Servers
import OpenApiClient.Client.Templates
import OpenApiClient.Client.TypeMapping
import OpenApiClient.Code.Docstring
import OpenApiClient.Code.Edit
import OpenApiClient.Code.Expression
import OpenApiClient.Code.File
import OpenApiClient.Code.Function
import OpenApiClient.Code.Read
import OpenApiClient.CommandLine.Arguments
import OpenApiClient.CommandLine.Run
import OpenApiClient.Decimal.Binary64
import OpenApiClient.Decimal.Read
import OpenApiClient.Decimal.Shortest
import OpenApiClient.Document.Basic
import OpenApiClient.Document.Dump
import OpenApiClient.Document.Load
import OpenApiClient.Document.Parse
import OpenApiClient.Document.Read
import OpenApiClient.Document.Schema
import OpenApiClient.Document.Shown
import OpenApiClient.Entries
import OpenApiClient.Failure
import OpenApiClient.FileTree.Basic
import OpenApiClient.FileTree.Path
import OpenApiClient.Json.Literal
import OpenApiClient.Json.Read
import OpenApiClient.Json.Token
import OpenApiClient.Json.Write
import OpenApiClient.Logged
import OpenApiClient.Main
import OpenApiClient.Name.Case
import OpenApiClient.Name.Reserved
import OpenApiClient.Proofs.Name.Identifier
import OpenApiClient.Proofs.Name.Numbering
import OpenApiClient.Proofs.Reference.Walk
import OpenApiClient.Reference.Pointer
import OpenApiClient.Reference.Resolve
import OpenApiClient.Settings
import OpenApiClient.Text.Base64
import OpenApiClient.Text.Blank
import OpenApiClient.Text.Letter
import OpenApiClient.Text.Lines
import OpenApiClient.Text.Placeholder
import OpenApiClient.Text.Quoted
import OpenApiClient.Text.Units
import OpenApiClient.Timestamp
import OpenApiClient.Toml.Item
import OpenApiClient.Toml.Logical
import OpenApiClient.Toml.Number
import OpenApiClient.Toml.Quoted
import OpenApiClient.Toml.Read
import OpenApiClient.Toml.Unquoted
import OpenApiClient.Toml.Write
import OpenApiClient.Value
import OpenApiClient.Web.Address
import OpenApiClient.Web.Charset
import OpenApiClient.Web.CodePage.Apple
import OpenApiClient.Web.CodePage.Basic
import OpenApiClient.Web.CodePage.Dos
import OpenApiClient.Web.CodePage.Iso
import OpenApiClient.Web.CodePage.Mainframe
import OpenApiClient.Web.CodePage.Windows
import OpenApiClient.Web.ContentType
import OpenApiClient.Web.Escaped
import OpenApiClient.Web.Grid.Basic
import OpenApiClient.Web.Grid.Japanese
import OpenApiClient.Web.Grid.Korean
import OpenApiClient.Web.Grid.Simplified
import OpenApiClient.Web.Grid.Traditional
import OpenApiClient.Web.Multibyte.Basic
import OpenApiClient.Web.Multibyte.Chinese
import OpenApiClient.Web.Multibyte.Japanese
import OpenApiClient.Web.Multibyte.Korean
import OpenApiClient.Web.Multibyte.Switched
import OpenApiClient.Web.Page
import OpenApiClient.Web.Punycode
import OpenApiClient.Yaml.Built
import OpenApiClient.Yaml.Cursor
import OpenApiClient.Yaml.Lexer
import OpenApiClient.Yaml.Node
import OpenApiClient.Yaml.Plain
import OpenApiClient.Yaml.ScalarText
import OpenApiClient.Yaml.Token
import OpenApiClient.Proofs.Route.Naming
import OpenApiClient.Proofs.Route.Parts
import OpenApiClient.Proofs.Route.Placeholder
import OpenApiClient.Proofs.Route.Listing
import OpenApiClient.Proofs.Package.Contents
import OpenApiClient.Proofs.Package.TypePointers
import OpenApiClient.Proofs.Package.ModelNames
import OpenApiClient.Proofs.Reference.Keeping
import OpenApiClient.Proofs.Reference.Resolved
import OpenApiClient.Proofs.Reference.Alias
import OpenApiClient.Proofs.Route.Alias
import OpenApiClient.Proofs.Package.Keeping
import OpenApiClient.Proofs.Name.Folding
import OpenApiClient.Proofs.Name.Exported
import OpenApiClient.Proofs.Reference.Spelling
import OpenApiClient.Proofs.Reference.Encoding
import OpenApiClient.Proofs.Code.Types
import OpenApiClient.Proofs.Route.Answer
import OpenApiClient.Proofs.Route.Body
import OpenApiClient.Proofs.Code.Bindings
import OpenApiClient.Proofs.Package.RecordFields
import OpenApiClient.Proofs.Package.ClassNames
import OpenApiClient.Proofs.Package.ServerClients
import OpenApiClient.Proofs.Package.Exports
import OpenApiClient.Proofs.Code.Reader
import OpenApiClient.Proofs.Code.Literals
import OpenApiClient.Proofs.Package.Literals
import OpenApiClient.Proofs.Document.Fields
import OpenApiClient.Proofs.Document.Schemas
import OpenApiClient.Proofs.Document.RoundTrip
import OpenApiClient.Proofs.Route.Registration
import OpenApiClient.Proofs.Code.Sections
import OpenApiClient.Proofs.Route.Sequence
import OpenApiClient.Proofs.Package.FileNames
import OpenApiClient.Proofs.Package.Locality
import OpenApiClient.Proofs.FileTree.Writing
import OpenApiClient.Proofs.Package.Files
import OpenApiClient.Proofs.Route.Module
import OpenApiClient.Proofs.Name.ClassName
import OpenApiClient.Proofs.Package.RecordModules
import OpenApiClient.Proofs.FileTree.Folders
import OpenApiClient.Proofs.CommandLine.Atomic
import OpenApiClient.Proofs.Toml.Spelling
import OpenApiClient.Proofs.Toml.Tables
import OpenApiClient.Proofs.Json.LongNumbers
import OpenApiClient.Proofs.Yaml.Scalars
import OpenApiClient.Proofs.Yaml.Faults
import OpenApiClient.Proofs.Document.Loading
import OpenApiClient.Proofs.Package.Reported
import OpenApiClient.Proofs.Package.ServerArguments
import OpenApiClient.Proofs.Package.Addresses
import OpenApiClient.Proofs.Text.Blanks
import OpenApiClient.Proofs.Text.Replaced
import OpenApiClient.Proofs.Code.TripleQuoted
import OpenApiClient.Proofs.Code.Documentation
import OpenApiClient.Proofs.Route.Merging
import OpenApiClient.Proofs.Document.Required
import OpenApiClient.Proofs.Reference.Related
import OpenApiClient.Proofs.Route.Selection
import OpenApiClient.Proofs.Code.FreeNames
import OpenApiClient.Proofs.Route.FreeNames
import OpenApiClient.Proofs.Route.Interference
import OpenApiClient.Proofs.Text.Printable
import OpenApiClient.Proofs.Toml.Printed
import OpenApiClient.Proofs.Settings.Saving
import OpenApiClient.Proofs.Package.TypeLanguage
import OpenApiClient.Proofs.Code.Indentation
import OpenApiClient.Proofs.Package.StatementLines
import OpenApiClient.Proofs.Text.Pattern
import OpenApiClient.Proofs.Name.Words
import OpenApiClient.Proofs.Name.Boundaries
import OpenApiClient.Proofs.Name.NormalForm
