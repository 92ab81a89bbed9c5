import Polyglot.CommandLine.Arguments
import Polyglot.CommandLine.LogFilter
import Polyglot.Config
import Polyglot.Delivery.ContentMap
import Polyglot.Delivery.Disk
import Polyglot.Delivery.Host
import Polyglot.Delivery.TempFiles
import Polyglot.Document
import Polyglot.Error
import Polyglot.Json.Basic
import Polyglot.Json.Binary64
import Polyglot.Json.Decode
import Polyglot.Json.Reader
import Polyglot.Json.Writer
import Polyglot.Language.Basic
import Polyglot.Language.Builtin
import Polyglot.Language.Override
import Polyglot.Language.Registry
import Polyglot.LineRange
import Polyglot.Main
import Polyglot.Markdown.Blocks
import Polyglot.Markdown.CodeBlock
import Polyglot.Markdown.Cursor
import Polyglot.Markdown.Entity
import Polyglot.Markdown.EntityNames
import Polyglot.Markdown.Fence
import Polyglot.Markdown.HtmlBlock
import Polyglot.Markdown.ListMarker
import Polyglot.Markdown.Reference
import Polyglot.Path
import Polyglot.Proofs.Delivery.Confinement
import Polyglot.Proofs.Delivery.ContentUri
import Polyglot.Proofs.Delivery.Disk
import Polyglot.Proofs.Delivery.Failure
import Polyglot.Proofs.Delivery.FileContent
import Polyglot.Proofs.Delivery.Isolation
import Polyglot.Proofs.Delivery.Ledger
import Polyglot.Proofs.Delivery.Named
import Polyglot.Proofs.Delivery.Placing
import Polyglot.Proofs.Delivery.Provision
import Polyglot.Proofs.Delivery.Record
import Polyglot.Proofs.Delivery.TempFiles
import Polyglot.Proofs.Document
import Polyglot.Proofs.Json.RoundTrip
import Polyglot.Proofs.Language.Override
import Polyglot.Proofs.Language.Registry
import Polyglot.Proofs.Markdown.Cursor
import Polyglot.Proofs.Markdown.Placement
import Polyglot.Proofs.Partition
import Polyglot.Proofs.Path
import Polyglot.Proofs.Projection
import Polyglot.Proofs.Routing
import Polyglot.Proofs.Server.Cleanup
import Polyglot.Proofs.Server.Client
import Polyglot.Proofs.Server.Freshness
import Polyglot.Proofs.Server.Mirror
import Polyglot.Proofs.Server.Run
import Polyglot.Proofs.Server.Triggers
import Polyglot.Proofs.Text.Decomposition
import Polyglot.Proofs.Text.Lines
import Polyglot.Proofs.Text.Percent
import Polyglot.Proofs.Text.Written
import Polyglot.Proofs.Token.Braced
import Polyglot.Proofs.Token.Cache
import Polyglot.Proofs.Token.Declared
import Polyglot.Proofs.Token.Math
import Polyglot.Proofs.Token.Scan
import Polyglot.Proofs.Token.Separators
import Polyglot.Proofs.Token.Streaks
import Polyglot.Proofs.Token.Structure
import Polyglot.Proofs.Url.FilePath
import Polyglot.Proofs.Url.ReadBack
import Polyglot.Proofs.Wire
import Polyglot.Provider.Position
import Polyglot.Provider.Request
import Polyglot.Provider.Response
import Polyglot.Provider.Wire
import Polyglot.Router
import Polyglot.Server.Capabilities
import Polyglot.Server.Client
import Polyglot.Server.Editor
import Polyglot.Server.Message
import Polyglot.Server.Method
import Polyglot.Server.Params
import Polyglot.Server.Session
import Polyglot.Text.Blank
import Polyglot.Text.Lines
import Polyglot.Text.Percent
import Polyglot.Text.Quoted
import Polyglot.Text.Word
import Polyglot.Token.Basic
import Polyglot.Token.Cache
import Polyglot.Token.Declared
import Polyglot.Token.Math
import Polyglot.Token.Tokenize
import Polyglot.Url.Basic
import Polyglot.Url.Host
import Polyglot.Url.Parse
import Polyglot.VirtualDocument
