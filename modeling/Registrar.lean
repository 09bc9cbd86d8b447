import Registrar.Catalog.Basic
import Registrar.Catalog.Builtin
import Registrar.Catalog.Text
import Registrar.Collection
import Registrar.Counters
import Registrar.Form.Basic
import Registrar.Form.Entry
import Registrar.Form.Membership
import Registrar.Form.Resource
import Registrar.Form.Rule
import Registrar.Json.Binary64
import Registrar.Json.Decoder
import Registrar.Json.Document
import Registrar.Json.Lexeme
import Registrar.Json.Shortest
import Registrar.Json.Token
import Registrar.Json.Tree
import Registrar.Listing.Condition
import Registrar.Listing.Filter
import Registrar.Listing.Page
import Registrar.Listing.Plan
import Registrar.Listing.Query
import Registrar.Main
import Registrar.Map.Keyed
import Registrar.Map.Sorted
import Registrar.Metrics.Exposition
import Registrar.Metrics.Family
import Registrar.Operation.Basic
import Registrar.Operation.Error
import Registrar.Proofs.Catalog.Captured
import Registrar.Proofs.Catalog.Text
import Registrar.Proofs.Form.Blank
import Registrar.Proofs.Form.Lawful
import Registrar.Proofs.Form.Members
import Registrar.Proofs.Json.Written
import Registrar.Proofs.Listing.Compose
import Registrar.Proofs.Listing.Count
import Registrar.Proofs.Listing.Grammar
import Registrar.Proofs.Listing.Grouping
import Registrar.Proofs.Listing.Keys
import Registrar.Proofs.Listing.Linked
import Registrar.Proofs.Listing.Operands
import Registrar.Proofs.Listing.Reserved
import Registrar.Proofs.Listing.Search
import Registrar.Proofs.Listing.Windows
import Registrar.Proofs.Map.OfList
import Registrar.Proofs.Operation.Confined
import Registrar.Proofs.Operation.Deletable
import Registrar.Proofs.Operation.Listing
import Registrar.Proofs.Operation.Query
import Registrar.Proofs.Operation.ReadBack
import Registrar.Proofs.Operation.Record
import Registrar.Proofs.Operation.Removal
import Registrar.Proofs.Record.Assigned
import Registrar.Proofs.Record.Parameters
import Registrar.Proofs.Record.Place
import Registrar.Proofs.Service.Annotation
import Registrar.Proofs.Service.Blame
import Registrar.Proofs.Service.Counting
import Registrar.Proofs.Service.Listing
import Registrar.Proofs.Service.Refusal
import Registrar.Proofs.Service.Removal
import Registrar.Proofs.Service.Routes
import Registrar.Proofs.Service.Secrecy
import Registrar.Proofs.Service.Tally
import Registrar.Proofs.Service.Transaction
import Registrar.Proofs.Service.Writes
import Registrar.Proofs.Sql.Canonical
import Registrar.Proofs.Sql.Picks
import Registrar.Proofs.Sql.Reader
import Registrar.Proofs.Sql.Reading
import Registrar.Proofs.Sql.Unique
import Registrar.QueryError
import Registrar.Record.Payload
import Registrar.Record.Statements
import Registrar.Service.Answer
import Registrar.Service.Body
import Registrar.Service.Error
import Registrar.Service.MediaType
import Registrar.Service.Message
import Registrar.Service.Path
import Registrar.Service.Target
import Registrar.Service.Work
import Registrar.Session.Basic
import Registrar.Session.Reply
import Registrar.Session.Server
import Registrar.Settings.Address
import Registrar.Settings.DatabaseUrl
import Registrar.Settings.Options
import Registrar.Settings.Pool
import Registrar.Sql.Build
import Registrar.Sql.Render
import Registrar.Sql.Statement
import Registrar.Sql.Text
import Registrar.Text.Blank
import Registrar.Text.Cut
import Registrar.Text.Integer
import Registrar.Text.Percent
import Registrar.Text.Printable
import Registrar.Text.Quoted
import Registrar.Text.Utf8
