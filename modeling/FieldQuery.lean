import FieldQuery.Client.Basic
import FieldQuery.Client.Failure
import FieldQuery.Client.Remote
import FieldQuery.Client.Subscribe
import FieldQuery.CommandLine.Invocation
import FieldQuery.CommandLine.Options
import FieldQuery.CommandLine.Run
import FieldQuery.Dictionary
import FieldQuery.Json.Basic
import FieldQuery.Json.Describe
import FieldQuery.Json.Fault
import FieldQuery.Json.Literal
import FieldQuery.Json.Numeral
import FieldQuery.Json.Outline
import FieldQuery.Json.Printer
import FieldQuery.Json.Reading
import FieldQuery.Main
import FieldQuery.Number.Basic
import FieldQuery.Number.Binary64
import FieldQuery.Number.Shortest
import FieldQuery.Proofs.Client.Call
import FieldQuery.Proofs.Client.Naming
import FieldQuery.Proofs.Query.Bag
import FieldQuery.Proofs.Query.Collection
import FieldQuery.Proofs.Query.Demand
import FieldQuery.Proofs.Query.Encoding
import FieldQuery.Proofs.Query.Locality
import FieldQuery.Proofs.Query.Meaning
import FieldQuery.Proofs.Query.Placeholder
import FieldQuery.Proofs.Query.Position
import FieldQuery.Proofs.Query.Value
import FieldQuery.Proofs.Query.Wire
import FieldQuery.Proofs.Response.Alongside
import FieldQuery.Proofs.Response.Hits
import FieldQuery.Proofs.Response.Leaves
import FieldQuery.Proofs.Response.Spelling
import FieldQuery.Proofs.Scalar.Codec
import FieldQuery.Proofs.Schema.Commitment
import FieldQuery.Proofs.Schema.Document
import FieldQuery.Proofs.Schema.Path
import FieldQuery.Proofs.Selection.Description
import FieldQuery.Proofs.Selection.Key
import FieldQuery.Proofs.Subscription.Conversation
import FieldQuery.Proofs.Subscription.Delivery
import FieldQuery.Proofs.Subscription.Listening
import FieldQuery.Proofs.Subscription.Parties
import FieldQuery.Proofs.Subscription.Registry
import FieldQuery.Proofs.Subscription.Relay
import FieldQuery.Proofs.Subscription.Rest
import FieldQuery.Proofs.Subscription.Subscribing
import FieldQuery.Proofs.Transport.Methods
import FieldQuery.Proofs.Transport.Reply
import FieldQuery.Proofs.Transport.Request
import FieldQuery.Query.Argument
import FieldQuery.Query.Compile
import FieldQuery.Query.Operation
import FieldQuery.Query.Variable
import FieldQuery.Response.Decode
import FieldQuery.Response.Path
import FieldQuery.Response.ScalarPaths
import FieldQuery.Scalar.Basic
import FieldQuery.Scalar.Stock
import FieldQuery.Schema.Basic
import FieldQuery.Schema.Classify
import FieldQuery.Schema.Document
import FieldQuery.Schema.Path
import FieldQuery.Selection.Basic
import FieldQuery.Selection.Key
import FieldQuery.Selection.Reader
import FieldQuery.Subscription.Handle
import FieldQuery.Subscription.Run
import FieldQuery.Subscription.Session
import FieldQuery.Text.Blank
import FieldQuery.Text.Cut
import FieldQuery.Text.Digits
import FieldQuery.Text.Encoding
import FieldQuery.Text.Extension
import FieldQuery.Text.Hidden
import FieldQuery.Text.Percent
import FieldQuery.Text.Quoted
import FieldQuery.Transport.Config
import FieldQuery.Transport.Header
import FieldQuery.Transport.Host
import FieldQuery.Transport.Http
import FieldQuery.Transport.Message
import FieldQuery.Transport.Request
import FieldQuery.Transport.Socket
import FieldQuery.Transport.Uri
import FieldQuery.Transport.Url
import FieldQuery.Yaml.Cursor
import FieldQuery.Yaml.Layout
import FieldQuery.Yaml.Node
import FieldQuery.Yaml.Reading
import FieldQuery.Yaml.Scalar
import FieldQuery.Yaml.Token
import FieldQuery.Yaml.Typing
