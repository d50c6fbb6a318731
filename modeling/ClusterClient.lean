import ClusterClient.Cell
import ClusterClient.Client.Leader
import ClusterClient.Client.Query
import ClusterClient.Column
import ClusterClient.Config.Basic
import ClusterClient.Config.Document
import ClusterClient.Dataset
import ClusterClient.Decimal
import ClusterClient.Duration
import ClusterClient.Endpoint
import ClusterClient.Error
import ClusterClient.KeyMap
import ClusterClient.Message
import ClusterClient.Network.Basic
import ClusterClient.Network.Connection
import ClusterClient.Network.Loopback
import ClusterClient.Network.Refresher
import ClusterClient.Network.Script
import ClusterClient.Node
import ClusterClient.Proofs.Client.Channel
import ClusterClient.Proofs.Client.Closed
import ClusterClient.Proofs.Client.Delivery
import ClusterClient.Proofs.Client.Execution
import ClusterClient.Proofs.Client.Failover
import ClusterClient.Proofs.Client.Failure
import ClusterClient.Proofs.Client.Fetch
import ClusterClient.Proofs.Client.Leadership
import ClusterClient.Proofs.Client.Membership
import ClusterClient.Proofs.Client.Operation
import ClusterClient.Proofs.Client.Outage
import ClusterClient.Proofs.Client.PageFault
import ClusterClient.Proofs.Client.Record
import ClusterClient.Proofs.Client.Redirection
import ClusterClient.Proofs.Client.Resolution
import ClusterClient.Proofs.Client.Retry
import ClusterClient.Proofs.Client.Ring
import ClusterClient.Proofs.Client.Search
import ClusterClient.Proofs.Client.Setback
import ClusterClient.Proofs.Client.Step
import ClusterClient.Proofs.Client.Timeout
import ClusterClient.Proofs.Dataset.Append
import ClusterClient.Proofs.Dataset.Cell
import ClusterClient.Proofs.Dataset.Layout
import ClusterClient.Proofs.Dataset.Lookup
import ClusterClient.Proofs.Endpoint
import ClusterClient.Proofs.Endpoint.Grammar
import ClusterClient.Proofs.Network.Basic
import ClusterClient.Proofs.Network.Connection
import ClusterClient.Proofs.Network.Contract
import ClusterClient.Proofs.Network.Lawful
import ClusterClient.Proofs.Network.OutOfStep
import ClusterClient.Proofs.Network.Script
import ClusterClient.Proofs.Network.Session
import ClusterClient.Proofs.Network.Stage
import ClusterClient.Proofs.Network.Stream
import ClusterClient.Proofs.Text.Utf8
import ClusterClient.Proofs.Wire.Codec
import ClusterClient.Proofs.Wire.Compact
import ClusterClient.Proofs.Wire.Decode
import ClusterClient.Proofs.Wire.Frame
import ClusterClient.Proofs.Wire.Frugal
import ClusterClient.Proofs.Wire.Incremental
import ClusterClient.Proofs.Wire.Message
import ClusterClient.Proofs.Wire.Number
import ClusterClient.Proofs.Wire.Truncated
import ClusterClient.Status
import ClusterClient.Text.Blank
import ClusterClient.Text.Digits
import ClusterClient.Text.Quoted
import ClusterClient.Text.Unprintable
import ClusterClient.Text.UpperCase
import ClusterClient.Text.Utf8
import ClusterClient.Wire.Codec
import ClusterClient.Wire.Format
import ClusterClient.Wire.Frame
import ClusterClient.Wire.Message
import ClusterClient.Wire.Number
import ClusterClient.Yaml.Decode.Basic
import ClusterClient.Yaml.Decode.Fault
import ClusterClient.Yaml.Event.Basic
import ClusterClient.Yaml.Event.FirstDocument
import ClusterClient.Yaml.Event.Goal
import ClusterClient.Yaml.Fault
import ClusterClient.Yaml.Node
import ClusterClient.Yaml.Scalar.Basic
import ClusterClient.Yaml.Scalar.Block
import ClusterClient.Yaml.Scalar.Plain
import ClusterClient.Yaml.Scalar.Quoted
import ClusterClient.Yaml.Source
import ClusterClient.Yaml.Token.Basic
import ClusterClient.Yaml.Token.Directive
import ClusterClient.Yaml.Token.Lexer
import ClusterClient.Yaml.Token.Property
import ClusterClient.Yaml.Value
