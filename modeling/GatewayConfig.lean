import GatewayConfig.Http.Service
import GatewayConfig.Multipart.Decode
import GatewayConfig.Poke
import GatewayConfig.RequestContext
import GatewayConfig.Settings
import GatewayConfig.Store.Fetch
import GatewayConfig.Store.Params
import GatewayConfig.Telemetry.Bundle
import GatewayConfig.Telemetry.Catalog
import GatewayConfig.Telemetry.Retry
import GatewayConfig.Telemetry.Selection
import GatewayConfig.Url.Reference
import GatewayConfig.Proofs.Bytes.Occurrence
import GatewayConfig.Proofs.Bytes.Utf8
import GatewayConfig.Proofs.Text.Lines
import GatewayConfig.Proofs.Multipart.Grammar
import GatewayConfig.Proofs.Multipart.Boundary
import GatewayConfig.Proofs.Multipart.RoundTrip
import GatewayConfig.Proofs.Group
import GatewayConfig.Proofs.Registry
import GatewayConfig.Proofs.Mac
import GatewayConfig.Proofs.Action
import GatewayConfig.Proofs.Store.Reading
import GatewayConfig.Proofs.Store.Outcome
import GatewayConfig.Proofs.Version
import GatewayConfig.Proofs.Store.Change
import GatewayConfig.Proofs.Store.Layout
import GatewayConfig.Proofs.Store.Keys
import GatewayConfig.Proofs.Store.Stamped
import GatewayConfig.Proofs.Store.Mirror
import GatewayConfig.Proofs.Store.Maps
import GatewayConfig.Proofs.Telemetry.Call
import GatewayConfig.Proofs.Telemetry.Pipeline
import GatewayConfig.Proofs.Http.Command
import GatewayConfig.Proofs.Http.Atomic
import GatewayConfig.Proofs.Store.Sound
import GatewayConfig.Proofs.Http.Sound
import GatewayConfig.Proofs.Http.Failure
import GatewayConfig.Proofs.Http.Refusal
import GatewayConfig.Proofs.Multipart.Scanning
import GatewayConfig.Proofs.Store.Current
import GatewayConfig.Proofs.Telemetry.Confined
import GatewayConfig.Proofs.Telemetry.Transport
import GatewayConfig.Proofs.Reorder
import GatewayConfig.Proofs.Store.Agreement
import GatewayConfig.Proofs.Store.Order
import GatewayConfig.Proofs.Decimal.Rounding
import GatewayConfig.Proofs.Decimal.Reading
import GatewayConfig.Proofs.Decimal.Shortest
import GatewayConfig.Proofs.Json.Text
import GatewayConfig.Proofs.Json.Number
import GatewayConfig.Proofs.Json.Regular
import GatewayConfig.Proofs.Json.RoundTrip
import GatewayConfig.Proofs.Telemetry.Merge
import GatewayConfig.Proofs.Form
import GatewayConfig.Proofs.Mac.Value
import GatewayConfig.Proofs.Telemetry.Attempts
import GatewayConfig.Proofs.Telemetry.Query
import GatewayConfig.Proofs.Version.Collision
import GatewayConfig.Proofs.Json.Exact
import GatewayConfig.Proofs.Telemetry.Append
import GatewayConfig.Proofs.Store.Encoding
import GatewayConfig.Proofs.Store.LinkBody
import GatewayConfig.Proofs.Group.Shape
import GatewayConfig.Proofs.Bytes.Offsets
import GatewayConfig.Proofs.Multipart.Delimiters
import GatewayConfig.Proofs.Telemetry.Delay
import GatewayConfig.Proofs.Mac.Spelling
import GatewayConfig.Proofs.Mac.Distance
import GatewayConfig.Proofs.Registry.Positions
import GatewayConfig.Proofs.Multipart.Bounds
import GatewayConfig.Proofs.Url.Join
import GatewayConfig.Proofs.Telemetry.Target
import GatewayConfig.Proofs.Poke
import GatewayConfig.Proofs.Http.Poke
