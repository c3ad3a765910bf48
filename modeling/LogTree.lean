import LogTree.CommandLine.Arguments
import LogTree.CommandLine.Emit
import LogTree.CommandLine.Environment
import LogTree.CommandLine.Run
import LogTree.Config.Decode
import LogTree.Config.Encode
import LogTree.Config.File
import LogTree.Config.Load
import LogTree.Config.Outline
import LogTree.Config.Validate
import LogTree.Config.Warning
import LogTree.Decimal.Read
import LogTree.Filter.Directive
import LogTree.Json.Read
import LogTree.Json.Write
import LogTree.Logger
import LogTree.Logging
import LogTree.Main
import LogTree.Proofs.Assembly
import LogTree.Proofs.Boundary
import LogTree.Proofs.Captured
import LogTree.Proofs.Codec
import LogTree.Proofs.Configured
import LogTree.Proofs.Content
import LogTree.Proofs.Declared
import LogTree.Proofs.Derivations
import LogTree.Proofs.Documents
import LogTree.Proofs.Emitted
import LogTree.Proofs.Flattening
import LogTree.Proofs.Frame
import LogTree.Proofs.Gates
import LogTree.Proofs.Meaning
import LogTree.Proofs.Metered
import LogTree.Proofs.Metering
import LogTree.Proofs.Placed
import LogTree.Proofs.Reported
import LogTree.Proofs.RoundTrip
import LogTree.Proofs.Scopes
import LogTree.Proofs.Search
import LogTree.Proofs.Serves
import LogTree.Proofs.Similar
import LogTree.Proofs.Trail
import LogTree.Proofs.Wrapped
import LogTree.Registry
import LogTree.Stats.Delivery
import LogTree.Stats.MetricCall
import LogTree.Text.Alphanumeric
import LogTree.Text.Quoted
import LogTree.Proofs.Bindings
import LogTree.Proofs.Widening
import LogTree.Proofs.Unread
import LogTree.Proofs.Nesting
import LogTree.Proofs.Routers
import LogTree.Proofs.Warned
import LogTree.Proofs.Journal
import LogTree.Proofs.Turns
import LogTree.Proofs.Evaluated
import LogTree.Proofs.Inlined
import LogTree.Proofs.Walks
import LogTree.Proofs.Addresses
import LogTree.Proofs.Offences
import LogTree.Proofs.Derived
import LogTree.Proofs.Watched
import LogTree.Proofs.Readings
import LogTree.Proofs.Callbacks
import LogTree.Proofs.Chains
import LogTree.Proofs.Equality
import LogTree.Proofs.Statistics
import LogTree.Proofs.Drawing
import LogTree.Proofs.Handles
import LogTree.Proofs.Regrouping
import LogTree.Proofs.Exactness
import LogTree.Proofs.Gated
import LogTree.Router
import LogTree.SinkRef
