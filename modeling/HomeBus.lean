import HomeBus.Bench.Channels
import HomeBus.Bench.Parties
import HomeBus.Bench.Table
import HomeBus.Config.Load
import HomeBus.Json.Encode
import HomeBus.Log.Filter
import HomeBus.Message.Access
import HomeBus.Proofs.Pending.Run
import HomeBus.Proofs.Network.Correlation
import HomeBus.Proofs.Network.Effect
import HomeBus.Proofs.Network.Ledger
import HomeBus.Proofs.Network.Registration
import HomeBus.Proofs.Network.Replies
import HomeBus.Proofs.Network.Wakeup
import HomeBus.Proofs.Network.Deadline
import HomeBus.Proofs.Pending.Isolation
import HomeBus.Proofs.Network.Wiring
import HomeBus.Proofs.Network.Rewiring
import HomeBus.Proofs.Network.Sending
import HomeBus.Proofs.Network.Failure
import HomeBus.Proofs.Network.Listening
import HomeBus.Proofs.Text.Utf8
import HomeBus.Proofs.Json.Strings
import HomeBus.Proofs.Json.Numbers
import HomeBus.Proofs.Dict
import HomeBus.Proofs.Json.Tree
import HomeBus.Proofs.Json.Written
import HomeBus.Proofs.Envelope.Agreement
import HomeBus.Proofs.Envelope.RoundTrip
import HomeBus.Proofs.Hub.Deliveries
import HomeBus.Proofs.Hub.Order
import HomeBus.Proofs.Number.Shortest
import HomeBus.Proofs.Json.Locality
import HomeBus.Proofs.Json.ObjectText
import HomeBus.Proofs.Json.PrintedForm
import HomeBus.Proofs.Envelope.Extension
import HomeBus.Proofs.Envelope.Identity
import HomeBus.Proofs.Network.Minting
import HomeBus.Proofs.Network.Correspondence
import HomeBus.Proofs.Hub.Ownership
import HomeBus.Proofs.Router.Run
import HomeBus.Proofs.Router.Feeds
import HomeBus.Proofs.Network.Facades
import HomeBus.Proofs.Network.Subscriptions
import HomeBus.Proofs.Engine.Reception
import HomeBus.Proofs.Envelope.Document
import HomeBus.Proofs.Envelope.TypedValues
import HomeBus.Proofs.Envelope.Doubles
import HomeBus.Proofs.Address.RoundTrip
import HomeBus.Proofs.Topic.Selection
import HomeBus.Proofs.Topic.Wildcards
import HomeBus.Proofs.Address.Reading
import HomeBus.Proofs.Address.Subscription
import HomeBus.Proofs.Config.Reading
