import Clickstream.Bench.Gateway
import Clickstream.Bench.Worker
import Clickstream.Demo
import Clickstream.Main
import Clickstream.Proofs.Gateway.Accounting
import Clickstream.Proofs.Gateway.Closing
import Clickstream.Proofs.Gateway.Correlation
import Clickstream.Proofs.Json.FieldOrder
import Clickstream.Proofs.Json.Messages
import Clickstream.Proofs.Pipeline.Readiness
import Clickstream.Proofs.Pipeline.Refinement
import Clickstream.Proofs.Pipeline.Shutdown
import Clickstream.Proofs.Reference.Admission
import Clickstream.Proofs.Store.Ancestry
import Clickstream.Proofs.Store.Isolation
import Clickstream.Proofs.Store.Malformed
import Clickstream.Proofs.Store.Mirror
import Clickstream.Proofs.Store.ReadBack
import Clickstream.Proofs.Store.Remains
import Clickstream.Proofs.Store.Sharing
import Clickstream.Proofs.Store.Soundness
import Clickstream.Proofs.Store.Stability
import Clickstream.Proofs.Tracker.Cascade
import Clickstream.Proofs.Tracker.Causality
import Clickstream.Proofs.Tracker.Conservation
import Clickstream.Proofs.Tracker.Effect
import Clickstream.Proofs.Tracker.Order
import Clickstream.Proofs.Url.Endpoint
import Clickstream.Proofs.Worker.Protocol
import Clickstream.Store.Plain
