import AdmissionControl.Config.Reader
import AdmissionControl.World.Building
import AdmissionControl.World.Time
import AdmissionControl.Proofs.Breaker.Interleaving
import AdmissionControl.Proofs.Breaker.Refinement
import AdmissionControl.Proofs.Breaker.Serial
import AdmissionControl.Proofs.Breaker.Serializability
import AdmissionControl.Proofs.Breaker.Interrupted
import AdmissionControl.Proofs.Breaker.Reports
import AdmissionControl.Proofs.Store.Ledger
import AdmissionControl.Proofs.Store.SlidingWindow
import AdmissionControl.Proofs.Pipeline.Passing
import AdmissionControl.Proofs.Pipeline.SharedStore
import AdmissionControl.Proofs.Pipeline.Building
import AdmissionControl.Proofs.Pipeline.Executions
import AdmissionControl.Proofs.Pipeline.Limits
import AdmissionControl.Proofs.Pipeline.Overrun
import AdmissionControl.Proofs.Pipeline.Encounters
import AdmissionControl.Proofs.Pipeline.Accounts
import AdmissionControl.Proofs.Pipeline.Enforcement
import AdmissionControl.Proofs.Bucket.Tally
import AdmissionControl.Proofs.Bucket.Throughput
import AdmissionControl.Proofs.Bucket.RetryHint
import AdmissionControl.Proofs.Bucket.Steady
import AdmissionControl.Proofs.Pipeline.Still
import AdmissionControl.Proofs.Pipeline.Neutrality
import AdmissionControl.Proofs.Pipeline.Tower
import AdmissionControl.Proofs.Pipeline.GivingBack
import AdmissionControl.Proofs.Pipeline.Layering
import AdmissionControl.Proofs.Pipeline.Agreement
import AdmissionControl.Proofs.Pipeline.Conservation
import AdmissionControl.Proofs.Pipeline.Completion
import AdmissionControl.Proofs.Window.Quota
import AdmissionControl.Proofs.Window.Lengths
import AdmissionControl.Proofs.Breaker.Rounds
import AdmissionControl.Proofs.Breaker.Transitions
import AdmissionControl.Proofs.Json.RoundTrip
import AdmissionControl.Proofs.Config.Members
import AdmissionControl.Proofs.Config.RoundTrip
import AdmissionControl.Proofs.Config.Negative
import AdmissionControl.Proofs.Config.Construction
import AdmissionControl.Proofs.Window.Tenants
import AdmissionControl.Proofs.Window.Hints
import AdmissionControl.Proofs.Window.Outages
import AdmissionControl.Proofs.Store.OutOfOrder
import AdmissionControl.Proofs.Store.IdleKeys
import AdmissionControl.Proofs.Config.Order
import AdmissionControl.Proofs.Config.Edits
import AdmissionControl.Proofs.Bucket.Closed
import AdmissionControl.Proofs.Bucket.Shutdown
