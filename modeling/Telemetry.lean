import Telemetry.Delivery.RetryDelay
import Telemetry.Json.Access
import Telemetry.Main
import Telemetry.Proofs.Delivery.Conservation
import Telemetry.Proofs.Delivery.Sharing
import Telemetry.Proofs.Delivery.Flush
import Telemetry.Proofs.Delivery.Return
import Telemetry.Proofs.Session.Ending
import Telemetry.Proofs.Session.Chain
import Telemetry.Proofs.Session.Persistence
import Telemetry.Proofs.Delivery.Crowd
import Telemetry.Proofs.Store.Fifo
import Telemetry.Proofs.Delivery.Batches
import Telemetry.Proofs.Delivery.Batching
import Telemetry.Proofs.Tracking.Encoding
import Telemetry.Proofs.Delivery.Accounts
import Telemetry.Proofs.Delivery.Settling
import Telemetry.Proofs.Store.Files
import Telemetry.Proofs.CommandLine.Jobs
import Telemetry.Proofs.Delivery.Wakeups
import Telemetry.Proofs.Registration
import Telemetry.Proofs.Tracking.Numbering
import Telemetry.Proofs.CommandLine.Opening
import Telemetry.Proofs.CommandLine.Report
import Telemetry.Proofs.CommandLine.Interleaved
import Telemetry.Proofs.Delivery.Completion
import Telemetry.Proofs.Delivery.Grouping
import Telemetry.Proofs.Store.Blocks
import Telemetry.Proofs.Session.Interleaving
import Telemetry.Proofs.Delivery.FewestGroups
import Telemetry.Proofs.Text.Query
import Telemetry.Proofs.Delivery.Bodies
import Telemetry.Proofs.Delivery.Endpoint
import Telemetry.Proofs.Session.Reopening
import Telemetry.Proofs.Session.Timestamps
import Telemetry.Proofs.Tracking.Identity
