import Copresence.Client.Adding
import Copresence.Client.Backoff
import Copresence.Client.BrowserPage
import Copresence.Client.Capture
import Copresence.Client.Connection
import Copresence.Client.Drawing
import Copresence.Client.Frames
import Copresence.Client.Instance
import Copresence.Client.Lifecycle
import Copresence.Client.Outbox
import Copresence.Client.PointerCapture
import Copresence.Client.Presence
import Copresence.Client.Queueing
import Copresence.Client.Remotes
import Copresence.Client.Reordering
import Copresence.Client.Reporting
import Copresence.Client.ScrollFollow
import Copresence.Client.Sdk
import Copresence.Client.Transport
import Copresence.Client.Wire
import Copresence.Controllers.Realtime
import Copresence.Lib.Binary64
import Copresence.Lib.CallbackTable
import Copresence.Lib.CodeUnits
import Copresence.Lib.Completion
import Copresence.Lib.Floating
import Copresence.Lib.Following
import Copresence.Lib.Joined
import Copresence.Lib.JsMap
import Copresence.Lib.JsNumber
import Copresence.Lib.JsValue
import Copresence.Lib.JsonRoundTrip
import Copresence.Lib.JsonText
import Copresence.Lib.Keyed
import Copresence.Lib.Newest
import Copresence.Lib.Numerals
import Copresence.Lib.Products
import Copresence.Lib.RingBuffer
import Copresence.Lib.Run
import Copresence.Lib.Unwinding
import Copresence.Lib.Validated
import Copresence.Models.DoubleGuard
import Copresence.Models.Participant
import Copresence.Models.PresenceFields
import Copresence.Models.SequenceGuard
import Copresence.Models.Session
import Copresence.Models.SessionInvariant
import Copresence.Models.SessionSlices
import Copresence.Models.Untimed
import Copresence.Properties.Acceptance
import Copresence.Properties.Accounting
import Copresence.Properties.Acknowledging
import Copresence.Properties.Announcements
import Copresence.Properties.Arming
import Copresence.Properties.Backoff
import Copresence.Properties.Batching
import Copresence.Properties.Boundaries
import Copresence.Properties.Canonical
import Copresence.Properties.Coalescing
import Copresence.Properties.Coasting
import Copresence.Properties.Confinement
import Copresence.Properties.Conservation
import Copresence.Properties.Converging
import Copresence.Properties.Corruption
import Copresence.Properties.Delivering
import Copresence.Properties.DirtyTracking
import Copresence.Properties.Drawing
import Copresence.Properties.Emptying
import Copresence.Properties.Gaps
import Copresence.Properties.GoingAway
import Copresence.Properties.Goodbyes
import Copresence.Properties.Greeting
import Copresence.Properties.Heartbeat
import Copresence.Properties.Holding
import Copresence.Properties.HubIsolation
import Copresence.Properties.Idempotence
import Copresence.Properties.Instances
import Copresence.Properties.Interleaving
import Copresence.Properties.LastIntent
import Copresence.Properties.Ledger
import Copresence.Properties.Mirroring
import Copresence.Properties.Noninterference
import Copresence.Properties.Ordering
import Copresence.Properties.Outages
import Copresence.Properties.Ownership
import Copresence.Properties.Paging
import Copresence.Properties.Percentiles
import Copresence.Properties.PointerReports
import Copresence.Properties.Pruning
import Copresence.Properties.Quiescence
import Copresence.Properties.Reaping
import Copresence.Properties.Reconciling
import Copresence.Properties.Reconnection
import Copresence.Properties.Recording
import Copresence.Properties.Rejections
import Copresence.Properties.Repairing
import Copresence.Properties.Resending
import Copresence.Properties.Restarts
import Copresence.Properties.Resting
import Copresence.Properties.ScrollFollowing
import Copresence.Properties.Separation
import Copresence.Properties.Sequencing
import Copresence.Properties.Showing
import Copresence.Properties.Staleness
import Copresence.Properties.Sweeping
import Copresence.Properties.Telling
import Copresence.Properties.TextFrames
import Copresence.Properties.Timestamps
import Copresence.Properties.Totality
import Copresence.Properties.WellTyped
import Copresence.Protocol.Messages
import Copresence.Protocol.Schemas
import Copresence.Protocol.Text
import Copresence.Server.Actions
import Copresence.Server.Alike
import Copresence.Server.Audits
import Copresence.Server.Departures
import Copresence.Server.Drawing
import Copresence.Server.Effects
import Copresence.Server.Flushing
import Copresence.Server.Gateway
import Copresence.Server.Guards
import Copresence.Server.History
import Copresence.Server.Outbound
import Copresence.Server.Reaching
import Copresence.Server.RealtimeRouter
import Copresence.Server.Roster
import Copresence.Server.Run
import Copresence.Server.State
import Copresence.Server.SweepEffects
import Copresence.Server.Untimed
import Copresence.Server.UntimedSweep
import Copresence.Services.Announcing
import Copresence.Services.AuditEnds
import Copresence.Services.AuditEntries
import Copresence.Services.AuditLog
import Copresence.Services.BroadcastHub
import Copresence.Services.ChaosMiddleware
import Copresence.Services.ChaosOutcomes
import Copresence.Services.ConvergenceReport
import Copresence.Services.ConvergenceTracker
import Copresence.Services.Deliveries
import Copresence.Services.Flushes
import Copresence.Services.MetricsCollector
import Copresence.Services.Presenters
import Copresence.Services.ReapStale
import Copresence.Services.SessionRegistry
import Copresence.Services.Sweeps
import Copresence.Services.TickScheduler
