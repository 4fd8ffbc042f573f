import WolandGuard.Foundations.Runs
import WolandGuard.Data.Values
import WolandGuard.Data.Calendar
import WolandGuard.Data.IsoFormat
import WolandGuard.Data.Json
import WolandGuard.Foundations.Ranking
import WolandGuard.Foundations.Outcomes
import WolandGuard.Foundations.Parts
import WolandGuard.Foundations.Rows
import WolandGuard.Foundations.Dictionaries
import WolandGuard.Foundations.SlidingWindows
import WolandGuard.Foundations.Pagination
import WolandGuard.Foundations.Base64
import WolandGuard.Foundations.Codes
import WolandGuard.Foundations.Lines
import WolandGuard.Foundations.Regex
import WolandGuard.Detection.Rules
import WolandGuard.Outbox.Message
import WolandGuard.Outbox.Queue
import WolandGuard.Outbox.Worker
import WolandGuard.Outbox.RowChanges
import WolandGuard.Outbox.Fencing
import WolandGuard.Data.Sha256
import WolandGuard.Data.Utf8
import WolandGuard.Data.Sha1
import WolandGuard.Agent.Spool
import WolandGuard.Agent.Normalization
import WolandGuard.Detection.Insertion
import WolandGuard.Agent.Delivery
import WolandGuard.Agent.Rounds
import WolandGuard.Agent.IngestionRoute
import WolandGuard.Agent.DeliveryRuns
import WolandGuard.Agent.Quarantine
import WolandGuard.Agent.Pauses
import WolandGuard.Agent.Bisection
import WolandGuard.Limits.RequestLimiter
import WolandGuard.Data.Hmac
import WolandGuard.Limits.LoginAttempts
import WolandGuard.Limits.LoginLimiter
import WolandGuard.Agent.Journald
import WolandGuard.Agent.FileIntegrity
import WolandGuard.Agent.Protocol
import WolandGuard.Agent.FileScans
import WolandGuard.Agent.Schedules
import WolandGuard.Agent.Readings
import WolandGuard.Administration.Audit
import WolandGuard.Agent.AtLeastOnce
import WolandGuard.Agent.Capacity
import WolandGuard.Incidents.Tables
import WolandGuard.Incidents.Database
import WolandGuard.Detection.Fields
import WolandGuard.Detection.Evaluate
import WolandGuard.Outbox.Enqueue
import WolandGuard.Detection.Engine
import WolandGuard.Detection.Firing
import WolandGuard.Detection.Evidence
import WolandGuard.Detection.Persistence
import WolandGuard.Detection.ArrivalOrder
import WolandGuard.Detection.FirstSeen
import WolandGuard.Detection.Sequences
import WolandGuard.Detection.Matching
import WolandGuard.Detection.Qualifying
import WolandGuard.Incidents.Workflow
import WolandGuard.Detection.Sync
import WolandGuard.Detection.SyncVersions
import WolandGuard.Incidents.Counters
import WolandGuard.Incidents.Aggregate
import WolandGuard.Incidents.Lifecycle
import WolandGuard.Incidents.Justification
import WolandGuard.IpBlocks.Address
import WolandGuard.Agent.SshMessages
import WolandGuard.IpBlocks.Policy
import WolandGuard.IpBlocks.Plans
import WolandGuard.IpBlocks.Concurrency
import WolandGuard.Telegram.Catalog
import WolandGuard.Telegram.Identity
import WolandGuard.Data.RateLimit
import WolandGuard.Telegram.Updates
import WolandGuard.Telegram.Callbacks
import WolandGuard.Telegram.CallbackCodec
import WolandGuard.Telegram.TokenFile
import WolandGuard.Telegram.Formatting
import WolandGuard.Telegram.Router
import WolandGuard.Foundations.Chunks
import WolandGuard.Telegram.Poller
import WolandGuard.Telegram.Draining
import WolandGuard.Telegram.Effects
import WolandGuard.Telegram.Authorisation
import WolandGuard.Outbox.Shape
import WolandGuard.Foundations.Transactions
import WolandGuard.Incidents.Audit
import WolandGuard.Incidents.Comments
import WolandGuard.Incidents.LockedTables
import WolandGuard.Detection.Transactions
import WolandGuard.Detection.Deadlock
import WolandGuard.Incidents.Transactions
import WolandGuard.Incidents.Chain
import WolandGuard.Data.Readable
import WolandGuard.Incidents.Idempotency
import WolandGuard.IpBlocks.AddressText
import WolandGuard.IpBlocks.Allowlist
import WolandGuard.IpBlocks.Decisions
import WolandGuard.Foundations.Sightings
import WolandGuard.Foundations.Schedules
import WolandGuard.Foundations.Deadlock
import WolandGuard.Sessions.Tables
import WolandGuard.Sessions.Transactions
import WolandGuard.Sessions.Effects
import WolandGuard.Sessions.Lifetime
import WolandGuard.Sessions.Revocation
import WolandGuard.Sessions.Constraints
import WolandGuard.Dashboard.Contexts
import WolandGuard.Dashboard.Search
import WolandGuard.Dashboard.Queries
import WolandGuard.Dashboard.Pages
import WolandGuard.Dashboard.Cursors
import WolandGuard.Data.JsonText
import WolandGuard.Data.FloatText
import WolandGuard.Data.JsonCompact
import WolandGuard.Data.JsonRoundTrip
import WolandGuard.Data.JsonCanonical
import WolandGuard.Data.JsonSize
import WolandGuard.Agent.SpoolOrder
import WolandGuard.Foundations.DeterministicRegex
import WolandGuard.Agent.SyslogLines
import WolandGuard.Agent.NginxAccess
import WolandGuard.Agent.LogMessages
import WolandGuard.Agent.EventContract
import WolandGuard.Agent.FollowedFile
import WolandGuard.Agent.CollectedRecords
import WolandGuard.Agent.FileChanges
import WolandGuard.Agent.SteadyCollection
import WolandGuard.Telegram.Disclosure
import WolandGuard.Dashboard.RestCursors
import WolandGuard.Dashboard.RestLists
import WolandGuard.Foundations.EventLogs
import WolandGuard.Administration.Audit
import WolandGuard.Administration.Operations
import WolandGuard.Administration.Standing
import WolandGuard.Administration.Replay
import WolandGuard.Administration.Destinations
import WolandGuard.Administration.Runs
import WolandGuard.Telegram.Notifications
import WolandGuard.Telegram.NoticeButtons
import WolandGuard.Outbox.Verdicts
import WolandGuard.Telegram.Delivery
import WolandGuard.Data.UrlEncoded
import WolandGuard.Dashboard.FormBody
import WolandGuard.Dashboard.FormPosts
import WolandGuard.Dashboard.PostEffects
import WolandGuard.Dashboard.Mediation
