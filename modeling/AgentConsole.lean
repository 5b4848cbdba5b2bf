import AgentConsole.Lib.FiniteMap
import AgentConsole.Lib.Run
import AgentConsole.Lib.Replay
import AgentConsole.Relay.Protocol
import AgentConsole.Relay.Buffer
import AgentConsole.Relay.Outbox
import AgentConsole.Relay.Stream
import AgentConsole.Relay.Hub
import AgentConsole.Relay.Delivery
import AgentConsole.Relay.Moves
import AgentConsole.Relay.Addresses
import AgentConsole.Relay.Dedup
import AgentConsole.Relay.Numbering
import AgentConsole.Relay.Window
import AgentConsole.Relay.Replay
import AgentConsole.Relay.Cursor
import AgentConsole.Relay.Serve
import AgentConsole.Relay.Synced
import AgentConsole.Relay.Continuity
import AgentConsole.Relay.Isolation
import AgentConsole.Relay.Store
import AgentConsole.Relay.Service
import AgentConsole.Relay.Reconnect
import AgentConsole.Relay.Ticket
import AgentConsole.Relay.Finality
import AgentConsole.Relay.Persistence
import AgentConsole.Bridge.Domain
import AgentConsole.Bridge.Queue
import AgentConsole.Bridge.QueueSteps
import AgentConsole.Bridge.QueueUpdates
import AgentConsole.Bridge.QueueOnce
import AgentConsole.Bridge.QueueWaits
import AgentConsole.Bridge.Gateway
import AgentConsole.Bridge.GatewayOnce
import AgentConsole.Bridge.GatewayFinality
import AgentConsole.Bridge.Ipc
import AgentConsole.Bridge.IpcStates
import AgentConsole.Bridge.IpcWrites
import AgentConsole.Lib.Utf8
import AgentConsole.Bridge.Document
import AgentConsole.Bridge.Mapper
import AgentConsole.Bridge.MapperSteps
import AgentConsole.Bridge.MapperOutput
import AgentConsole.Web.Output
import AgentConsole.Bridge.GatewayReplies
import AgentConsole.Bridge.Capabilities
import AgentConsole.Bridge.Adapter
import AgentConsole.Bridge.AdapterWrites
import AgentConsole.Bridge.AdapterStale
import AgentConsole.Lib.Paging
import AgentConsole.Bridge.Catalog
import AgentConsole.Bridge.CatalogWalk
import AgentConsole.Transfer.Registry
import AgentConsole.Transfer.RegistrySound
import AgentConsole.Relay.Pairing
import AgentConsole.Relay.PairingSafe
import AgentConsole.Relay.Connections
import AgentConsole.Relay.Introspection
import AgentConsole.Relay.IntrospectionSound
import AgentConsole.Relay.Revocation
import AgentConsole.Relay.RevocationFinal
import AgentConsole.Relay.Frames
import AgentConsole.System.Chain
import AgentConsole.System.Retry
import AgentConsole.Relay.Waiting
import AgentConsole.Lib.Binary64
import AgentConsole.Lib.Json
import AgentConsole.Wire.Runtime
import AgentConsole.Relay.SessionJson
import AgentConsole.Web.Snapshot
import AgentConsole.Web.SnapshotAgree
import AgentConsole.Web.Expected
import AgentConsole.Lib.Window
import AgentConsole.Relay.Push
import AgentConsole.Relay.PushExact
import AgentConsole.Relay.Queries
import AgentConsole.Bridge.Queries
import AgentConsole.System.Addressing
import AgentConsole.Lib.Record
import AgentConsole.Web.Inbox
import AgentConsole.Web.InboxFaithful
import AgentConsole.Web.Commands
import AgentConsole.Web.CommandsFinal
import AgentConsole.Web.Sessions
import AgentConsole.Web.SessionsNewest
import AgentConsole.Bridge.OutputPages
import AgentConsole.Relay.IndexesAgree
import AgentConsole.Relay.Overflow
import AgentConsole.Relay.OverflowResync
import AgentConsole.Relay.OverflowSafe
import AgentConsole.Relay.OutboxRuns
import AgentConsole.Relay.BufferHistory
import AgentConsole.Relay.BufferAccounts
import AgentConsole.Relay.ExactReplay
import AgentConsole.Bridge.FrameDecoder
import AgentConsole.Bridge.Immer
import AgentConsole.Relay.Coalescing
import AgentConsole.Bridge.QueueSends
import AgentConsole.Bridge.Power
import AgentConsole.Bridge.PowerPolicy
import AgentConsole.Bridge.PowerFollows
import AgentConsole.Web.Streams
import AgentConsole.Web.StreamsKept
import AgentConsole.Web.StreamsBound
import AgentConsole.Relay.PendingStash
import AgentConsole.Lib.Utf8Decode
import AgentConsole.Bridge.GitStatus
import AgentConsole.Bridge.GitDiff
import AgentConsole.Lib.Descending
import AgentConsole.Bridge.CatalogHistory
import AgentConsole.Lib.Base64
import AgentConsole.Relay.Keyset
import AgentConsole.Transfer.FilePolicy
import AgentConsole.Transfer.Ranges
import AgentConsole.Transfer.Endpoints
import AgentConsole.Lib.Lines
import AgentConsole.Bridge.McpProtocol
import AgentConsole.Bridge.McpServer
import AgentConsole.Bridge.Watchers
import AgentConsole.Bridge.WatchersOnce
import AgentConsole.Web.SessionLists
import AgentConsole.Web.SessionListsKept
import AgentConsole.Bridge.Observe
import AgentConsole.Bridge.LineLimit
import AgentConsole.Lib.Utf8Pages
import AgentConsole.Lib.Base64Padded
import AgentConsole.Web.OutputText
import AgentConsole.Web.Patch
import AgentConsole.Bridge.GitPanics
import AgentConsole.Bridge.Patches
import AgentConsole.Web.DeferredOutput
import AgentConsole.Web.Timeline
import AgentConsole.Web.Reconcile
import AgentConsole.Web.OutputEntries
import AgentConsole.Web.OneEntry
import AgentConsole.Web.OneEntryRuns
import AgentConsole.Web.Repair
import AgentConsole.Web.RepairSound
import AgentConsole.Web.RepairRuns
import AgentConsole.Web.History
import AgentConsole.Bridge.Attention
import AgentConsole.Bridge.Owners
import AgentConsole.System.Listing
import AgentConsole.Bridge.Streams
import AgentConsole.Transfer.Sniffing
import AgentConsole.Transfer.RangeGrammar
import AgentConsole.Bridge.Chunking
import AgentConsole.Relay.MergeKeys
import AgentConsole.Relay.Readdressed
import AgentConsole.Web.ContextUsage
import AgentConsole.Files.Grants
import AgentConsole.Files.Upload
import AgentConsole.Bridge.MapperItems
import AgentConsole.Bridge.Decisions
import AgentConsole.Transfer.Downloads
