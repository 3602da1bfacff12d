import HlaCoordination.Main
import HlaCoordination.Deployment.Hubs
import HlaCoordination.Authority.Assembly
import HlaCoordination.Proofs.OrderedTables
import HlaCoordination.Proofs.Sink
import HlaCoordination.Proofs.Json.Tokens
import HlaCoordination.Proofs.Json.Values
import HlaCoordination.Proofs.Stored
import HlaCoordination.Proofs.SyncTable
import HlaCoordination.Proofs.SyncTable.Attempts
import HlaCoordination.Proofs.SyncTable.Silence
import HlaCoordination.Proofs.SyncTable.WellFormed
import HlaCoordination.Proofs.Federation.Run
import HlaCoordination.Proofs.Federation.History
import HlaCoordination.Proofs.Federation.Barrier
import HlaCoordination.Proofs.Federation.Notices
import HlaCoordination.Proofs.Federation.Trace
import HlaCoordination.Proofs.Federation.Restore
import HlaCoordination.Proofs.Federation.Sessions
import HlaCoordination.Proofs.Federation.Workers
import HlaCoordination.Proofs.Federation.Wire
import HlaCoordination.Proofs.Federation.Alignment
import HlaCoordination.Proofs.Federation.Policies
import HlaCoordination.Proofs.Federation.Admission
import HlaCoordination.Proofs.Authority
import HlaCoordination.Proofs.Authority.Isolation
import HlaCoordination.Proofs.Authority.Directory
import HlaCoordination.Proofs.Authority.Answers
import HlaCoordination.Proofs.Authority.Objects
import HlaCoordination.Proofs.Authority.Assembly
import HlaCoordination.Proofs.Network.Service
import HlaCoordination.Proofs.Network.Calls
import HlaCoordination.Proofs.Network.Seating
import HlaCoordination.Proofs.Network.Agreement
import HlaCoordination.Proofs.Network.Succession
import HlaCoordination.Proofs.Network.Absence
import HlaCoordination.Proofs.Network.Verdict
import HlaCoordination.Proofs.Network.Forwarding
import HlaCoordination.Proofs.Network.Rejection
import HlaCoordination.Proofs.Network.Turns
import HlaCoordination.Proofs.Network.Failures
import HlaCoordination.Proofs.Network.Interleaving
import HlaCoordination.Proofs.Network.Roster
import HlaCoordination.Proofs.Network.Attachment
import HlaCoordination.Proofs.Network.Raising
import HlaCoordination.Proofs.Network.Farewell
import HlaCoordination.Proofs.Exchange.Queues
import HlaCoordination.Proofs.Network.Handover
import HlaCoordination.Proofs.Daemon
import HlaCoordination.Proofs.Startup
import HlaCoordination.Proofs.Network.Reflection
import HlaCoordination.Proofs.Network.Backlog
