import DEFw.Agents.Answers
import DEFw.Agents.Block
import DEFw.Agents.Bounds
import DEFw.Agents.Connect
import DEFw.Agents.Custody
import DEFw.Agents.Dispatch
import DEFw.Agents.Effects
import DEFw.Agents.Encounter
import DEFw.Agents.Handlers
import DEFw.Agents.Holders
import DEFw.Agents.Identity
import DEFw.Agents.Introductions
import DEFw.Agents.Lengths
import DEFw.Agents.Lifecycle
import DEFw.Agents.Listener
import DEFw.Agents.Lookup
import DEFw.Agents.Loop
import DEFw.Agents.Merge
import DEFw.Agents.Messages
import DEFw.Agents.Newcomers
import DEFw.Agents.Ofi
import DEFw.Agents.Process
import DEFw.Agents.Reach
import DEFw.Agents.References
import DEFw.Agents.Release
import DEFw.Agents.Rendezvous
import DEFw.Agents.Session
import DEFw.Agents.Steps
import DEFw.Agents.Table
import DEFw.Agents.Times
import DEFw.Agents.Watch
import DEFw.Attachments.Extract
import DEFw.Attachments.Interchange
import DEFw.Attachments.Model
import DEFw.Attachments.Payloads
import DEFw.Attachments.Reinject
import DEFw.Attachments.RoundTrip
import DEFw.Attachments.Stranded
import DEFw.Attachments.Transfer
import DEFw.Config.Environment
import DEFw.Config.HostList
import DEFw.DirSvc.AllOrNothing
import DEFw.DirSvc.Model
import DEFw.DirSvc.Registering
import DEFw.DirSvc.Withdrawal
import DEFw.Directory.Convergence
import DEFw.Directory.Deregistration
import DEFw.Directory.Disconnects
import DEFw.Directory.Fencing
import DEFw.Directory.Operations
import DEFw.Directory.PeerRuns
import DEFw.Directory.Record
import DEFw.Directory.Resolution
import DEFw.Directory.Steps
import DEFw.Directory.Subscribers
import DEFw.Directory.View
import DEFw.Events.Pipe
import DEFw.Events.Queue
import DEFw.Fabric.Descriptor
import DEFw.Fabric.Endpoint
import DEFw.Fabric.Receiving
import DEFw.Fabric.Regions
import DEFw.Fabric.Registrations
import DEFw.Fabric.Transmit
import DEFw.Launcher.Accounting
import DEFw.Launcher.Consistency
import DEFw.Launcher.Model
import DEFw.Lib.BigEndian
import DEFw.Lib.Dict
import DEFw.Lib.DocTree
import DEFw.Lib.ExceptList
import DEFw.Lib.Faulting
import DEFw.Lib.Interleaving
import DEFw.Lib.Machine
import DEFw.Lib.Ownership
import DEFw.Lib.Polling
import DEFw.Lib.PyEquality
import DEFw.Lib.PyText
import DEFw.Lib.PyValue
import DEFw.Lib.Replay
import DEFw.Lib.Screening
import DEFw.Lib.Slots
import DEFw.PeerEvent
import DEFw.Peers.Lookup
import DEFw.Peers.OutOfOrder
import DEFw.Peers.Presence
import DEFw.Peers.Table
import DEFw.Peers.Tolerance
import DEFw.Registry.Answering
import DEFw.Registry.Dispatch
import DEFw.Registry.Lifetimes
import DEFw.Registry.Proxies
import DEFw.Registry.Singletons
import DEFw.Registry.Tables
import DEFw.Registry.Threads
import DEFw.Transport.Agent
import DEFw.Transport.Channel
import DEFw.Transport.FailedSend
import DEFw.Transport.Frame
import DEFw.Transport.Framing
import DEFw.Transport.Receive
import DEFw.Transport.Write
import DEFw.Workers.Binding
import DEFw.Workers.Correlation
import DEFw.Workers.Deliveries
import DEFw.Workers.Leaks
import DEFw.Workers.Model
import DEFw.Workers.RemoteCalls
