import DEFw.PeerEvent
import DEFw.Transport.Frame

namespace DEFw.Agents
open Transport (Uuid)

/-- `struct sockaddr_in`. -/
structure Addr where
  sinAddr : Nat
  sinPort : Nat
  deriving DecidableEq

/-- `defw_rc_t`. -/
inductive DefwRc
  | ok
  | fail
  | sysErr
  | badVersion
  | socketFail
  | bindFailed
  | listenFailed
  | clientClosed
  | errThreadStartup
  | agentNotFound
  | pyImportFail
  | pyScriptFail
  | rpcFail
  | oom
  | badParam
  | badAddr
  | missingParam
  | timeout
  | logCreationFailure
  | protoError
  | inProgress
  | badUuid
  | noDataOnSocket
  | keepData
  | unknownMessage
  | notStarted
  | noListener
  deriving DecidableEq

/-- `defw_type_t`, with the values of the wire that it does not name. -/
inductive NodeType
  | dirsvc
  | agent
  | service
  | invalid
  | other (code : Nat)
  deriving DecidableEq

def NodeType.ofCode : Nat → NodeType
  | 1 => dirsvc
  | 2 => agent
  | 3 => service
  | 4 => invalid
  | code => other code

def NodeType.code : NodeType → Nat
  | dirsvc => 1
  | agent => 2
  | service => 3
  | invalid => 4
  | other code => code

/-- `defw_connection_direction_t`. -/
inductive Direction
  | unknown
  | inbound
  | outbound
  deriving DecidableEq

/-- `defw_connection_lifecycle_t`. -/
inductive Lifecycle
  | new
  | handshake
  | ready
  | lost
  | removed
  deriving DecidableEq

/-- `defw_heartbeat_mode_t`. -/
inductive HeartbeatMode
  | none
  | remote
  deriving DecidableEq

/-- A request of `defw_connect_to_agent` that returned `EN_DEFW_RC_IN_PROGRESS`:
the number of the call and the uuid its callback is given. -/
structure ConnectReq where
  number : Nat
  uuid : Uuid
  deriving DecidableEq

/-- `HB_TO`, in seconds. -/
def hbTo : Nat := 2

/-- `TCP_READ_TIMEOUT_SEC`. -/
def tcpReadTimeoutSec : Nat := 20

/-- `defw_agent_blk_t`. The bits of `state` are the fields from `isAlive` to
`removedReported`; `connectReq` is set while `connect_req_pending` is. Times are
in seconds, and `INVALID_TCP_SOCKET` is the absence of a descriptor. -/
structure Block where
  addr : Addr
  remoteUuid : Uuid := Uuid.filled 0
  listenPort : Nat := 0
  name : List UInt8 := []
  hostname : List UInt8 := []
  pid : Nat := 0
  nodeType : NodeType := .invalid
  iFileDesc : Option Nat := none
  iRpcFd : Option Nat := none
  refCount : Nat := 1
  isAlive : Bool := false
  cntrlConnected : Bool := false
  rpcConnected : Bool := false
  workInProgress : Bool := false
  isDead : Bool := false
  isNew : Bool := true
  readyReported : Bool := false
  lostReported : Bool := false
  removedReported : Bool := false
  direction : Direction := .inbound
  lifecycle : Lifecycle := .new
  heartbeatMode : HeartbeatMode := .none
  connectReq : Option ConnectReq := none
  timeStamp : Nat
  lastHeartbeatTx : Nat
  lastHeartbeatRx : Nat
  lastControlActivity : Nat
  handshakeDeadline : Nat
  failureReason : String := ""
  deriving DecidableEq

namespace Block

/-- The block that `defw_alloc_agent_blk` fills in, with the reference of its
allocation. -/
def fresh (addr : Addr) (now : Nat) : Block where
  addr := addr
  timeStamp := now
  lastHeartbeatTx := now
  lastHeartbeatRx := now
  lastControlActivity := now
  handshakeDeadline := now + tcpReadTimeoutSec

/-- The descriptors of the two channels that are open. -/
def fds (agent : Block) : Finset Nat := agent.iFileDesc.toFinset ∪ agent.iRpcFd.toFinset

theorem mem_fds {agent : Block} {fd : Nat} : fd ∈ agent.fds ↔ agent.iFileDesc = some fd ∨ agent.iRpcFd = some fd := by
  simp [fds]

/-- Both descriptors closed. -/
def unplugged (agent : Block) : Block := { agent with iFileDesc := none, iRpcFd := none }

/-- A descriptor stored for the control channel. -/
def plugControl (agent : Block) (slot : Option Nat) : Block := { agent with iFileDesc := slot }

/-- A descriptor stored for the RPC channel. -/
def plugRpc (agent : Block) (slot : Option Nat) : Block := { agent with iRpcFd := slot }

/-- The block with one more reference. -/
def acquired (agent : Block) : Block := { agent with refCount := agent.refCount + 1 }

/-- The block without one of its references. -/
def released (agent : Block) : Block := { agent with refCount := agent.refCount - 1 }

/-- The bits that a dead release sets and clears while others hold the block. -/
def dying (agent : Block) : Block :=
  { agent with isDead := true, isAlive := false, rpcConnected := false, cntrlConnected := false }

/-- `defw_agent_ready_to_report`. -/
def readyToReport (agent : Block) : Bool :=
  !agent.remoteUuid.isNull && agent.cntrlConnected && agent.rpcConnected

/-- The reason `defw_release_agent_blk_unlocked` gives for a loss. -/
def lossReason (agent : Block) : String :=
  if agent.failureReason = "" then "transport-failure" else agent.failureReason

end Block

/-- `defw_peer_event_t`. -/
structure PeerEvent where
  eventType : PeerEventType
  peerHandle : Nat
  remoteRuntimeId : Option Uuid
  isSelf : Bool
  transportContext : String
  connectionDirection : Direction
  address : Nat
  listenPort : Nat
  nodeType : NodeType
  nodeName : List UInt8
  hostname : List UInt8
  pid : Nat
  reason : String
  timestampSec : Nat
  deriving DecidableEq

/-- What becomes visible outside the table: a peer event with the block as it
stood then, the callback of a connect request, the block of such a request, a
frame given to the handler of a request, response, event or RMA
acknowledgement, and the end of a block. -/
inductive Notice
  | peerEvent (event : PeerEvent) (agent : Block)
  | connectStatus (req : ConnectReq) (status : DefwRc)
  | dialling (req : ConnectReq) (block : Nat)
  | handed (block : Nat) (frame : Transport.Frame) (agent : Block)
  | freed (block : Nat)
  deriving DecidableEq

/-- `defw_agent_fill_peer_event`, in the process `self` at the time `now`. -/
def fillPeerEvent (self : Uuid) (now : Nat) (id : Nat) (agent : Block) (eventType : PeerEventType)
    (reason : String) : PeerEvent where
  eventType := eventType
  peerHandle := id
  remoteRuntimeId := if agent.remoteUuid.isNull then none else some agent.remoteUuid
  isSelf := !agent.remoteUuid.isNull && !self.isNull && decide (agent.remoteUuid = self)
  transportContext := "defw-tcp"
  connectionDirection := agent.direction
  address := agent.addr.sinAddr
  listenPort := agent.listenPort
  nodeType := agent.nodeType
  nodeName := agent.name
  hostname := agent.hostname
  pid := agent.pid
  reason := reason
  timestampSec := now

namespace Block

variable (self : Uuid) (now : Nat) (id : Nat)

/-- `defw_agent_complete_pending_connect`. -/
def completePendingConnect (agent : Block) (status : DefwRc) : Block × List Notice :=
  match agent.connectReq with
  | none => (agent, [])
  | some req => ({ agent with connectReq := none }, [.connectStatus req status])

/-- `defw_agent_report_peer_ready`: the block after it and what it notified. -/
def reportPeerReady (agent : Block) (reason : String) : Block × List Notice :=
  if !agent.readyToReport || agent.readyReported then (agent, [])
  else
    let agent := { agent with readyReported := true }
    let event := fillPeerEvent self now id agent .ready reason
    let agent := { agent with
      lifecycle := .ready
      heartbeatMode := if event.isSelf then .none else .remote }
    let completed := agent.completePendingConnect .ok
    (completed.1, .peerEvent event agent :: completed.2)

/-- `defw_agent_report_peer_lost`. -/
def reportPeerLost (agent : Block) (reason : String) : Block × List Notice :=
  if !agent.readyReported || agent.lostReported then (agent, [])
  else
    let agent := { agent with
      lostReported := true
      lifecycle := .lost
      heartbeatMode := .none
      failureReason := reason }
    (agent, [.peerEvent (fillPeerEvent self now id agent .lost reason) agent])

/-- `defw_agent_report_peer_removed`. -/
def reportPeerRemoved (agent : Block) (reason : String) : Block × List Notice :=
  if !agent.readyReported || agent.removedReported then (agent, [])
  else
    let agent := { agent with
      removedReported := true
      lifecycle := .removed }
    (agent, [.peerEvent (fillPeerEvent self now id agent .removed reason) agent])

end Block

end DEFw.Agents
