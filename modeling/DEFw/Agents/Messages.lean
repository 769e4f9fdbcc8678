import DEFw.Agents.Session
import DEFw.Agents.Table

namespace DEFw.Agents
open Transport (Uuid MsgType Header Trusts checkHeader populateMsgHdr)

/-- What keeps `process_agent_message` from a part of a message: the codes of
`readTcpMessage`, and the lack of memory for the body. -/
inductive Trouble
  | clientClosed
  | socketFail
  | timeout
  | oom
  deriving DecidableEq

def Trouble.rc : Trouble → DefwRc
  | clientClosed => .clientClosed
  | socketFail => .socketFail
  | timeout => .timeout
  | oom => .oom

/-- What `process_agent_message` gets out of a descriptor, with the code that the
registered handler of a request, response, event or RMA acknowledgement returns. -/
inductive Incoming
  | noHeader (trouble : Trouble)
  | noBody (hdr : List UInt8) (trouble : Trouble)
  | frame (hdr body : List UInt8) (handlerRc : DefwRc)
  deriving DecidableEq

/-- A message that `process_agent_message` gives to its handler. -/
structure Message where
  header : Header
  body : List UInt8
  handlerRc : DefwRc
  deriving DecidableEq

def DefwRc.ofTransport : Transport.Rc → DefwRc
  | .ok => .ok
  | .fail => .fail
  | .sysErr => .sysErr
  | .badVersion => .badVersion
  | .socketFail => .socketFail
  | .rpcFail => .rpcFail
  | .badAddr => .badAddr
  | .unknownMessage => .unknownMessage

/-- The part of `process_agent_message` before the handler, on a block that records
the uuid `remote`. -/
def Incoming.admitted (remote : Uuid) : Incoming → Except DefwRc Message
  | noHeader trouble => .error trouble.rc
  | noBody hdr trouble =>
    match checkHeader remote hdr with
    | .error rc => .error (.ofTransport rc)
    | .ok _ => .error trouble.rc
  | frame hdr body handlerRc =>
    match checkHeader remote hdr with
    | .error rc => .error (.ofTransport rc)
    | .ok header => .ok ⟨header, body, handlerRc⟩

/-- A session as it arrives from the process `sender`. -/
def Session.incoming (ses : Session) (sender : Uuid) (type : MsgType) : Incoming :=
  .frame (populateMsgHdr sender type ses.write.length) ses.write .ok

theorem Session.admitted_incoming (ses : Session) {sender remote : Uuid} (type : MsgType)
    (trusts : Trusts sender remote) :
    (ses.incoming sender type).admitted remote = .ok ⟨⟨type, ses.write.length, sender⟩, ses.write, .ok⟩ := by
  have short : ses.write.length < 2 ^ 31 := by
    rw [ses.length_write]
    decide
  simp only [incoming, Incoming.admitted, Transport.checkHeader_populateMsgHdr trusts type short]

namespace Block

/-- The fields that a new connection learns from its session information. -/
def learn (agent : Block) (ses : Session) (now : Nat) : Block :=
  { agent with
    direction := .inbound
    lifecycle := .handshake
    remoteUuid := ses.uuid
    nodeType := ses.nodeType
    pid := ses.pid
    listenPort := ses.listenPort
    hostname := ses.nodeHostname
    name := ses.nodeName
    timeStamp := now
    lastControlActivity := now
    lastHeartbeatRx := now }

/-- It is the first connection of its process and the RPC half. -/
def becomeRpc (agent : Block) : Block :=
  { agent with iRpcFd := agent.iFileDesc, iFileDesc := none, rpcConnected := true }

/-- It is the first connection of its process and the control half. -/
def becomeControl (agent : Block) : Block :=
  { agent with cntrlConnected := true, isAlive := true, isNew := false }

/-- The block gets the RPC half that came in with another block. -/
def attachRpc (existing agent : Block) : Block :=
  { existing with iRpcFd := agent.iFileDesc, rpcConnected := true }

/-- The block gets the control half that came in with another block. -/
def attachControl (existing agent : Block) (now : Nat) : Block :=
  { existing with
    iFileDesc := agent.iFileDesc
    addr := agent.addr
    cntrlConnected := true
    isAlive := true
    isNew := false
    timeStamp := now
    lastControlActivity := now
    lastHeartbeatRx := now }

/-- The fields that a heartbeat updates. -/
def heard (agent : Block) (hb : Session) (now : Nat) : Block :=
  { agent with
    remoteUuid := if agent.remoteUuid.isNull then hb.uuid else agent.remoteUuid
    nodeType := hb.nodeType
    pid := hb.pid
    hostname := hb.nodeHostname
    name := hb.nodeName
    timeStamp := now
    lastHeartbeatRx := now
    lastControlActivity := now }

end Block

namespace World

/-- `listener_suspend_fd`. -/
def listenerSuspendFd (w : World) : Option Nat → World
  | none => w
  | some fd => { w with allSet := w.allSet.erase fd, suspended := insert fd w.suspended }

/-- `listener_resume_fd`. -/
def listenerResumeFd (w : World) : Option Nat → World
  | none => w
  | some fd =>
    { w with
      allSet := insert fd w.allSet
      suspended := w.suspended.erase fd
      maxSelectFd := if fd > w.maxSelectFd then fd else w.maxSelectFd }

/-- `defw_agent_report_peer_ready` on a block in memory. -/
def reportPeerReady (w : World) (id : Nat) (reason : String) : Except Fault World := do
  let agent ← w.deref id
  let reported := agent.reportPeerReady w.uuid w.clock id reason
  return (w.notify reported.2).put id reported.1

/-- `listener_report_peer_ready`. The heartbeat that it sends may fail. -/
def listenerReportPeerReady (w : World) (id : Nat) (reason : String) : Except Fault World := do
  let agent ← w.deref id
  if agent.readyToReport && !agent.readyReported then
    let w := w.put id { agent with lastControlActivity := w.clock }
    w.reportPeerReady id reason
  else return w

/-- `process_msg_session_info` where a block with the uuid exists, up to the
release of the references. -/
def mergeSession (w : World) (id existing : Nat) (ses : Session) : Except Fault World := do
  let agent ← w.deref id
  if ses.rpcSetup then
    let w ← w.edit existing (fun known => known.attachRpc agent)
    w.listenerReportPeerReady existing "inbound-rpc-ready"
  else
    let w ← w.edit existing (fun known => known.attachControl agent w.clock)
    let known ← w.deref existing
    let w := w.listenerResumeFd known.iRpcFd
    w.listenerReportPeerReady existing "inbound-control-ready"

/-- `process_msg_session_info` where none exists. -/
def identify (w : World) (id : Nat) (ses : Session) : Except Fault World := do
  let agent ← w.deref id
  let agent := agent.learn ses w.clock
  if ses.rpcSetup then return (w.put id agent.becomeRpc).listenerSuspendFd agent.iFileDesc
  else return w.put id agent.becomeControl

/-- `process_msg_session_info`. -/
def processMsgSessionInfo (w : World) (id : Nat) (ses : Session) : Except Fault (DefwRc × World) :=
  if !ses.isValid then .ok (.protoError, w)
  else
    match w.findAgentByUuidPassive ses.uuid with
    | some existing => do
      let w ← w.acquireAgentBlk existing
      let w ← w.mergeSession id existing ses
      let w ← w.releaseAgentBlk existing false
      if id = existing then .error (.selfMerge id)
      else
        let w ← w.releaseAgentBlk id false
        return (.ok, w)
    | none => do
      let w ← w.identify id ses
      return (.ok, w)

/-- `process_msg_hb`. -/
def processMsgHb (w : World) (id : Nat) (hb : Session) : Except Fault (DefwRc × World) := do
  let agent ← w.deref id
  let w := w.put id (agent.heard hb w.clock)
  if agent.remoteUuid.isNull then
    let w ← w.reportPeerReady id "remote-identity-ready"
    return (.ok, w)
  else return (.ok, w)

/-- The other handlers. Those of requests, responses and events clear
`DEFW_AGENT_WORK_IN_PROGRESS` when they are done. -/
def processRpc (w : World) (id : Nat) (message : Message) : Except Fault (DefwRc × World) := do
  let agent ← w.deref id
  let w := w.notify [.handed id ⟨message.header.type, message.header.sender, message.body⟩ agent]
  let w := if message.header.type = .rmaAck then w else w.put id { agent with workInProgress := false }
  return (if message.handlerRc = .keepData then .ok else message.handlerRc, w)

/-- The call through `msg_process_tbl`. -/
def dispatch (w : World) (id : Nat) (message : Message) : Except Fault (DefwRc × World) :=
  match message.header.type with
  | .hb => w.processMsgHb id (Session.read message.body)
  | .sessionInfo => w.processMsgSessionInfo id (Session.read message.body)
  | _ => w.processRpc id message

/-- `process_agent_message`. -/
def processAgentMessage (w : World) (id : Nat) (incoming : Incoming) : Except Fault (DefwRc × World) := do
  let agent ← w.deref id
  match incoming.admitted agent.remoteUuid with
  | .error rc => return (rc, w)
  | .ok message => w.dispatch id message

end World

end DEFw.Agents
