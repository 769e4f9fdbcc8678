import DEFw.Agents.Listener

namespace DEFw.Agents
open Transport (Uuid)

/-- A call of `defw_connect_to_agent` that starts a thread, with what the steps of
`defw_connect_to_agent_thread` meet: the address (absent if `inet_aton` refuses
it), memory for the block, the descriptors of the two connections (absent where
`establishTCPConnection` fails), the codes of the two session informations, and
the port `getsockname` finds. -/
structure Dial where
  uuid : Uuid
  sinAddr : Option Nat
  port : Nat
  nodeType : NodeType
  name : List UInt8
  hostname : List UInt8
  allocates : Bool
  control : Option Nat
  controlSession : DefwRc
  rpc : Option Nat
  rpcSession : DefwRc
  localPort : Nat
  deriving DecidableEq

/-- A call where every step goes well. -/
def Dial.plain (uuid : Uuid) (control rpc : Nat) : Dial where
  uuid := uuid
  sinAddr := some 0x7f000001
  port := 8090
  nodeType := .service
  name := []
  hostname := []
  allocates := true
  control := some control
  controlSession := .ok
  rpc := some rpc
  rpcSession := .ok
  localPort := 40000

/-- The thread opens the control connection and does not get to its end. -/
def Dial.Fails (dial : Dial) : Prop :=
  dial.control.isSome ∧ (dial.controlSession ≠ .ok ∨ dial.rpc = none ∨ dial.rpcSession ≠ .ok)

instance (dial : Dial) : Decidable dial.Fails := inferInstanceAs (Decidable (_ ∧ _))

/-- The RPC connection cannot be established after the control connection is up. -/
def Dial.Untrue (dial : Dial) : Prop := dial.control.isSome ∧ dial.controlSession = .ok ∧ dial.rpc = none

instance (dial : Dial) : Decidable dial.Untrue := inferInstanceAs (Decidable (_ ∧ _ ∧ _))

namespace Block

/-- The block of an outbound connection before it connects. -/
def dialling (addr : Addr) (now : Nat) (dial : Dial) (req : ConnectReq) : Block :=
  { fresh addr now with
    listenPort := dial.port
    direction := .outbound
    nodeType := dial.nodeType
    lifecycle := .handshake
    connectReq := some req }

/-- After the session information is out on the control connection. -/
def controlUp (agent : Block) : Block := { agent with cntrlConnected := true, isAlive := true, isNew := false }

/-- After the session information is out on the RPC connection. -/
def rpcUp (agent : Block) (dial : Dial) : Block :=
  { agent with
    rpcConnected := true
    name := dial.name
    hostname := dial.hostname
    addr := { agent.addr with sinPort := dial.localPort } }

end Block

namespace World

/-- The end of `defw_connect_to_agent_thread` on an error. -/
def failConnect (w : World) (req : ConnectReq) (rc : DefwRc) : World := w.notify [.connectStatus req rc]

/-- Its exit over the labels `close` and `free_agent`. -/
def abandon (w : World) (id : Nat) (agent : Block) (req : ConnectReq) (rc : DefwRc) : World :=
  ((w.closeAgentConnection id agent).freeAgentBlk id).failConnect req rc

/-- The part of the thread after the control connection is up. `rc` is the code of
the control session, which the failure of the RPC connection leaves as it is. -/
def dialRpc (w : World) (id : Nat) (agent : Block) (req : ConnectReq) (dial : Dial) (rc : DefwRc) :
    World × Option Nat :=
  match dial.rpc with
  | none => (w.abandon id agent req rc, none)
  | some fd =>
    let agent := agent.plugRpc (some fd)
    let w := w.establish fd
    if dial.rpcSession = .ok then (w.put id (agent.rpcUp dial), some id)
    else (w.abandon id agent req dial.rpcSession, none)

/-- The part of the thread that connects with the block in its hands. -/
def dialControl (w : World) (id : Nat) (agent : Block) (req : ConnectReq) (dial : Dial) : World × Option Nat :=
  match dial.control with
  | none => ((w.freeAgentBlk id).failConnect req .socketFail, none)
  | some fd =>
    let agent := agent.plugControl (some fd)
    let w := w.establish fd
    if dial.controlSession = .ok then w.dialRpc id agent.controlUp req dial dial.controlSession
    else (w.abandon id agent req dial.controlSession, none)

/-- `defw_connect_to_agent_thread` until it inserts the block in the table. The
block is its own until then, and the result names it if there is one. -/
def connectToAgentThread (w : World) (req : ConnectReq) (dial : Dial) : World × Option Nat :=
  match dial.sinAddr with
  | none => (w.failConnect req .badAddr, none)
  | some sinAddr =>
    if !dial.allocates then (w.failConnect req .oom, none)
    else
      let addr := ⟨sinAddr, dial.port⟩
      let agent := Block.dialling addr w.clock dial req
      let id := w.nextBlock
      let w := ((w.allocAgentBlk addr false).put id agent).notify [.dialling req id]
      w.dialControl id agent req dial

/-- The block goes in the table and its descriptors in `g_tAllSet`. -/
def register (w : World) (id : Nat) (agent : Block) : World :=
  let w := w.link id
  let w := { w with allSet := w.allSet ∪ agent.fds }
  { w with maxSelectFd := w.getHighestFd }

/-- The rest of the thread. -/
def publish (w : World) (id : Nat) : Except Fault World := do
  let agent ← w.deref id
  (w.register id agent).reportPeerReady id "outbound-rpc-ready"

end World

/-- Where a user of a block stands: `defw_send` has found it, has an RPC channel,
is sending, has the outcome (`dead` if that is `EN_DEFW_RC_SOCKET_FAIL`), and has
only to release it. A user that only looks at the block comes in at the end. -/
inductive Stage
  | found
  | opened
  | sending
  | finished (dead : Bool)
  | leaving (dead : Bool)
  deriving DecidableEq

structure Send where
  block : Nat
  stage : Stage
  deriving DecidableEq

/-- What a step of `defw_send` meets: the descriptor of a new RPC connection, the
code of its session information, and that of the message. -/
structure Net where
  fd : Option Nat
  sessionRc : DefwRc
  rc : DefwRc
  deriving DecidableEq

namespace World

/-- The part of `defw_send` under `state_mutex`. -/
def openRpcChannel (w : World) (id : Nat) (net : Net) : Except Fault (World × Stage) := do
  let agent ← w.deref id
  if agent.rpcConnected then return (w, .opened)
  else
    match net.fd with
    | none => return (w.put id (agent.plugRpc none), .finished false)
    | some fd =>
      let w := w.establish fd
      let agent := agent.plugRpc (some fd)
      if net.sessionRc = .ok then return (w.put id { agent with rpcConnected := true }, .opened)
      else return (w.put id agent, .finished (net.sessionRc = .socketFail))

/-- The next step of `defw_send` on the block it holds. -/
def advance (w : World) (send : Send) (net : Net) : Except Fault (World × Option Send) :=
  match send.stage with
  | .found => do
    let (w, stage) ← w.openRpcChannel send.block net
    return (w, some { send with stage := stage })
  | .opened => do
    let w ← w.edit send.block (fun agent => { agent with workInProgress := true })
    return (w, some { send with stage := .sending })
  | .sending => return (w, some { send with stage := .finished (net.rc = .socketFail) })
  | .finished dead => do
    let w ← w.edit send.block (fun agent => { agent with workInProgress := false })
    return (w, some { send with stage := .leaving dead })
  | .leaving dead => do
    let w ← w.releaseAgentBlk send.block dead
    return (w, none)

end World

end DEFw.Agents
