import DEFw.Agents.Connect
import DEFw.Lib.Faulting

namespace DEFw.Agents
open Transport (Uuid)

/-- For whom the listener reads a message: `process_new_agents_helper`, which has
given back the reference of the iteration, or `process_connection_agents_helper`,
which has not, with the messages it reads after this one. -/
inductive Task
  | fresh
  | established (rest : List Incoming)
  deriving DecidableEq

/-- Where the listener stands between two of its atomic steps. A step has one
lookup, acquisition or release of a block at most. -/
inductive Listener
  | idle
  /-- found the block of an accepted connection by its address -/
  | accepted (id fd : Nat)
  /-- gave it back and is about to store the descriptor -/
  | adopting (id fd : Nat)
  /-- acquired a new block -/
  | greeting (id : Nat) (hb : Option Incoming) (rpcReady : Bool)
  | reading (task : Task) (id : Nat) (incoming : Incoming)
  /-- found a block with the uuid of a session -/
  | merging (task : Task) (id existing : Nat) (ses : Session)
  /-- moved the connection there -/
  | merged (task : Task) (id existing : Nat)
  /-- gave that block back -/
  | duplicate (task : Task) (id existing : Nat)
  | leaving (task : Task) (id : Nat) (dead : Bool) (reason : Option String)
  deriving DecidableEq

/-- The process with its threads: the listener, those that send, and those of
`defw_connect_to_agent` whose block is not in the table yet. `requests` counts the
calls of `defw_connect_to_agent`. -/
structure Process where
  world : World
  listener : Listener
  sends : List Send
  dialled : List Nat
  requests : Nat

/-- What a thread does next, with what it meets. -/
inductive Action
  | tick (seconds : Nat)
  | selectFails
  | accept (fd : Nat) (addr : Addr)
  | newAgent (id : Nat) (hb : Option Incoming) (rpcReady : Bool)
  | visit (id : Nat) (hb rpc : Option Incoming)
  | livenessCheck (id t : Nat)
  | sendHb (id : Nat) (rc : DefwRc)
  | proceed
  | connect (dial : Dial)
  | publish (id : Nat)
  | send (remote : Uuid) (blk : Option Nat)
  | look (blk : Nat)
  | advance (send : Send) (net : Net)
  deriving DecidableEq

/-- The reference of the iteration, which `process_new_agents_helper` has given
back. -/
def Task.holds (id : Nat) : Task → List Nat
  | fresh => []
  | established _ => [id]

namespace Listener

/-- The references that the listener has acquired and not released. -/
def holds : Listener → List Nat
  | idle => []
  | accepted id _ => [id]
  | adopting _ _ => []
  | greeting id _ _ => [id]
  | reading task id _ => task.holds id
  | merging task id existing _ => existing :: task.holds id
  | merged task id existing => existing :: task.holds id
  | duplicate task id _ => task.holds id
  | leaving task id _ _ => task.holds id

/-- The blocks that the listener is working on. -/
def blocks : Listener → List Nat
  | idle => []
  | accepted id _ => [id]
  | adopting id _ => [id]
  | greeting id _ _ => [id]
  | reading _ id _ => [id]
  | merging _ id existing _ => [id, existing]
  | merged _ id existing => [id, existing]
  | duplicate _ id existing => [id, existing]
  | leaving _ id _ _ => [id]

/-- What is left to read in `process_connection_agents_helper`. -/
def readRest (id : Nat) : List Incoming → Listener
  | [] => leaving (.established []) id false none
  | incoming :: rest => reading (.established rest) id incoming

/-- Where a message that was processed with a code leaves the listener. -/
def after (task : Task) (id : Nat) (rc : DefwRc) : Listener :=
  match task with
  | .fresh => if rc = .ok then idle else leaving .fresh id true (some "new-agent-message-failure")
  | .established rest => if rc.isFailure then leaving (.established []) id true none else readRest id rest

end Listener

namespace Process

def start (uuid : Uuid) (clock listenFd : Nat) : Process where
  world := World.init uuid clock listenFd
  listener := .idle
  sends := []
  dialled := []
  requests := 0

/-- A lookup by a sender returns the block it finds with a reference. -/
def acquire (s : Process) (found : Option Nat) (stage : Stage) : Except Fault Process :=
  match found with
  | none => .ok s
  | some id => do
    let w ← s.world.acquireAgentBlk id
    return { s with world := w, sends := ⟨id, stage⟩ :: s.sends }

/-- The iteration over the table acquires a block for a helper. -/
def visiting (s : Process) (id : Nat) (next : Block → Listener) : Except Fault Process := do
  let agent ← s.world.deref id
  let w ← s.world.acquireAgentBlk id
  return { s with world := w, listener := next agent }

/-- `process_agent_message`, up to a block that session information has to be
merged with. -/
def receive (s : Process) (task : Task) (id : Nat) (incoming : Incoming) : Except Fault Process := do
  let agent ← s.world.deref id
  match incoming.admitted agent.remoteUuid with
  | .error rc => return { s with listener := .after task id rc }
  | .ok message =>
    match message.header.type with
    | .hb => do
      let (rc, w) ← s.world.processMsgHb id (Session.read message.body)
      return { s with world := w, listener := .after task id rc }
    | .sessionInfo =>
      let ses := Session.read message.body
      if !ses.isValid then return { s with listener := .after task id .protoError }
      else
        match s.world.findAgentByUuidPassive ses.uuid with
        | some existing => do
          let w ← s.world.acquireAgentBlk existing
          return { s with world := w, listener := .merging task id existing ses }
        | none => do
          let w ← s.world.identify id ses
          return { s with world := w, listener := .after task id .ok }
    | _ => do
      let (rc, w) ← s.world.processRpc id message
      return { s with world := w, listener := .after task id rc }

/-- The next step of the listener in what it is doing. -/
def proceed (s : Process) : Except Fault Process :=
  match s.listener with
  | .idle => .ok s
  | .accepted id fd => do
    let w ← s.world.releaseAgentBlk id false
    return { s with world := w, listener := .adopting id fd }
  | .adopting id fd => do
    let w ← s.world.adopt id fd
    return { s with world := w, listener := .idle }
  | .greeting id hb rpcReady => do
    let w ← s.world.releaseAgentConn id
    match hb with
    | some incoming => return { s with world := w, listener := .reading .fresh id incoming }
    | none =>
      return { s with
        world := w
        listener := if rpcReady then .leaving .fresh id true (some "unexpected-new-agent-rpc") else .idle }
  | .reading task id incoming => s.receive task id incoming
  | .merging task id existing ses => do
    let w ← s.world.mergeSession id existing ses
    return { s with world := w, listener := .merged task id existing }
  | .merged task id existing => do
    let w ← s.world.releaseAgentBlk existing false
    return { s with world := w, listener := .duplicate task id existing }
  | .duplicate task id existing =>
    if id = existing then .error (.selfMerge id)
    else do
      let w ← s.world.releaseAgentBlk id false
      return { s with world := w, listener := .after task id .ok }
  | .leaving _ id dead reason => do
    let w ← s.world.leave id dead reason
    return { s with world := w, listener := .idle }

def step (s : Process) : Action → Except Fault Process
  | .tick seconds => .ok { s with world := { s.world with clock := s.world.clock + seconds } }
  | .selectFails => .ok { s with world := s.world.selectFails }
  | .accept fd addr =>
    let w := s.world.establish fd
    match w.findAgentBlkByAddr addr with
    | none => do
      let w ← (w.allocAgentBlk addr true).adopt w.nextBlock fd
      return { s with world := w }
    | some id => do
      let w ← w.acquireAgentBlk id
      return { s with world := w, listener := .accepted id fd }
  | .newAgent id hb rpcReady => s.visiting id (fun _ => .greeting id hb rpcReady)
  | .visit id hb rpc =>
    s.visiting id (fun agent => .readRest id (if agent.isNew then [] else hb.toList ++ rpc.toList))
  | .livenessCheck id t =>
    s.visiting id (fun agent => .leaving (.established []) id (agent.expired t).isSome (agent.expired t))
  | .sendHb id rc => do
    let agent ← s.world.deref id
    if agent.heartbeatMode ≠ .remote then s.visiting id (fun _ => .leaving (.established []) id false none)
    else if rc ≠ .ok then
      s.visiting id (fun _ => .leaving (.established []) id true (some "heartbeat-send-failure"))
    else
      let w ← s.world.edit id (fun agent => { agent with lastHeartbeatTx := s.world.clock })
      visiting { s with world := w } id (fun _ => .leaving (.established []) id false none)
  | .proceed => s.proceed
  | .connect dial =>
    let dialled := s.world.connectToAgentThread ⟨s.requests, dial.uuid⟩ dial
    .ok { s with world := dialled.1, dialled := dialled.2.toList ++ s.dialled, requests := s.requests + 1 }
  | .publish id => do
    let w ← s.world.publish id
    return { s with world := w, dialled := s.dialled.erase id }
  | .send remote blk => s.acquire (s.world.findAgentByUuidGlobal remote blk) .found
  | .look blk => s.acquire (s.world.findAgentByBlkUuid blk) (.leaving false)
  | .advance send net => do
    let advanced ← s.world.advance send net
    return { s with world := advanced.1, sends := advanced.2.toList ++ s.sends.erase send }

def machine : Faulting Process Action Fault := ⟨step⟩

/-- The message that a step gives to its handler, with the block it came in on. -/
def delivery (s : Process) : Action → Option (Nat × Block × Message)
  | .proceed =>
    match s.listener with
    | .reading _ id incoming => do
      let agent ← s.world.blocks id
      let message ← (incoming.admitted agent.remoteUuid).toOption
      return (id, agent, message)
    | _ => none
  | _ => none

/-- A descriptor that the operating system may give out. -/
def Unused (s : Process) (fd : Nat) : Prop := fd ∉ s.world.opened ∧ fd ≠ s.world.listenFd

instance (s : Process) (fd : Nat) : Decidable (s.Unused fd) := inferInstanceAs (Decidable (_ ∧ _))

/-- `select` tells when there is something to read on the descriptor in a slot. -/
def Polled (s : Process) : Option Nat → Prop
  | none => False
  | some fd => fd ∈ s.world.allSet ∧ fd ≤ s.world.maxSelectFd

instance (s : Process) : (slot : Option Nat) → Decidable (s.Polled slot)
  | none => isFalse id
  | some _ => inferInstanceAs (Decidable (_ ∧ _))

def slot (s : Process) (id : Nat) (field : Block → Option Nat) : Option Nat := (s.world.blocks id).bind field

/-- When an action can happen. The operating system gives out descriptors that
are not in use, the listener reads what `select` found ready on blocks of the
table, and a thread goes on from where it is. -/
def Enabled (s : Process) : Action → Prop
  | .tick _ => True
  | .selectFails => s.listener = .idle
  | .accept fd _ => s.listener = .idle ∧ s.Unused fd ∧ s.Polled (some s.world.listenFd)
  | .newAgent id hb rpcReady => s.listener = .idle ∧ id ∈ s.world.table ∧
      (s.world.blocks id).any Block.isNew = true ∧
      (hb.isSome = true → s.Polled (s.slot id Block.iFileDesc)) ∧ (rpcReady = true → s.Polled (s.slot id Block.iRpcFd))
  | .visit id hb rpc => s.listener = .idle ∧ id ∈ s.world.table ∧
      (hb.isSome = true → s.Polled (s.slot id Block.iFileDesc)) ∧ (rpc.isSome = true → s.Polled (s.slot id Block.iRpcFd))
  | .livenessCheck id t => s.listener = .idle ∧ id ∈ s.world.table ∧ t ≤ s.world.clock
  | .sendHb id _ => s.listener = .idle ∧ id ∈ s.world.table
  | .proceed => s.listener ≠ .idle
  | .connect dial => (∀ fd ∈ dial.control, s.Unused fd) ∧ (∀ fd ∈ dial.rpc, s.Unused fd ∧ dial.control ≠ some fd)
  | .publish id => id ∈ s.dialled
  | .send _ _ => True
  | .look _ => True
  | .advance send net => send ∈ s.sends ∧ ∀ fd ∈ net.fd, s.Unused fd

instance (s : Process) : (action : Action) → Decidable (s.Enabled action)
  | .tick _ => isTrue trivial
  | .selectFails => inferInstanceAs (Decidable (_ = _))
  | .accept _ _ => inferInstanceAs (Decidable (_ ∧ _))
  | .newAgent _ _ _ => inferInstanceAs (Decidable (_ ∧ _))
  | .visit _ _ _ => inferInstanceAs (Decidable (_ ∧ _))
  | .livenessCheck _ _ => inferInstanceAs (Decidable (_ ∧ _))
  | .sendHb _ _ => inferInstanceAs (Decidable (_ ∧ _))
  | .proceed => inferInstanceAs (Decidable (_ ≠ _))
  | .connect _ => inferInstanceAs (Decidable (_ ∧ _))
  | .publish _ => inferInstanceAs (Decidable (_ ∈ _))
  | .send _ _ => isTrue trivial
  | .look _ => isTrue trivial
  | .advance _ _ => inferInstanceAs (Decidable (_ ∧ _))

/-- A process connects and introduces itself. -/
def introduction : List Action :=
  [.accept 5 ⟨0x7f000001, 40001⟩,
    .newAgent 0 (some ((Session.plain (Uuid.filled 2) false).incoming (Uuid.filled 2) .sessionInfo)) false,
    .proceed, .proceed]

end Process

end DEFw.Agents
