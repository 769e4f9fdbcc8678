import DEFw.Agents.Messages

namespace DEFw.Agents

/-- Whether `process_connection_agents_helper` gives a connection up over the code
of a message. -/
def DefwRc.isFailure (rc : DefwRc) : Bool := rc ≠ .ok ∧ rc ≠ .noDataOnSocket

namespace Block

/-- `strncpy` into `failure_reason`. -/
def failing (agent : Block) (reason : String) : Block := { agent with failureReason := reason }

/-- What `agent_liveness_check_helper` finds wrong at the time `t`. -/
def expired (agent : Block) (t : Nat) : Option String :=
  if agent.isNew then
    if t ≥ agent.handshakeDeadline then some "handshake-timeout" else none
  else if agent.heartbeatMode = .remote ∧ t ≥ agent.lastHeartbeatRx + hbTo * 100 then some "heartbeat-timeout"
  else none

end Block

namespace World

/-- The branch of `defw_listener_main` for a `select` that fails and does not end
the loop. -/
def selectFails (w : World) : World := { w with allSet := ∅ }

/-- `defw_find_create_agent_blk_by_addr`. -/
def findCreateAgentBlkByAddr (w : World) (addr : Addr) : Except Fault (Nat × World) :=
  match w.findAgentBlkByAddr addr with
  | none => .ok (w.nextBlock, w.allocAgentBlk addr true)
  | some id => do
    let w ← w.acquireAgentBlk id
    let w ← w.releaseAgentBlk id false
    return (id, w)

/-- `accept` or `establishTCPConnection` opens a descriptor. -/
def establish (w : World) (fd : Nat) : World := { w with opened := insert fd w.opened }

/-- What the loop does with the block for an accepted connection. -/
def adopt (w : World) (id iConnFd : Nat) : Except Fault World := do
  let w ← w.edit id (fun agent => agent.plugControl (some iConnFd))
  let w := { w with allSet := insert iConnFd w.allSet }
  return { w with maxSelectFd := w.getHighestFd }

/-- The branch of `defw_listener_main` for a connection that `accept` returned. -/
def accept (w : World) (iConnFd : Nat) (addr : Addr) : Except Fault World := do
  let (id, w) ← (w.establish iConnFd).findCreateAgentBlkByAddr addr
  w.adopt id iConnFd

/-- The last release of a helper. `reason` goes to `failure_reason` first. -/
def leave (w : World) (id : Nat) (dead : Bool) : Option String → Except Fault World
  | none => w.releaseAgentBlk id dead
  | some reason => do
    let w ← w.edit id (fun agent => agent.failing reason)
    w.releaseAgentBlk id dead

/-- `process_new_agents_helper` on a block of `defw_new_agent_iter`, which has
acquired it. `hb` is the message of the control descriptor if that is ready, and
`rpcReady` says whether the RPC descriptor is. -/
def processNewAgentsHelper (w : World) (id : Nat) (hb : Option Incoming) (rpcReady : Bool) :
    Except Fault World := do
  let w ← w.releaseAgentConn id
  match hb with
  | none => if rpcReady then w.leave id true (some "unexpected-new-agent-rpc") else return w
  | some incoming =>
    let (rc, w) ← w.processAgentMessage id incoming
    if rc = .ok then return w else w.leave id true (some "new-agent-message-failure")

/-- The messages that `process_connection_agents_helper` reads, up to one that it
gives the connection up over, and its release. -/
def readChannels (w : World) (id : Nat) : List Incoming → Except Fault World
  | [] => w.leave id false none
  | incoming :: messages => do
    let (rc, w) ← w.processAgentMessage id incoming
    if rc.isFailure then w.leave id true none else w.readChannels id messages

/-- `process_connection_agents_helper` on a block that the iteration has acquired.
`hb` and `rpc` are the messages of the descriptors that are ready. -/
def processConnectionAgentsHelper (w : World) (id : Nat) (hb rpc : Option Incoming) : Except Fault World := do
  let agent ← w.deref id
  w.readChannels id (if agent.isNew then [] else hb.toList ++ rpc.toList)

/-- `agent_liveness_check_helper` on a block that the iteration has acquired. -/
def agentLivenessCheckHelper (w : World) (id t : Nat) : Except Fault World := do
  let agent ← w.deref id
  let reason := agent.expired t
  w.leave id reason.isSome reason

/-- `send_hb_to_agents` on a block that the iteration has acquired. `rc` is what
`defw_send_hb` returns. -/
def sendHbToAgents (w : World) (id : Nat) (rc : DefwRc) : Except Fault World := do
  let agent ← w.deref id
  if agent.heartbeatMode ≠ .remote then w.leave id false none
  else if rc ≠ .ok then w.leave id true (some "heartbeat-send-failure")
  else
    let w ← w.edit id (fun agent => { agent with lastHeartbeatTx := w.clock })
    w.leave id false none

/-- The iteration over the table acquires a block before it calls a helper. -/
def visiting (w : World) (id : Nat) (helper : World → Except Fault World) : Except Fault World := do
  let w ← w.acquireAgentBlk id
  helper w

end World

end DEFw.Agents
