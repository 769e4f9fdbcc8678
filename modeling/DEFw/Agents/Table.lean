import DEFw.Agents.Block

namespace DEFw.Agents
open Transport (Uuid)

/-- Where the process ends other than by returning: an assertion fails, or a
block is used after it was freed. -/
inductive Fault
  | freedBlock (id : Nat)
  | refCount (id : Nat)
  | workInProgress (id : Nat)
  | notNew (id : Nat)
  | selfMerge (id : Nat)
  deriving DecidableEq

/-- The process: its uuid and clock, the listen descriptor, the descriptors of
connections that are open, `g_tAllSet` and `g_iMaxSelectFd`, the blocks in memory,
`agent_connection_table` in its order, and what was notified so far. A number
stands for the `blk_uuid` of a block, and none is given twice. `suspended` has the
descriptors between `listener_suspend_fd` and `listener_resume_fd`. -/
structure World where
  uuid : Uuid
  clock : Nat
  listenFd : Nat
  opened : Finset Nat
  allSet : Finset Nat
  suspended : Finset Nat
  maxSelectFd : Int
  blocks : Nat → Option Block
  nextBlock : Nat
  table : List Nat
  notices : List Notice

namespace World

/-- The state in which `defw_listener_main` enters its loop. -/
def init (uuid : Uuid) (clock : Nat) (listenFd : Nat) : World where
  uuid := uuid
  clock := clock
  listenFd := listenFd
  opened := ∅
  allSet := {listenFd}
  suspended := ∅
  maxSelectFd := listenFd
  blocks := fun _ => none
  nextBlock := 0
  table := []
  notices := []

/-- The block at an address, as long as it is allocated. -/
def deref (w : World) (id : Nat) : Except Fault Block :=
  match w.blocks id with
  | none => .error (.freedBlock id)
  | some agent => .ok agent

def put (w : World) (id : Nat) (agent : Block) : World :=
  { w with blocks := fun other => if other = id then some agent else w.blocks other }

def edit (w : World) (id : Nat) (change : Block → Block) : Except Fault World := do
  let agent ← w.deref id
  return w.put id (change agent)

/-- `defw_notify_peer_event` and the callbacks. -/
def notify (w : World) (notices : List Notice) : World :=
  { w with notices := w.notices ++ notices }

/-- `dlist_insert_tail` on the table. -/
def link (w : World) (id : Nat) : World :=
  { w with table := w.table ++ [id] }

/-- `dlist_remove_init`. -/
def unlink (w : World) (id : Nat) : World :=
  { w with table := w.table.erase id }

/-- `free_agent_blk`. -/
def freeAgentBlk (w : World) (id : Nat) : World :=
  { w with
    blocks := fun other => if other = id then none else w.blocks other
    notices := w.notices ++ [.freed id] }

/-- A slot as the `int` that it is. -/
def slotValue : Option Nat → Int
  | none => -1
  | some fd => fd

/-- `calculate_highest_fd`. -/
def calculateHighestFd (agents : List Block) (iMaxFd : Int) : Int :=
  agents.foldl (fun highest agent =>
    let highest := if slotValue agent.iFileDesc > highest then slotValue agent.iFileDesc else highest
    if slotValue agent.iRpcFd > highest then slotValue agent.iRpcFd else highest) iMaxFd

/-- The blocks of the table, in its order. -/
def agents (w : World) : List Block := w.table.filterMap w.blocks

/-- `defw_agent_get_highest_fd`. -/
def agentGetHighestFd (w : World) : Int := calculateHighestFd w.agents (-1)

/-- `defw_get_highest_fd`. -/
def getHighestFd (w : World) : Int :=
  if w.agentGetHighestFd > w.listenFd then w.agentGetHighestFd else w.listenFd

/-- `close_agent_channel_unlocked` once the slot is taken out of the block. -/
def closeAgentChannel (w : World) : Option Nat → World
  | none => w
  | some fd =>
    { w with
      allSet := w.allSet.erase fd
      suspended := w.suspended.erase fd
      maxSelectFd := w.agentGetHighestFd
      opened := w.opened.erase fd }

/-- `close_agent_connection_unlocked`. It leaves `agent.unplugged`. -/
def closeAgentConnection (w : World) (id : Nat) (agent : Block) : World :=
  let w := (w.put id { agent with iFileDesc := none }).closeAgentChannel agent.iFileDesc
  (w.put id agent.unplugged).closeAgentChannel agent.iRpcFd

/-- `acquire_agent_blk`. -/
def acquireAgentBlk (w : World) (id : Nat) : Except Fault World := w.edit id Block.acquired

/-- `defw_agent_report_peer_lost` as a release calls it. -/
def reportLoss (w : World) (id : Nat) (agent : Block) : Block × List Notice :=
  agent.reportPeerLost w.uuid w.clock id agent.lossReason

def lossIf (w : World) (dead : Bool) (id : Nat) (agent : Block) : Block × List Notice :=
  if dead then w.reportLoss id agent else (agent, [])

/-- What `defw_agent_report_peer_removed` notifies as a release calls it. -/
def reportRemoval (w : World) (id : Nat) (agent : Block) : List Notice :=
  (agent.reportPeerRemoved w.uuid w.clock id "transport-cleanup").2

/-- `free_dead_agent_if_unreferenced` on a block with the fields of `agent`. -/
def freeDeadAgentIfUnreferenced (w : World) (id : Nat) (agent : Block) : World :=
  if agent.refCount = 0 then (w.notify (w.reportRemoval id agent)).freeAgentBlk id
  else w.put id agent

/-- What `defw_release_agent_blk_unlocked` does with a block whose count has
dropped to zero before it frees it. -/
def retire (w : World) (id : Nat) (agent : Block) (dead : Bool) : World :=
  if !agent.isNew || dead then
    let lost := w.lossIf dead id agent
    let w := (w.notify lost.2).closeAgentConnection id lost.1
    w.notify (w.reportRemoval id lost.1.unplugged)
  else w

/-- What it does with a block that others still hold when it is found dead. The
count is already without the caller's reference. -/
def bury (w : World) (id : Nat) (agent : Block) : World :=
  let lost := w.reportLoss id agent.dying
  let agent := lost.1.released
  let w := ((w.notify lost.2).unlink id).closeAgentConnection id agent
  w.freeDeadAgentIfUnreferenced id agent.unplugged

/-- `defw_release_agent_blk`. -/
def releaseAgentBlk (w : World) (id : Nat) (dead : Bool) : Except Fault World := do
  let agent ← w.deref id
  if agent.refCount = 0 then .error (.refCount id)
  else
    let agent := agent.released
    if agent.isDead then .ok (w.freeDeadAgentIfUnreferenced id agent)
    else if agent.refCount = 0 then
      if agent.workInProgress then .error (.workInProgress id)
      else .ok (((w.unlink id).retire id agent dead).freeAgentBlk id)
    else if dead then .ok (w.bury id agent)
    else .ok (w.put id agent)

/-- `defw_release_agent_conn`. -/
def releaseAgentConn (w : World) (id : Nat) : Except Fault World := do
  let agent ← w.deref id
  if !agent.isNew then .error (.notNew id)
  else if agent.refCount = 0 then .error (.refCount id)
  else
    let agent := agent.released
    if agent.refCount = 0 then .ok ((w.unlink id).freeAgentBlk id)
    else .ok (w.put id agent)

/-- `defw_alloc_agent_blk`. -/
def allocAgentBlk (w : World) (addr : Addr) (add : Bool) : World :=
  let w' := { w.put w.nextBlock (Block.fresh addr w.clock) with nextBlock := w.nextBlock + 1 }
  if add then w'.link w.nextBlock else w'

/-- The first block of the table that a test accepts. -/
def findAgent (w : World) (test : Nat → Block → Bool) : Option Nat :=
  w.table.find? (fun id => (w.blocks id).any (test id))

/-- `find_agent_blk_by_addr`. -/
def findAgentBlkByAddr (w : World) (addr : Addr) : Option Nat :=
  w.findAgent (fun _ agent => agent.isAlive && decide (agent.addr = addr))

/-- `find_agent_blk_by_uuid`. `blk` is `id->blk_uuid`, unless that is null. -/
def findAgentBlkByUuid (w : World) (remote : Uuid) (blk : Option Nat) (full : Bool) (direction : Direction) :
    Option Nat :=
  w.findAgent (fun id agent =>
    (direction = .unknown || agent.direction = direction) &&
      agent.remoteUuid = remote && (!full || blk = some id || blk = none))

/-- `defw_find_agent_by_uuid_passive`, which asks for a service and then for a
client, both inbound. -/
def findAgentByUuidPassive (w : World) (uuid : Uuid) : Option Nat :=
  (w.findAgentBlkByUuid uuid none false .inbound).or (w.findAgentBlkByUuid uuid none false .inbound)

/-- `defw_find_agent_by_uuid_global`. -/
def findAgentByUuidGlobal (w : World) (remote : Uuid) (blk : Option Nat) : Option Nat :=
  (w.findAgentBlkByUuid remote blk true .outbound).or <|
    (w.findAgentBlkByUuid remote blk true .inbound).or <|
      (w.findAgentBlkByUuid remote blk true .inbound).or (w.findAgentBlkByUuid remote blk true .outbound)

/-- `defw_find_agent_by_blk_uuid`. -/
def findAgentByBlkUuid (w : World) (blk : Nat) : Option Nat :=
  w.findAgent (fun id _ => id = blk)

end World

end DEFw.Agents
