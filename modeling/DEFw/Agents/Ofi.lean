import DEFw.Agents.Connect
import DEFw.Agents.Handlers
import DEFw.Agents.Lookup
import DEFw.Lib.Dict

namespace DEFw.Agents
open Transport (Uuid)

/-- A block with the peer that its `ofi_addr` stands for, as long as `DEFW_AGENT_OFI_ADDR_VALID`
is set, and with `DEFW_AGENT_OFI_READY`. -/
structure OfiBlock where
  block : Block
  ofiAddr : Option Nat := none
  ofiReady : Bool := false
  deriving DecidableEq

/-- The messages of the control protocol, with the OFI address of the sender unless
`ofi_addrlen` is zero. -/
inductive Letter
  | sessionInfo (ses : Session) (ofiAddr : Option Nat)
  | hb (ses : Session) (ofiAddr : Option Nat)
  deriving DecidableEq

namespace Letter

/-- The body, whose uuid is also `sender_uuid` of the header. -/
def body : Letter → Session
  | sessionInfo ses _ => ses
  | hb ses _ => ses

def ofiAddr : Letter → Option Nat
  | sessionInfo _ ofiAddr => ofiAddr
  | hb _ ofiAddr => ofiAddr

end Letter

namespace OfiBlock

/-- `maybe_insert_ofi_addr`. `up` is `g_ofi.up` and `inserts` the outcome of `fi_av_insert`. -/
def maybeInsertOfiAddr (up inserts : Bool) (ofiAddr : Option Nat) (agent : OfiBlock) : OfiBlock :=
  if agent.ofiAddr.isSome then agent
  else
    match ofiAddr with
    | none => agent
    | some addr => if up && inserts then { agent with ofiAddr := some addr } else agent

theorem block_maybeInsertOfiAddr (up inserts : Bool) (ofiAddr : Option Nat) (agent : OfiBlock) :
    (agent.maybeInsertOfiAddr up inserts ofiAddr).block = agent.block := by
  unfold maybeInsertOfiAddr
  split
  · rfl
  · cases ofiAddr with
    | none => rfl
    | some addr =>
      dsimp only
      split <;> rfl

theorem ofiReady_maybeInsertOfiAddr (up inserts : Bool) (ofiAddr : Option Nat) (agent : OfiBlock) :
    (agent.maybeInsertOfiAddr up inserts ofiAddr).ofiReady = agent.ofiReady := by
  unfold maybeInsertOfiAddr
  split
  · rfl
  · cases ofiAddr with
    | none => rfl
    | some addr =>
      dsimp only
      split <;> rfl

theorem ofiAddr_maybeInsertOfiAddr (up inserts : Bool) (ofiAddr : Option Nat) (agent : OfiBlock) :
    (agent.maybeInsertOfiAddr up inserts ofiAddr).ofiAddr =
      agent.ofiAddr.or (if up && inserts then ofiAddr else none) := by
  unfold maybeInsertOfiAddr
  cases valid : agent.ofiAddr with
  | some addr => simp [valid]
  | none => cases ofiAddr <;> cases up <;> cases inserts <;> simp [valid]

/-- What `process_msg_session_info` moves to the block that it found. -/
def attached (known agent : OfiBlock) (ses : Session) (now : Nat) : OfiBlock :=
  { known with
    block := if ses.rpcSetup then known.block.attachRpc agent.block else known.block.attachControl agent.block now }

/-- What a new connection learns from its session information. -/
def learned (agent : OfiBlock) (ses : Session) (now : Nat) : OfiBlock :=
  { agent with block := agent.block.learn ses now }

/-- The half of the pair that the connection is. -/
def settled (agent : OfiBlock) (ses : Session) : OfiBlock :=
  { agent with block := if ses.rpcSetup then agent.block.becomeRpc else agent.block.becomeControl }

/-- What `process_msg_hb` takes over from the heartbeat. -/
def updated (agent : OfiBlock) (hb : Session) (now : Nat) : OfiBlock :=
  { agent with block := agent.block.heard hb now }

/-- `DEFW_AGENT_OFI_READY` goes with a heartbeat from a peer whose address is valid. -/
def confirmed (agent : OfiBlock) : OfiBlock := { agent with ofiReady := agent.ofiReady || agent.ofiAddr.isSome }

end OfiBlock

/-- A process that takes part in the handshakes: what it writes about itself in a message, its
OFI address while OFI is active, the table in its order, and the blocks that are out of the
table while others still use them. -/
structure Node where
  self : Session
  ofi : Option Nat
  clock : Nat := 0
  nextBlock : Nat := 0
  table : Dict Nat OfiBlock := .empty
  unlinked : List OfiBlock := []

namespace Node

/-- The blocks of the process that a thread can get hold of. -/
def blocks (n : Node) : List OfiBlock := n.table.values ++ n.unlinked

def put (n : Node) (id : Nat) (agent : OfiBlock) : Node := { n with table := n.table.set id agent }

/-- A block leaves the table. -/
def unlink (n : Node) (id : Nat) : Node :=
  match n.table.get? id with
  | none => n
  | some agent => { n with table := n.table.erase id, unlinked := agent :: n.unlinked }

/-- A block comes into the table. -/
def link (n : Node) (agent : OfiBlock) : Node :=
  { n with table := n.table.set n.nextBlock agent, nextBlock := n.nextBlock + 1 }

/-- What `defw_send_session_info` sends. -/
def sendSessionInfo (n : Node) (rpcSetup : Bool) : Letter := .sessionInfo { n.self with rpcSetup := rpcSetup } n.ofi

/-- What `defw_send_hb` sends. -/
def sendHb (n : Node) : Letter := .hb { n.self with rpcSetup := false, listenPort := 0 } n.ofi

/-- The first block of the table that a test accepts. -/
def findAgent (n : Node) (test : Block → Bool) : Option (Nat × OfiBlock) :=
  n.table.entries.find? (fun entry => test entry.2.block)

/-- `find_agent_blk_by_uuid` without a block uuid. -/
def findAgentBlkByUuid (n : Node) (remote : Uuid) (direction : Direction) : Option (Nat × OfiBlock) :=
  n.findAgent (fun agent => decide (agent.direction = direction) && decide (agent.remoteUuid = remote))

/-- `defw_find_agent_by_uuid_passive`. -/
def findAgentByUuidPassive (n : Node) (uuid : Uuid) : Option (Nat × OfiBlock) :=
  (n.findAgentBlkByUuid uuid .inbound).or (n.findAgentBlkByUuid uuid .inbound)

/-- `defw_find_agent_by_uuid_global` as `defw_ofi_dispatch` calls it. -/
def findAgentByUuidGlobal (n : Node) (uuid : Uuid) : Option (Nat × OfiBlock) :=
  (n.findAgentBlkByUuid uuid .outbound).or <|
    (n.findAgentBlkByUuid uuid .inbound).or <|
      (n.findAgentBlkByUuid uuid .inbound).or (n.findAgentBlkByUuid uuid .outbound)

/-- `listener_report_peer_ready`, with the descriptor of the heartbeat that it sends. -/
def listenerReportPeerReady (n : Node) (id : Nat) (agent : OfiBlock) (reason : String) : OfiBlock × Option Nat :=
  ({ agent with block := (agent.block.greeted n.self.uuid n.clock id reason).1 },
    if agent.block.readyToReport && !agent.block.readyReported then agent.block.iFileDesc else none)

/-- `process_msg_session_info` on the block that it found. -/
def merged (n : Node) (inserts : Bool) (existing : Nat) (known agent : OfiBlock) (ses : Session)
    (ofiAddr : Option Nat) : OfiBlock × Option Nat :=
  n.listenerReportPeerReady existing
    ((known.attached agent ses n.clock).maybeInsertOfiAddr n.ofi.isSome inserts ofiAddr)
    (if ses.rpcSetup then "inbound-rpc-ready" else "inbound-control-ready")

/-- `process_msg_session_info` where it found none. -/
def identified (n : Node) (inserts : Bool) (agent : OfiBlock) (ses : Session) (ofiAddr : Option Nat) : OfiBlock :=
  ((agent.learned ses n.clock).maybeInsertOfiAddr n.ofi.isSome inserts ofiAddr).settled ses

/-- `process_msg_session_info`, with the descriptor of the heartbeat that it sends. -/
def processMsgSessionInfo (n : Node) (inserts : Bool) (id : Nat) (agent : OfiBlock) (ses : Session)
    (ofiAddr : Option Nat) : Except Fault (DefwRc × Node × Option Nat) :=
  if !ses.isValid then .ok (.protoError, n, none)
  else
    match n.findAgentByUuidPassive ses.uuid with
    | some (existing, known) =>
      if id = existing then .error (.selfMerge id)
      else
        .ok (.ok, (n.put existing (n.merged inserts existing known agent ses ofiAddr).1).unlink id,
          (n.merged inserts existing known agent ses ofiAddr).2)
    | none => .ok (.ok, n.put id (n.identified inserts agent ses ofiAddr), none)

/-- The part of `process_msg_hb` up to `DEFW_AGENT_OFI_READY`. -/
def heard (n : Node) (inserts : Bool) (agent : OfiBlock) (hb : Session) (ofiAddr : Option Nat) : OfiBlock :=
  ((agent.updated hb n.clock).maybeInsertOfiAddr n.ofi.isSome inserts ofiAddr).confirmed

/-- `defw_agent_report_peer_ready`. -/
def reportPeerReady (n : Node) (id : Nat) (agent : OfiBlock) (reason : String) : OfiBlock :=
  { agent with block := (agent.block.reportPeerReady n.self.uuid n.clock id reason).1 }

/-- `process_msg_hb`, with the descriptor of the heartbeat that it sends. -/
def processMsgHb (n : Node) (inserts : Bool) (id : Nat) (agent : OfiBlock) (hb : Session) (ofiAddr : Option Nat) :
    OfiBlock × Option Nat :=
  if agent.block.remoteUuid.isNull then
    (n.reportPeerReady id (n.heard inserts agent hb ofiAddr) "remote-identity-ready",
      if n.ofi.isSome then (n.heard inserts agent hb ofiAddr).block.iFileDesc else none)
  else (n.heard inserts agent hb ofiAddr, none)

/-- The call through `msg_process_tbl`. -/
def dispatch (n : Node) (inserts : Bool) (id : Nat) (agent : OfiBlock) :
    Letter → Except Fault (DefwRc × Node × Option Nat)
  | .sessionInfo ses ofiAddr => n.processMsgSessionInfo inserts id agent ses ofiAddr
  | .hb ses ofiAddr =>
    .ok (.ok, n.put id (n.processMsgHb inserts id agent ses ofiAddr).1, (n.processMsgHb inserts id agent ses ofiAddr).2)

/-- `process_agent_message`. -/
def processAgentMessage (n : Node) (inserts : Bool) (id : Nat) (agent : OfiBlock) (letter : Letter) :
    Except Fault (DefwRc × Node × Option Nat) :=
  if !agent.block.remoteUuid.isNull && decide (agent.block.remoteUuid ≠ letter.body.uuid) then .ok (.badAddr, n, none)
  else n.dispatch inserts id agent letter

/-- A message that `process_new_agents_helper` or `process_connection_agents_helper` reads. -/
def receive (n : Node) (inserts : Bool) (id : Nat) (agent : OfiBlock) (letter : Letter) :
    Except Fault (Node × Option Nat) := do
  let (rc, n, sent) ← n.processAgentMessage inserts id agent letter
  return (if rc = .ok then n else n.unlink id, sent)

/-- The block from which one of the helpers reads a descriptor. The helper for new blocks reads
no RPC descriptor. -/
def reader (n : Node) (fd : Nat) : Option (Nat × OfiBlock) :=
  n.findAgent (fun agent =>
    decide (agent.iFileDesc = some fd) || (!agent.isNew && decide (agent.iRpcFd = some fd)))

/-- The branch of `defw_listener_main` for a connection that `accept` returned. -/
def accept (n : Node) (fd : Nat) (addr : Addr) : Node :=
  match n.findAgent (fun agent => agent.isAlive && decide (agent.addr = addr)) with
  | none => n.link { block := (Block.fresh addr n.clock).plugControl (some fd) }
  | some (id, agent) => n.put id { agent with block := agent.block.plugControl (some fd) }

/-- `send_hb_to_agents`, with the descriptor of the heartbeat. `sends` is its outcome. -/
def sendHbToAgents (n : Node) (id : Nat) (sends : Bool) : Node × Option Nat :=
  match n.table.get? id with
  | none => (n, none)
  | some agent =>
    if agent.block.heartbeatMode ≠ .remote then (n, none)
    else if !sends then (n.unlink id, agent.block.iFileDesc)
    else (n.put id { agent with block := { agent.block with lastHeartbeatTx := n.clock } }, agent.block.iFileDesc)

/-- The report of the thread that connected. -/
def announce (n : Node) (id : Nat) : Node :=
  match n.table.get? id with
  | none => n
  | some agent => n.put id (n.reportPeerReady id agent "outbound-rpc-ready")

variable {n n' : Node} {id other : Nat} {agent block : OfiBlock} {test : Block → Bool}

@[simp] theorem self_put : (n.put id agent).self = n.self := rfl

@[simp] theorem ofi_put : (n.put id agent).ofi = n.ofi := rfl

@[simp] theorem self_link : (n.link agent).self = n.self := rfl

@[simp] theorem ofi_link : (n.link agent).ofi = n.ofi := rfl

@[simp] theorem self_unlink : (n.unlink id).self = n.self := by
  unfold unlink
  split <;> rfl

@[simp] theorem ofi_unlink : (n.unlink id).ofi = n.ofi := by
  unfold unlink
  split <;> rfl

theorem get?_put : (n.put id agent).table.get? other = if other = id then some agent else n.table.get? other :=
  Dict.get?_set ..

theorem get?_link : (n.link agent).table.get? other = if other = n.nextBlock then some agent else n.table.get? other :=
  Dict.get?_set ..

theorem get?_unlink : (n.unlink id).table.get? other = if other = id then none else n.table.get? other := by
  unfold unlink
  split
  next absent =>
    split
    next same => rw [same, absent]
    next => rfl
  next => exact Dict.get?_erase ..

theorem mem_blocks : agent ∈ n.blocks ↔ (∃ id, n.table.get? id = some agent) ∨ agent ∈ n.unlinked := by
  rw [blocks, List.mem_append, Dict.mem_values_iff]

theorem mem_blocks_put (member : block ∈ (n.put id agent).blocks) : block = agent ∨ block ∈ n.blocks := by
  rcases mem_blocks.mp member with ⟨other, found⟩ | gone
  · rw [get?_put] at found
    split at found
    · exact .inl (Option.some.inj found).symm
    · exact .inr (mem_blocks.mpr (.inl ⟨other, found⟩))
  · exact .inr (mem_blocks.mpr (.inr gone))

theorem mem_blocks_link (member : block ∈ (n.link agent).blocks) : block = agent ∨ block ∈ n.blocks :=
  mem_blocks_put (n := n) member

theorem mem_unlinked_unlink (gone : block ∈ (n.unlink id).unlinked) :
    n.table.get? id = some block ∨ block ∈ n.unlinked := by
  unfold unlink at gone
  split at gone
  next => exact .inr gone
  next agent found =>
    rcases List.mem_cons.mp gone with rfl | earlier
    · exact .inl found
    · exact .inr earlier

theorem mem_blocks_unlink (member : block ∈ (n.unlink id).blocks) : block ∈ n.blocks := by
  rcases mem_blocks.mp member with ⟨other, found⟩ | gone
  · rw [get?_unlink] at found
    split at found
    · cases found
    · exact mem_blocks.mpr (.inl ⟨other, found⟩)
  · rcases mem_unlinked_unlink gone with found | earlier
    · exact mem_blocks.mpr (.inl ⟨id, found⟩)
    · exact mem_blocks.mpr (.inr earlier)

theorem findAgent_some (found : n.findAgent test = some (id, agent)) :
    n.table.get? id = some agent ∧ test agent.block = true := by
  have accepted := List.find?_some found
  exact ⟨Dict.get?_eq_some_iff.mpr (List.mem_of_find?_eq_some found), accepted⟩

theorem findAgent_none (absent : n.findAgent test = none) (found : n.table.get? id = some agent) :
    test agent.block = false := by
  have refused := List.find?_eq_none.mp absent _ (Dict.get?_eq_some_iff.mp found)
  simpa using refused

theorem findAgentByUuidPassive_eq (uuid : Uuid) : n.findAgentByUuidPassive uuid = n.findAgentBlkByUuid uuid .inbound :=
  Option.or_self

/-- A process can name a peer of which a block is in the table. -/
theorem isSome_findAgentByUuidGlobal (found : n.table.get? id = some agent)
    (directed : agent.block.direction = .inbound ∨ agent.block.direction = .outbound) :
    (n.findAgentByUuidGlobal agent.block.remoteUuid).isSome = true := by
  have sought : ∀ direction, agent.block.direction = direction →
      n.findAgentBlkByUuid agent.block.remoteUuid direction ≠ none := by
    intro direction same absent
    have refused := findAgent_none absent found
    simp [same] at refused
  rw [Option.isSome_iff_ne_none, findAgentByUuidGlobal]
  intro absent
  simp only [Option.or_eq_none_iff] at absent
  rcases directed with inbound | outbound
  · exact sought _ inbound absent.2.1
  · exact sought _ outbound absent.1

theorem reader_some {fd : Nat} (found : n.reader fd = some (id, agent)) :
    n.table.get? id = some agent ∧ (agent.block.iFileDesc = some fd ∨ agent.block.iRpcFd = some fd) := by
  obtain ⟨present, accepted⟩ := findAgent_some found
  refine ⟨present, ?_⟩
  simp only [Bool.or_eq_true, Bool.and_eq_true, decide_eq_true_eq] at accepted
  exact accepted.imp_right And.right

theorem sendHbToAgents_cases (n : Node) (id : Nat) (sends : Bool) : n.sendHbToAgents id sends = (n, none) ∨
    ∃ agent, n.table.get? id = some agent ∧ agent.block.heartbeatMode = .remote ∧
      (n.sendHbToAgents id sends).2 = agent.block.iFileDesc ∧
      ((n.sendHbToAgents id sends).1 = n.unlink id ∨ (n.sendHbToAgents id sends).1 =
        n.put id { agent with block := { agent.block with lastHeartbeatTx := n.clock } }) := by
  unfold sendHbToAgents
  split
  · exact .inl rfl
  next agent found =>
    split
    · exact .inl rfl
    next remote =>
      refine .inr ⟨agent, found, not_not.mp remote, ?_⟩
      split
      · exact ⟨rfl, .inl rfl⟩
      · exact ⟨rfl, .inr rfl⟩

theorem announce_cases (n : Node) (id : Nat) : n.announce id = n ∨
    ∃ agent, n.table.get? id = some agent ∧ n.announce id = n.put id (n.reportPeerReady id agent "outbound-rpc-ready") := by
  unfold announce
  split
  · exact .inl rfl
  next agent found => exact .inr ⟨agent, found, rfl⟩

theorem accept_cases (n : Node) (fd : Nat) (addr : Addr) :
    ((∀ id agent, n.table.get? id = some agent → agent.block.isAlive = true → agent.block.addr ≠ addr) ∧
        n.accept fd addr = n.link { block := (Block.fresh addr n.clock).plugControl (some fd) }) ∨
      ∃ id agent, n.table.get? id = some agent ∧ agent.block.addr = addr ∧
        n.accept fd addr = n.put id { agent with block := agent.block.plugControl (some fd) } := by
  unfold accept
  split
  next absent =>
    refine .inl ⟨fun id agent found alive => ?_, rfl⟩
    have refused := findAgent_none absent found
    simpa [alive] using refused
  next id agent there =>
    obtain ⟨found, accepted⟩ := findAgent_some there
    simp only [Bool.and_eq_true, decide_eq_true_eq] at accepted
    exact .inr ⟨id, agent, found, accepted.2, rfl⟩

section Handlers

variable {inserts : Bool} {known : OfiBlock} {ses : Session} {ofiAddr sent : Option Nat}

theorem block_merged : (n.merged inserts id known agent ses ofiAddr).1.block =
    ((known.attached agent ses n.clock).block.greeted n.self.uuid n.clock id
      (if ses.rpcSetup then "inbound-rpc-ready" else "inbound-control-ready")).1 := by
  simp only [merged, listenerReportPeerReady, OfiBlock.block_maybeInsertOfiAddr]

theorem ofiAddr_merged : (n.merged inserts id known agent ses ofiAddr).1.ofiAddr =
    known.ofiAddr.or (if n.ofi.isSome && inserts then ofiAddr else none) :=
  OfiBlock.ofiAddr_maybeInsertOfiAddr ..

theorem ofiReady_merged : (n.merged inserts id known agent ses ofiAddr).1.ofiReady = known.ofiReady :=
  OfiBlock.ofiReady_maybeInsertOfiAddr ..

theorem block_identified : (n.identified inserts agent ses ofiAddr).block =
    if ses.rpcSetup then (agent.block.learn ses n.clock).becomeRpc else (agent.block.learn ses n.clock).becomeControl := by
  simp only [identified, OfiBlock.settled, OfiBlock.block_maybeInsertOfiAddr, OfiBlock.learned]

theorem ofiAddr_identified : (n.identified inserts agent ses ofiAddr).ofiAddr =
    agent.ofiAddr.or (if n.ofi.isSome && inserts then ofiAddr else none) :=
  OfiBlock.ofiAddr_maybeInsertOfiAddr ..

theorem ofiReady_identified : (n.identified inserts agent ses ofiAddr).ofiReady = agent.ofiReady :=
  OfiBlock.ofiReady_maybeInsertOfiAddr ..

theorem block_heard : (n.heard inserts agent ses ofiAddr).block = agent.block.heard ses n.clock :=
  OfiBlock.block_maybeInsertOfiAddr ..

theorem block_processMsgHb : (n.processMsgHb inserts id agent ses ofiAddr).1.block =
    if agent.block.remoteUuid.isNull then
      ((agent.block.heard ses n.clock).reportPeerReady n.self.uuid n.clock id "remote-identity-ready").1
    else agent.block.heard ses n.clock := by
  unfold processMsgHb
  split
  · rw [reportPeerReady, block_heard]
  · exact block_heard

theorem ofiAddr_processMsgHb : (n.processMsgHb inserts id agent ses ofiAddr).1.ofiAddr =
    agent.ofiAddr.or (if n.ofi.isSome && inserts then ofiAddr else none) := by
  have inserted := OfiBlock.ofiAddr_maybeInsertOfiAddr n.ofi.isSome inserts ofiAddr (agent.updated ses n.clock)
  unfold processMsgHb
  split <;> exact inserted

theorem ofiReady_processMsgHb : (n.processMsgHb inserts id agent ses ofiAddr).1.ofiReady =
    (agent.ofiReady || (n.processMsgHb inserts id agent ses ofiAddr).1.ofiAddr.isSome) := by
  have kept := OfiBlock.ofiReady_maybeInsertOfiAddr n.ofi.isSome inserts ofiAddr (agent.updated ses n.clock)
  unfold processMsgHb
  split <;> simp only [reportPeerReady, heard, OfiBlock.confirmed, kept] <;> rfl

/-- What a message can do to the process that reads it. -/
inductive Received (n : Node) (inserts : Bool) (id : Nat) (agent : OfiBlock) : Letter → Node → Option Nat → Prop
  | refused (letter : Letter) : Received n inserts id agent letter (n.unlink id) none
  | hb (ses : Session) (ofiAddr : Option Nat) : Received n inserts id agent (.hb ses ofiAddr)
      (n.put id (n.processMsgHb inserts id agent ses ofiAddr).1) (n.processMsgHb inserts id agent ses ofiAddr).2
  | merged (ses : Session) (ofiAddr : Option Nat) (existing : Nat) (known : OfiBlock) (different : id ≠ existing)
      (found : n.findAgentBlkByUuid ses.uuid .inbound = some (existing, known)) :
      Received n inserts id agent (.sessionInfo ses ofiAddr)
        ((n.put existing (n.merged inserts existing known agent ses ofiAddr).1).unlink id)
        (n.merged inserts existing known agent ses ofiAddr).2
  | identified (ses : Session) (ofiAddr : Option Nat) (absent : n.findAgentBlkByUuid ses.uuid .inbound = none) :
      Received n inserts id agent (.sessionInfo ses ofiAddr) (n.put id (n.identified inserts agent ses ofiAddr)) none

theorem received {letter : Letter} (run : n.receive inserts id agent letter = .ok (n', sent)) :
    Received n inserts id agent letter n' sent := by
  obtain ⟨⟨rc, after, line⟩, processed, returned⟩ := Except.bind_ok_iff.mp run
  simp only [pure, Except.pure, Except.ok.injEq, Prod.mk.injEq] at returned
  obtain ⟨rfl, rfl⟩ := returned
  unfold processAgentMessage at processed
  split at processed
  · cases processed
    exact .refused letter
  · cases letter with
    | hb ses ofiAddr =>
      cases processed
      exact .hb ses ofiAddr
    | sessionInfo ses ofiAddr =>
      simp only [dispatch, processMsgSessionInfo] at processed
      split at processed
      · cases processed
        exact .refused _
      · rw [findAgentByUuidPassive_eq] at processed
        split at processed
        next existing known found =>
          split at processed
          · cases processed
          next different =>
            cases processed
            exact .merged ses ofiAddr existing known different found
        next absent =>
          cases processed
          exact .identified ses ofiAddr absent

end Handlers

/-- The connection table as the rest of the development has it, of which a node keeps the blocks
and their order. -/
structure Mirrors (n : Node) (w : World) : Prop where
  uuid : w.uuid = n.self.uuid
  clock : w.clock = n.clock
  table : w.table = n.table.keys
  blocks : ∀ id agent, n.table.get? id = some agent → w.blocks id = some agent.block

namespace Mirrors

variable {w w' : World} {inserts : Bool} {known : OfiBlock} {ses : Session} {ofiAddr : Option Nat}

theorem put (mirrors : n.Mirrors w) (present : (n.table.get? id).isSome) (uuid : w'.uuid = w.uuid)
    (clock : w'.clock = w.clock) (table : w'.table = w.table) (edited : w'.blocks id = some agent.block)
    (others : ∀ other, other ≠ id → w'.blocks other = w.blocks other) : (n.put id agent).Mirrors w' where
  uuid := uuid.trans mirrors.uuid
  clock := clock.trans mirrors.clock
  table := (table.trans mirrors.table).trans (Dict.keys_set_of_mem _ (Dict.mem_keys_iff.mpr present)).symm
  blocks := by
    intro other block found
    rw [get?_put] at found
    split at found
    next same =>
      cases found
      rw [same, edited]
    next different =>
      rw [others other different]
      exact mirrors.blocks other block found

theorem findAgentByUuidPassive (mirrors : n.Mirrors w) (uuid : Uuid) :
    w.findAgentByUuidPassive uuid = (n.findAgentByUuidPassive uuid).map Prod.fst := by
  rw [World.findAgentByUuidPassive_eq, findAgentByUuidPassive_eq, World.findAgent, mirrors.table, Dict.keys,
    List.find?_map, findAgentBlkByUuid, findAgent]
  refine congrArg _ (List.find?_congr fun entry member => ?_)
  rw [Function.comp_apply, mirrors.blocks entry.1 entry.2 (Dict.get?_eq_some_iff.mpr member)]
  rfl

theorem processMsgHb (mirrors : n.Mirrors w) (found : n.table.get? id = some agent) {rc : DefwRc}
    (run : w.processMsgHb id ses = .ok (rc, w')) :
    rc = .ok ∧ (n.put id (n.processMsgHb inserts id agent ses ofiAddr).1).Mirrors w' := by
  obtain ⟨block, there, okay, rfl⟩ := World.processMsgHb_ok_iff.mp run
  obtain rfl := Option.some.inj ((mirrors.blocks id agent found).symm.trans there)
  refine ⟨okay, mirrors.put (by simp [found]) rfl rfl rfl ?_ fun other different => World.blocks_put_of_ne different⟩
  rw [World.blocks_put_self, block_processMsgHb, World.heardBy, mirrors.uuid, mirrors.clock]
  split <;> rfl

theorem identify (mirrors : n.Mirrors w) (found : n.table.get? id = some agent) (run : w.identify id ses = .ok w') :
    (n.put id (n.identified inserts agent ses ofiAddr)).Mirrors w' := by
  obtain ⟨block, there, rfl⟩ := World.identify_ok_iff.mp run
  obtain rfl := Option.some.inj ((mirrors.blocks id agent found).symm.trans there)
  split
  next rpc =>
    obtain ⟨_, _, _, same⟩ := World.listenerSuspendFd_eq (w.put id (agent.block.learn ses w.clock).becomeRpc) agent.block.iFileDesc
    rw [same]
    refine mirrors.put (by simp [found]) rfl rfl rfl ?_ fun other different => World.blocks_put_of_ne different
    rw [block_identified, if_pos rpc, ← mirrors.clock]
    exact World.blocks_put_self
  next control =>
    refine mirrors.put (by simp [found]) rfl rfl rfl ?_ fun other different => World.blocks_put_of_ne different
    rw [block_identified, if_neg control, ← mirrors.clock]
    exact World.blocks_put_self

theorem mergeSession (mirrors : n.Mirrors w) (found : n.table.get? id = some agent)
    (there : n.table.get? other = some known) (run : w.mergeSession id other ses = .ok w') :
    (n.put other (n.merged inserts other known agent ses ofiAddr).1).Mirrors w' := by
  obtain ⟨block, existing, first, second, rfl⟩ := World.mergeSession_ok_iff.mp run
  obtain rfl := Option.some.inj ((mirrors.blocks id agent found).symm.trans first)
  obtain rfl := Option.some.inj ((mirrors.blocks other known there).symm.trans second)
  obtain ⟨_, _, _, same⟩ := World.listenerResumeFd_eq w (World.resumed known.block ses)
  rw [same]
  refine mirrors.put (by simp [there]) rfl rfl rfl ?_ fun other different => World.blocks_put_of_ne different
  rw [World.blocks_put_self, block_merged, World.mergedWith, mirrors.uuid, mirrors.clock, OfiBlock.attached]
  split <;> rfl

end Mirrors

end Node

end DEFw.Agents
