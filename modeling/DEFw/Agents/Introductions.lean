import DEFw.Agents.Newcomers

namespace DEFw.Agents
open Transport (Uuid)

/-- A connection that a remote process opens: the descriptor `accept` returns for
it, the address it comes from and the first message on it. -/
structure Link where
  fd : Nat
  addr : Addr
  hello : Incoming
  deriving DecidableEq

/-- A remote process with the two connections it opens. -/
structure Peer where
  uuid : Uuid
  control : Link
  rpc : Link
  deriving DecidableEq

def Peer.link (peer : Peer) : Channel → Link
  | .control => peer.control
  | .rpc => peer.rpc

def Channel.other : Channel → Channel
  | control => rpc
  | rpc => control

/-- What the listener does: it accepts a connection, or processes the first message
on it. -/
inductive Arrival
  | accept (peer : Peer) (channel : Channel)
  | session (peer : Peer) (channel : Channel)
  deriving DecidableEq

def Arrival.peer : Arrival → Peer
  | accept peer _ => peer
  | session peer _ => peer

/-- The message is valid session information of the process for that channel. -/
def Link.Introduces (link : Link) (uuid : Uuid) (channel : Channel) : Prop :=
  ∃ message, link.hello.admitted (Uuid.filled 0) = .ok message ∧ message.header.type = .sessionInfo ∧
    (Session.read message.body).isValid = true ∧ (Session.read message.body).uuid = uuid ∧
    (Session.read message.body).channel = channel

namespace World

/-- The new block from whose descriptor `process_new_agents_helper` reads. -/
def readable (w : World) (fd : Nat) : Option Nat :=
  w.findAgent (fun _ agent => agent.isNew && decide (agent.iFileDesc = some fd))

def arrive (w : World) : Arrival → Except Fault World
  | .accept peer channel => w.accept (peer.link channel).fd (peer.link channel).addr
  | .session peer channel =>
    match w.readable (peer.link channel).fd with
    | none => .ok w
    | some id => w.visiting id (fun w => w.processNewAgentsHelper id (some (peer.link channel).hello) false)

def arriving : Faulting World Arrival Fault := ⟨arrive⟩

/-- Processes with distinct uuids that are not connected inbound, and whose
connections have descriptors and addresses of their own. -/
structure Meets (w : World) (peers : List Peer) : Prop where
  uuids : ∀ peer ∈ peers, ∀ other ∈ peers, peer.uuid = other.uuid → peer = other
  known : ∀ peer ∈ peers, peer.uuid.isNull = false
  unmet : ∀ peer ∈ peers, ∀ id ∈ w.table, ¬w.Inbound peer.uuid id
  fds : ∀ peer ∈ peers, ∀ other ∈ peers, ∀ channel second,
    (peer.link channel).fd = (other.link second).fd → peer = other ∧ channel = second
  addrs : ∀ peer ∈ peers, ∀ other ∈ peers, ∀ channel second,
    (peer.link channel).addr = (other.link second).addr → peer = other ∧ channel = second
  unused : ∀ peer ∈ peers, ∀ channel, (peer.link channel).fd ∉ w.suspended ∧
    ∀ id ∈ w.table, ∀ agent, w.blocks id = some agent → (peer.link channel).fd ∉ agent.fds
  elsewhere : ∀ peer ∈ peers, ∀ channel, ∀ id ∈ w.table, ∀ agent, w.blocks id = some agent →
    agent.addr ≠ (peer.link channel).addr
  introduces : ∀ peer ∈ peers, ∀ channel, (peer.link channel).Introduces peer.uuid channel

end World

/-- Every connection of the processes is accepted once, and its message processed
once, after that. -/
structure Order (peers : List Peer) (events : List Arrival) : Prop where
  once : events.Nodup
  all : ∀ event, event ∈ events ↔ event.peer ∈ peers
  causal : ∀ peer ∈ peers, ∀ channel, [.accept peer channel, .session peer channel].Sublist events

/-- What a block is there for: a connection whose message is not processed, a process
of which one half has introduced itself, and one with both. -/
inductive Role
  | waiting (peer : Peer) (channel : Channel)
  | half (peer : Peer) (channel : Channel)
  | complete (peer : Peer)
  deriving DecidableEq

/-- The fields of a block that say how far it is. -/
structure Standing where
  addr : Addr
  remoteUuid : Uuid := Uuid.filled 0
  iFileDesc : Option Nat := none
  iRpcFd : Option Nat := none
  refCount : Nat := 1
  isDead : Bool := false
  isNew : Bool := true
  isAlive : Bool := false
  cntrlConnected : Bool := false
  rpcConnected : Bool := false
  workInProgress : Bool := false
  readyReported : Bool := false
  direction : Direction := .inbound

def Block.standing (agent : Block) : Standing where
  addr := agent.addr
  remoteUuid := agent.remoteUuid
  iFileDesc := agent.iFileDesc
  iRpcFd := agent.iRpcFd
  refCount := agent.refCount
  isDead := agent.isDead
  isNew := agent.isNew
  isAlive := agent.isAlive
  cntrlConnected := agent.cntrlConnected
  rpcConnected := agent.rpcConnected
  workInProgress := agent.workInProgress
  readyReported := agent.readyReported
  direction := agent.direction

namespace Role

/-- The roles that the blocks have after some of the arrivals. -/
def Due (before : List Arrival) : Role → Prop
  | waiting peer channel => .accept peer channel ∈ before ∧ .session peer channel ∉ before
  | half peer channel => .session peer channel ∈ before ∧ .session peer channel.other ∉ before
  | complete peer => .session peer .control ∈ before ∧ .session peer .rpc ∈ before

def standing : Role → Standing
  | waiting peer channel => { addr := (peer.link channel).addr, iFileDesc := some (peer.link channel).fd }
  | half peer .control =>
    { addr := peer.control.addr
      remoteUuid := peer.uuid
      iFileDesc := some peer.control.fd
      isNew := false
      isAlive := true
      cntrlConnected := true }
  | half peer .rpc =>
    { addr := peer.rpc.addr
      remoteUuid := peer.uuid
      iRpcFd := some peer.rpc.fd
      rpcConnected := true }
  | complete peer =>
    { addr := peer.control.addr
      remoteUuid := peer.uuid
      iFileDesc := some peer.control.fd
      iRpcFd := some peer.rpc.fd
      isNew := false
      isAlive := true
      cntrlConnected := true
      rpcConnected := true
      readyReported := true }

/-- The descriptors on which `select` waits for a block. -/
def watched : Role → List Nat
  | waiting peer channel => [(peer.link channel).fd]
  | half peer .control => [peer.control.fd]
  | half _ .rpc => []
  | complete peer => [peer.control.fd, peer.rpc.fd]

def peer : Role → Peer
  | waiting peer _ => peer
  | half peer _ => peer
  | complete peer => peer

end Role

/-- The notice that the process with a uuid is ready. -/
def Notice.announces (uuid : Uuid) : Notice → Bool
  | peerEvent event _ => event.eventType = .ready && decide (event.remoteRuntimeId = some uuid)
  | _ => false

/-- The two halves of a process have introduced themselves. -/
def Peer.Introduced (peer : Peer) (before : List Arrival) : Prop :=
  .session peer .control ∈ before ∧ .session peer .rpc ∈ before

instance (peer : Peer) (before : List Arrival) : Decidable (peer.Introduced before) :=
  inferInstanceAs (Decidable (_ ∧ _))

namespace Block

variable {agent known : Block} {peer : Peer} {channel : Channel} {ses : Session}

theorem standing_fresh (peer : Peer) (channel : Channel) (now : Nat) :
    ((fresh (peer.link channel).addr now).plugControl (some (peer.link channel).fd)).standing =
      (Role.waiting peer channel).standing := rfl

/-- A waiting block that is the first of its process to introduce itself. -/
theorem standing_control (standing : agent.standing = (Role.waiting peer .control).standing)
    (uuid : ses.uuid = peer.uuid) (now : Nat) : (agent.learn ses now).becomeControl.standing = (Role.half peer .control).standing := by
  simp only [Block.standing, Role.standing, Standing.mk.injEq] at standing ⊢
  simp_all [learn, becomeControl, Peer.link]

theorem standing_rpc (standing : agent.standing = (Role.waiting peer .rpc).standing) (uuid : ses.uuid = peer.uuid)
    (now : Nat) : (agent.learn ses now).becomeRpc.standing = (Role.half peer .rpc).standing := by
  simp only [Block.standing, Role.standing, Standing.mk.injEq] at standing ⊢
  simp_all [learn, becomeRpc, Peer.link]

theorem standing_released (agent : Block) :
    agent.released.standing = { agent.standing with refCount := agent.standing.refCount - 1 } := rfl

/-- A report that is due. -/
theorem greeted_of_due (self : Uuid) (now id : Nat) (reason : String) (due : agent.readyToReport = true)
    (unreported : agent.readyReported = false) :
    (agent.greeted self now id reason).1.standing = { agent.standing with readyReported := true } ∧
      ∀ uuid, (agent.greeted self now id reason).2.countP (Notice.announces uuid) =
        if agent.remoteUuid = uuid then 1 else 0 := by
  have greeted : agent.greeted self now id reason =
      { agent with lastControlActivity := now }.reportPeerReady self now id reason := by
    simp [Block.greeted, due, unreported]
  have ready : { agent with lastControlActivity := now }.readyToReport = true := due
  have named : agent.remoteUuid.isNull = false := by
    simp only [readyToReport, Bool.and_eq_true] at due
    simpa using due.1.1
  rw [greeted, reportPeerReady_of_due ready unreported]
  refine ⟨rfl, fun uuid => ?_⟩
  have answers : (agent.connectReq.toList.map fun req => Notice.connectStatus req .ok).countP
      (Notice.announces uuid) = 0 := by
    rw [List.countP_eq_zero]
    intro notice member
    obtain ⟨req, _, rfl⟩ := List.mem_map.mp member
    simp [Notice.announces]
  rw [List.countP_cons]
  change _ + _ = _
  rw [answers]
  simp [Notice.announces, fillPeerEvent, named]

/-- The second half of a process arrives at the block of the first. -/
theorem mergedWith_complete (w : World) (existing : Nat)
    (first : known.standing = (Role.half peer channel.other).standing)
    (second : agent.standing = (Role.waiting peer channel).standing) (isChannel : ses.channel = channel)
    (named : peer.uuid.isNull = false) :
    (w.mergedWith existing known.acquired agent ses).1.released.standing = (Role.complete peer).standing ∧
      ∀ uuid, (w.mergedWith existing known.acquired agent ses).2.countP (Notice.announces uuid) =
        if peer.uuid = uuid then 1 else 0 := by
  have greeted {merged : Block} {self : Uuid} {now : Nat} {reason : String} (due : merged.readyToReport = true)
      (unreported : merged.readyReported = false) (uuid : merged.remoteUuid = peer.uuid)
      (standing : { merged.standing with refCount := merged.refCount - 1, readyReported := true } =
        (Role.complete peer).standing) :
      (merged.greeted self now existing reason).1.released.standing = (Role.complete peer).standing ∧
        ∀ uuid, (merged.greeted self now existing reason).2.countP (Notice.announces uuid) =
          if peer.uuid = uuid then 1 else 0 := by
    obtain ⟨after, said⟩ := greeted_of_due self now existing reason due unreported
    refine ⟨?_, fun other => uuid ▸ said other⟩
    rw [standing_released, after]
    exact standing
  unfold World.mergedWith
  unfold Session.channel at isChannel
  simp only [Block.standing, Role.standing, Peer.link, Standing.mk.injEq] at second
  cases channel with
  | control =>
    have setup : ¬ses.rpcSetup = true := fun flag => by simp [flag] at isChannel
    simp only [Block.standing, Role.standing, Channel.other, Standing.mk.injEq] at first
    rw [if_neg setup]
    refine greeted ?_ ?_ ?_ ?_
    all_goals simp [readyToReport, attachControl, acquired, Block.standing, Role.standing, first, second, named]
  | rpc =>
    have setup : ses.rpcSetup = true := by
      by_contra flag
      simp [flag] at isChannel
    simp only [Block.standing, Role.standing, Channel.other, Standing.mk.injEq] at first
    rw [if_pos setup]
    refine greeted ?_ ?_ ?_ ?_
    all_goals simp [readyToReport, attachRpc, acquired, Block.standing, Role.standing, first, second, named]

end Block

namespace World

variable {w : World} {id existing : Nat} {agent known : Block} {hello : Incoming} {message : Message}

/-- The first message on a new connection is processed with the block as it was. -/
theorem hear (found : w.blocks id = some agent) (isNew : agent.isNew = true) (held : 0 < agent.refCount)
    (admission : hello.admitted agent.remoteUuid = .ok message) (isSession : message.header.type = .sessionInfo) :
    w.visiting id (fun w => w.processNewAgentsHelper id (some hello) false) = (do
      let (rc, w) ← w.processMsgSessionInfo id (Session.read message.body)
      if rc = .ok then return w else w.leave id true (some "new-agent-message-failure")) := by
  have acquired : w.acquireAgentBlk id = .ok (w.put id agent.acquired) := edit_ok_iff.mpr ⟨agent, found, rfl⟩
  have released : (w.put id agent.acquired).releaseAgentConn id = .ok w := by
    refine releaseAgentConn_ok_iff.mpr ⟨agent.acquired, blocks_put_self, isNew, .inl ⟨Nat.succ_le_succ held, ?_⟩⟩
    rw [put_put]
    exact put_same found
  have processed : w.processAgentMessage id hello = w.processMsgSessionInfo id (Session.read message.body) := by
    simp only [processAgentMessage, deref_ok_iff.mpr found, bind, Except.bind, admission, dispatch, isSession]
  simp only [visiting, acquired, processNewAgentsHelper, released, processed, bind, Except.bind]

/-- It is the first of its process. -/
theorem hear_first (found : w.blocks id = some agent) (isNew : agent.isNew = true) (held : 0 < agent.refCount)
    (admission : hello.admitted agent.remoteUuid = .ok message) (isSession : message.header.type = .sessionInfo)
    (valid : (Session.read message.body).isValid = true)
    (unknown : w.findAgentByUuidPassive (Session.read message.body).uuid = none) :
    w.visiting id (fun w => w.processNewAgentsHelper id (some hello) false) =
      .ok (w.identified id agent (Session.read message.body)) := by
  have identify : w.identify id (Session.read message.body) = .ok (w.identified id agent (Session.read message.body)) :=
    identify_ok_iff.mpr ⟨agent, found, rfl⟩
  rw [hear found isNew held admission isSession]
  simp [processMsgSessionInfo, valid, unknown, identify, bind, Except.bind, pure, Except.pure]

/-- What is left of a waiting block that introduced itself first, and on which
descriptors `select` waits then. -/
theorem identified_half (w : World) (id : Nat) {peer : Peer} {channel : Channel} {ses : Session}
    (standing : agent.standing = (Role.waiting peer channel).standing) (uuid : ses.uuid = peer.uuid)
    (line : ses.channel = channel) :
    ∃ after : Block, after.standing = (Role.half peer channel).standing ∧
      (w.identified id agent ses).blocks = (w.put id after).blocks ∧ (w.identified id agent ses).table = w.table ∧
      (w.identified id agent ses).nextBlock = w.nextBlock ∧ (w.identified id agent ses).notices = w.notices ∧
      ∀ fd, (fd ∈ (w.identified id agent ses).allSet ↔ fd ∈ w.allSet ∧ ¬(channel = .rpc ∧ fd = peer.rpc.fd)) ∧
        (fd ∈ (w.identified id agent ses).suspended ↔ fd ∈ w.suspended ∨ channel = .rpc ∧ fd = peer.rpc.fd) := by
  have slot : agent.iFileDesc = some (peer.link channel).fd := congrArg Standing.iFileDesc standing
  unfold Session.channel at line
  rcases w.identified_cases id agent ses with ⟨setup, result⟩ | ⟨setup, result⟩
  · rw [setup] at line
    subst line
    rw [result, slot]
    refine ⟨_, Block.standing_rpc standing uuid w.clock, rfl, rfl, rfl, rfl, fun fd => ?_⟩
    simp only [listenerSuspendFd, put, Finset.mem_erase, Finset.mem_insert, Peer.link, if_true, true_and]
    exact ⟨and_comm, or_comm⟩
  · rw [setup] at line
    subst line
    rw [result]
    refine ⟨_, Block.standing_control standing uuid w.clock, rfl, rfl, rfl, rfl, fun fd => ?_⟩
    simp [put]

/-- A new connection is merged with the block of its process, and its own block goes. -/
def joined (w : World) (id existing : Nat) (known agent : Block) (ses : Session) : World :=
  ((((w.listenerResumeFd (resumed known ses)).notify (w.mergedWith existing known.acquired agent ses).2).put existing
    (w.mergedWith existing known.acquired agent ses).1.released).unlink id).freeAgentBlk id

/-- What is left then, and on which descriptors `select` waits. -/
theorem joined_complete (w : World) {id existing : Nat} (apart : id ≠ existing) {peer : Peer} {channel : Channel}
    {ses : Session} (first : known.standing = (Role.half peer channel.other).standing)
    (second : agent.standing = (Role.waiting peer channel).standing) (line : ses.channel = channel)
    (named : peer.uuid.isNull = false) :
    ∃ after : Block, ∃ said, after.standing = (Role.complete peer).standing ∧
      (w.joined id existing known agent ses).blocks existing = some after ∧
      (∀ other, other ≠ id → other ≠ existing → (w.joined id existing known agent ses).blocks other = w.blocks other) ∧
      (w.joined id existing known agent ses).table = w.table.erase id ∧
      (w.joined id existing known agent ses).nextBlock = w.nextBlock ∧
      (w.joined id existing known agent ses).notices = w.notices ++ said ∧
      (∀ uuid, said.countP (Notice.announces uuid) = if peer.uuid = uuid then 1 else 0) ∧
      ∀ fd, (fd ∈ (w.joined id existing known agent ses).allSet ↔
          fd ∈ w.allSet ∨ channel = .control ∧ fd = peer.rpc.fd) ∧
        (fd ∈ (w.joined id existing known agent ses).suspended ↔
          fd ∈ w.suspended ∧ ¬(channel = .control ∧ fd = peer.rpc.fd)) := by
  obtain ⟨standing, count⟩ := Block.mergedWith_complete w existing first second line named
  obtain ⟨_, _, _, resumed_eq⟩ := w.listenerResumeFd_eq (resumed known ses)
  have blocks (other : Nat) : (w.joined id existing known agent ses).blocks other =
      if other = id then none else if other = existing then
        some (w.mergedWith existing known.acquired agent ses).1.released else w.blocks other := by
    rw [joined, resumed_eq]
    rfl
  refine ⟨_, (w.mergedWith existing known.acquired agent ses).2 ++ [.freed id], standing, ?_,
    fun other different distinct => ?_, ?_, ?_, ?_, fun uuid => ?_, fun fd => ?_⟩
  · rw [blocks, if_neg apart.symm, if_pos rfl]
  · rw [blocks, if_neg different, if_neg distinct]
  · rw [joined, resumed_eq]
    rfl
  · rw [joined, resumed_eq]
    rfl
  · rw [joined, resumed_eq]
    exact List.append_assoc _ _ _
  · rw [List.countP_append, count]
    rfl
  · have watch : (w.joined id existing known agent ses).allSet = (w.listenerResumeFd (resumed known ses)).allSet ∧
        (w.joined id existing known agent ses).suspended = (w.listenerResumeFd (resumed known ses)).suspended := by
      simp only [joined, freeAgentBlk, unlink, put, notify, and_self]
    rw [watch.1, watch.2]
    unfold Session.channel at line
    cases channel with
    | control =>
      have slot : known.iRpcFd = some peer.rpc.fd := congrArg Standing.iRpcFd first
      have setup : ¬ses.rpcSetup = true := fun flag => by simp [flag] at line
      rw [resumed, if_neg setup, slot]
      simp only [listenerResumeFd, Finset.mem_insert, Finset.mem_erase, true_and]
      exact ⟨or_comm, and_comm⟩
    | rpc =>
      have setup : ses.rpcSetup = true := by
        by_contra flag
        simp [flag] at line
      rw [resumed, if_pos setup]
      simp [listenerResumeFd]

theorem releaseAgentBlk_of_new (found : w.blocks id = some agent) (one : agent.refCount = 1)
    (alive : agent.isDead = false) (isNew : agent.isNew = true) (idle : agent.workInProgress = false) :
    w.releaseAgentBlk id false = .ok ((w.unlink id).freeAgentBlk id) := by
  have last : agent.released.refCount = 0 := by
    change agent.refCount - 1 = 0
    omega
  have same : agent.released.isDead = false ∧ agent.released.workInProgress = false ∧ agent.released.isNew = true :=
    ⟨alive, idle, isNew⟩
  simp [releaseAgentBlk, deref_ok_iff.mpr found, bind, Except.bind, one, last, same, retire]

/-- The block of its process is there. -/
theorem hear_second (found : w.blocks id = some agent) (one : agent.refCount = 1) (alive : agent.isDead = false)
    (isNew : agent.isNew = true) (idle : agent.workInProgress = false)
    (admission : hello.admitted agent.remoteUuid = .ok message) (isSession : message.header.type = .sessionInfo)
    (valid : (Session.read message.body).isValid = true)
    (matching : w.findAgentByUuidPassive (Session.read message.body).uuid = some existing)
    (there : w.blocks existing = some known) (held : 0 < known.refCount) (apart : id ≠ existing) :
    w.visiting id (fun w => w.processNewAgentsHelper id (some hello) false) =
      .ok (w.joined id existing known agent (Session.read message.body)) := by
  have acquired : w.acquireAgentBlk existing = .ok (w.put existing known.acquired) :=
    edit_ok_iff.mpr ⟨known, there, rfl⟩
  have aside {w : World} (block : Block) (before : w.blocks id = some agent) :
      (w.put existing block).blocks id = some agent :=
    (blocks_put_of_ne apart).trans before
  have merge : (w.put existing known.acquired).mergeSession id existing (Session.read message.body) =
      .ok (((w.listenerResumeFd (resumed known (Session.read message.body))).notify
        (w.mergedWith existing known.acquired agent (Session.read message.body)).2).put existing
        (w.mergedWith existing known.acquired agent (Session.read message.body)).1) := by
    refine mergeSession_ok_iff.mpr ⟨agent, known.acquired, aside _ found, blocks_put_self, ?_⟩
    rw [listenerResumeFd_put, notify_put, put_put]
    rfl
  have shared : 2 ≤ (w.mergedWith existing known.acquired agent (Session.read message.body)).1.refCount := by
    have same : (w.attached known.acquired agent (Session.read message.body)).refCount = known.refCount + 1 := by
      unfold attached
      split <;> rfl
    rw [(w.alike_mergedWith existing known.acquired agent (Session.read message.body)).refCount, same]
    omega
  rw [hear found isNew (by omega) admission isSession]
  simp only [processMsgSessionInfo, valid, Bool.not_true, Bool.false_eq_true, if_false, matching, acquired, merge, bind,
    Except.bind, releaseAgentBlk_of_shared blocks_put_self shared, if_neg apart, put_put]
  rw [releaseAgentBlk_of_new (aside _ ?_) one alive isNew idle]
  · simp [pure, Except.pure, joined]
  · obtain ⟨_, _, _, same⟩ := w.listenerResumeFd_eq (resumed known (Session.read message.body))
    rw [same]
    exact found

end World

end DEFw.Agents
