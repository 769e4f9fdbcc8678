import DEFw.Agents.Effects

namespace DEFw.Agents
open Transport (Uuid)

namespace Block

variable (self : Uuid) (now id : Nat) (agent : Block) (reason : String)

/-- The block that `listener_report_peer_ready` leaves, with its notices. -/
def greeted : Block × List Notice :=
  if agent.readyToReport && !agent.readyReported then
    { agent with lastControlActivity := now }.reportPeerReady self now id reason
  else (agent, [])

/-- A report that a peer is ready changes how the block stands, not what it is. -/
theorem reportPeerReady_fst : ∃ readyReported lifecycle heartbeatMode connectReq,
    (agent.reportPeerReady self now id reason).1 =
      { agent with
        readyReported := readyReported
        lifecycle := lifecycle
        heartbeatMode := heartbeatMode
        connectReq := connectReq } := by
  by_cases due : agent.readyToReport = true ∧ agent.readyReported = false
  · rw [reportPeerReady_of_due due.1 due.2]
    exact ⟨_, _, _, _, rfl⟩
  · rw [reportPeerReady_of_silent (by simpa [or_iff_not_imp_left] using due)]
    exact ⟨_, _, _, _, rfl⟩

theorem greeted_fst : ∃ readyReported lifecycle heartbeatMode connectReq lastControlActivity,
    (agent.greeted self now id reason).1 =
      { agent with
        readyReported := readyReported
        lifecycle := lifecycle
        heartbeatMode := heartbeatMode
        connectReq := connectReq
        lastControlActivity := lastControlActivity } := by
  unfold greeted
  split
  · obtain ⟨_, _, _, _, same⟩ := reportPeerReady_fst self now id { agent with lastControlActivity := now } reason
    rw [same]
    exact ⟨_, _, _, _, _, rfl⟩
  · exact ⟨_, _, _, _, _, rfl⟩

/-- The same connection, with the same references to the block. -/
structure Alike (agent after : Block) : Prop where
  addr : after.addr = agent.addr := by rfl
  iFileDesc : after.iFileDesc = agent.iFileDesc := by rfl
  iRpcFd : after.iRpcFd = agent.iRpcFd := by rfl
  refCount : after.refCount = agent.refCount := by rfl
  isDead : after.isDead = agent.isDead := by rfl
  isAlive : after.isAlive = agent.isAlive := by rfl
  isNew : after.isNew = agent.isNew := by rfl
  cntrlConnected : after.cntrlConnected = agent.cntrlConnected := by rfl
  rpcConnected : after.rpcConnected = agent.rpcConnected := by rfl

theorem alike_reportPeerReady : agent.Alike (agent.reportPeerReady self now id reason).1 := by
  obtain ⟨_, _, _, _, same⟩ := reportPeerReady_fst self now id agent reason
  rw [same]
  exact {}

theorem alike_greeted : agent.Alike (agent.greeted self now id reason).1 := by
  obtain ⟨_, _, _, _, _, same⟩ := greeted_fst self now id agent reason
  rw [same]
  exact {}

end Block

namespace World

variable {w w' : World} {id existing : Nat}

theorem put_same {agent : Block} (found : w.blocks id = some agent) : w.put id agent = w := by
  have same : (fun other => if other = id then some agent else w.blocks other) = w.blocks := by
    funext other
    split
    · next equal => rw [equal, found]
    · rfl
  rw [put, same]

theorem notify_nil : w.notify [] = w := by
  rw [notify, List.append_nil]

theorem uuid_put {agent : Block} : (w.put id agent).uuid = w.uuid := rfl

theorem clock_put {agent : Block} : (w.put id agent).clock = w.clock := rfl

/-- Suspending a descriptor changes what `select` watches and nothing else. -/
theorem listenerSuspendFd_eq (w : World) (slot : Option Nat) : ∃ allSet suspended maxSelectFd,
    w.listenerSuspendFd slot =
      { w with allSet := allSet, suspended := suspended, maxSelectFd := maxSelectFd } := by
  cases slot <;> exact ⟨_, _, _, rfl⟩

theorem listenerResumeFd_eq (w : World) (slot : Option Nat) : ∃ allSet suspended maxSelectFd,
    w.listenerResumeFd slot =
      { w with allSet := allSet, suspended := suspended, maxSelectFd := maxSelectFd } := by
  cases slot <;> exact ⟨_, _, _, rfl⟩

theorem listenerResumeFd_put {agent : Block} (slot : Option Nat) :
    (w.put id agent).listenerResumeFd slot = (w.listenerResumeFd slot).put id agent := by
  cases slot <;> rfl

theorem uuid_listenerResumeFd (slot : Option Nat) : (w.listenerResumeFd slot).uuid = w.uuid := by
  cases slot <;> rfl

theorem clock_listenerResumeFd (slot : Option Nat) : (w.listenerResumeFd slot).clock = w.clock := by
  cases slot <;> rfl

theorem reportPeerReady_ok_iff {reason : String} : w.reportPeerReady id reason = .ok w' ↔
    ∃ agent, w.blocks id = some agent ∧ (w.notify (agent.reportPeerReady w.uuid w.clock id reason).2).put id
      (agent.reportPeerReady w.uuid w.clock id reason).1 = w' := by
  simp only [reportPeerReady, Except.bind_ok_iff, deref_ok_iff, pure, Except.pure, Except.ok.injEq]

theorem listenerReportPeerReady_ok_iff {reason : String} : w.listenerReportPeerReady id reason = .ok w' ↔
    ∃ agent, w.blocks id = some agent ∧
      (w.notify (agent.greeted w.uuid w.clock id reason).2).put id (agent.greeted w.uuid w.clock id reason).1 = w' := by
  simp only [listenerReportPeerReady, Except.bind_ok_iff, deref_ok_iff]
  refine exists_congr fun agent => and_congr_right fun found => ?_
  unfold Block.greeted
  split
  · simp only [reportPeerReady_ok_iff, blocks_put_self, Option.some.injEq, exists_eq_left', notify_put, put_put]
    rfl
  · simp only [pure, Except.pure, Except.ok.injEq, notify_nil, put_same found]

/-- The block that session information is merged with, and its notices. -/
def mergedWith (w : World) (existing : Nat) (known agent : Block) (ses : Session) : Block × List Notice :=
  if ses.rpcSetup then (known.attachRpc agent).greeted w.uuid w.clock existing "inbound-rpc-ready"
  else (known.attachControl agent w.clock).greeted w.uuid w.clock existing "inbound-control-ready"

/-- What session information moves to a block. -/
def attached (w : World) (known agent : Block) (ses : Session) : Block :=
  if ses.rpcSetup then known.attachRpc agent else known.attachControl agent w.clock

theorem alike_mergedWith (w : World) (existing : Nat) (known agent : Block) (ses : Session) :
    (w.attached known agent ses).Alike (w.mergedWith existing known agent ses).1 := by
  unfold mergedWith attached
  split
  · exact Block.alike_greeted ..
  · exact Block.alike_greeted ..

/-- The descriptor that a merge resumes. -/
def resumed (known : Block) (ses : Session) : Option Nat := if ses.rpcSetup then none else known.iRpcFd

theorem mergeSession_ok_iff {ses : Session} : w.mergeSession id existing ses = .ok w' ↔
    ∃ agent known, w.blocks id = some agent ∧ w.blocks existing = some known ∧
      ((w.listenerResumeFd (resumed known ses)).notify (w.mergedWith existing known agent ses).2).put existing
        (w.mergedWith existing known agent ses).1 = w' := by
  simp only [mergeSession, Except.bind_ok_iff, deref_ok_iff]
  refine exists_congr fun agent => ?_
  unfold mergedWith resumed
  split
  · simp only [Except.bind_ok_iff, edit_ok_iff, listenerReportPeerReady_ok_iff]
    constructor
    · rintro ⟨found, _, ⟨known, there, rfl⟩, other, same, rfl⟩
      rw [blocks_put_self] at same
      cases same
      refine ⟨known, found, there, ?_⟩
      rw [notify_put, put_put]
      rfl
    · rintro ⟨known, found, there, rfl⟩
      refine ⟨found, _, ⟨known, there, rfl⟩, _, blocks_put_self, ?_⟩
      rw [notify_put, put_put]
      rfl
  · simp only [Except.bind_ok_iff, edit_ok_iff, deref_ok_iff, listenerReportPeerReady_ok_iff]
    constructor
    · rintro ⟨found, _, ⟨known, there, rfl⟩, attached, same, other, again, rfl⟩
      rw [blocks_put_self] at same
      cases same
      rw [listenerResumeFd_put, blocks_put_self] at again
      cases again
      refine ⟨known, found, there, ?_⟩
      rw [listenerResumeFd_put, notify_put, put_put, uuid_put, clock_put, uuid_listenerResumeFd, clock_listenerResumeFd]
      rfl
    · rintro ⟨known, found, there, rfl⟩
      refine ⟨found, _, ⟨known, there, rfl⟩, _, blocks_put_self, known.attachControl agent w.clock, ?_, ?_⟩
      · rw [listenerResumeFd_put]
        exact blocks_put_self
      · rw [listenerResumeFd_put, notify_put, put_put, uuid_put, clock_put, uuid_listenerResumeFd, clock_listenerResumeFd]
        rfl

theorem identify_ok_iff {ses : Session} : w.identify id ses = .ok w' ↔
    ∃ agent, w.blocks id = some agent ∧
      (if ses.rpcSetup then (w.put id (agent.learn ses w.clock).becomeRpc).listenerSuspendFd agent.iFileDesc
        else w.put id (agent.learn ses w.clock).becomeControl) = w' := by
  simp only [identify, Except.bind_ok_iff, deref_ok_iff]
  refine exists_congr fun agent => and_congr_right fun _ => ?_
  split
  · simp only [pure, Except.pure, Except.ok.injEq]
    rfl
  · simp only [pure, Except.pure, Except.ok.injEq]

/-- The block after a heartbeat, and its notices. -/
def heardBy (w : World) (id : Nat) (agent : Block) (hb : Session) : Block × List Notice :=
  if agent.remoteUuid.isNull then
    (agent.heard hb w.clock).reportPeerReady w.uuid w.clock id "remote-identity-ready"
  else (agent.heard hb w.clock, [])

theorem alike_heardBy (w : World) (id : Nat) (agent : Block) (hb : Session) : agent.Alike (w.heardBy id agent hb).1 := by
  unfold heardBy
  split
  · obtain ⟨_, _, _, _, same⟩ :=
      Block.reportPeerReady_fst w.uuid w.clock id (agent.heard hb w.clock) "remote-identity-ready"
    rw [same]
    exact {}
  · exact {}

theorem processMsgHb_ok_iff {hb : Session} {rc : DefwRc} : w.processMsgHb id hb = .ok (rc, w') ↔
    ∃ agent, w.blocks id = some agent ∧ rc = .ok ∧ (w.notify (w.heardBy id agent hb).2).put id (w.heardBy id agent hb).1 = w' := by
  simp only [processMsgHb, Except.bind_ok_iff, deref_ok_iff]
  refine exists_congr fun agent => and_congr_right fun _ => ?_
  unfold heardBy
  split
  · simp only [Except.bind_ok_iff, reportPeerReady_ok_iff, blocks_put_self, Option.some.injEq, exists_eq_left',
      notify_put, put_put, pure, Except.pure, Except.ok.injEq, Prod.mk.injEq]
    rw [eq_comm]
    rfl
  · simp only [pure, Except.pure, Except.ok.injEq, Prod.mk.injEq, notify_nil, eq_comm]

theorem processRpc_ok_iff {message : Message} {rc : DefwRc} : w.processRpc id message = .ok (rc, w') ↔
    ∃ agent, w.blocks id = some agent ∧ rc = (if message.handlerRc = .keepData then .ok else message.handlerRc) ∧
      (w.notify [.handed id ⟨message.header.type, message.header.sender, message.body⟩ agent]).put id
        (if message.header.type = .rmaAck then agent else { agent with workInProgress := false }) = w' := by
  simp only [processRpc, Except.bind_ok_iff, deref_ok_iff]
  refine exists_congr fun agent => and_congr_right fun found => ?_
  simp only [pure, Except.pure, Except.ok.injEq, Prod.mk.injEq]
  by_cases ack : message.header.type = .rmaAck
  · rw [if_pos ack, if_pos ack, put_same (w := w.notify _) found, eq_comm]
  · rw [if_neg ack, if_neg ack, eq_comm]

theorem adopt_ok_iff {fd : Nat} : w.adopt id fd = .ok w' ↔
    ∃ agent, w.blocks id = some agent ∧
      { w.put id (agent.plugControl (some fd)) with
        allSet := insert fd w.allSet
        maxSelectFd := (w.put id (agent.plugControl (some fd))).getHighestFd } = w' := by
  simp only [adopt, Except.bind_ok_iff, edit_ok_iff, pure, Except.pure, Except.ok.injEq]
  constructor
  · rintro ⟨_, ⟨agent, found, rfl⟩, rfl⟩
    exact ⟨agent, found, rfl⟩
  · rintro ⟨agent, found, rfl⟩
    exact ⟨_, ⟨agent, found, rfl⟩, rfl⟩

end World

end DEFw.Agents
