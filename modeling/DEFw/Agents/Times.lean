import DEFw.Agents.Holders

namespace DEFw.Agents
open Transport (Uuid)

/-- The listener serves no connection: other threads act, or it is about to
release the block of a pass. -/
def Action.aside : Action → Bool
  | tick _ | connect _ | publish _ | send _ _ | look _ | advance _ _ | proceed => true
  | _ => false

namespace Block

/-- At the time `t` no handshake is over its deadline, and a heartbeat came in the
last `HB_TO * 100` seconds. -/
structure Heard (t : Int) (agent : Block) : Prop where
  handshake : agent.isNew = true → t < agent.handshakeDeadline
  received : agent.heartbeatMode = .remote → t < agent.lastHeartbeatRx + hbTo * 100

/-- A heartbeat went out in the last `2 * HB_TO` seconds. -/
def Told (t : Int) (agent : Block) : Prop :=
  agent.heartbeatMode = .remote → t < agent.lastHeartbeatTx + 2 * hbTo

/-- The fields that expiry is about, as they were. -/
structure Still (agent after : Block) : Prop where
  isNew : after.isNew = agent.isNew := by rfl
  isDead : after.isDead = agent.isDead := by rfl
  heartbeatMode : after.heartbeatMode = agent.heartbeatMode := by rfl
  lastHeartbeatTx : after.lastHeartbeatTx = agent.lastHeartbeatTx := by rfl
  lastHeartbeatRx : after.lastHeartbeatRx = agent.lastHeartbeatRx := by rfl
  handshakeDeadline : after.handshakeDeadline = agent.handshakeDeadline := by rfl

/-- A block that nothing is expected of yet: its connection was made here, and the
peer has not said who it is. -/
structure Outgoing (agent : Block) : Prop where
  isNew : agent.isNew = false
  heartbeatMode : agent.heartbeatMode = .none
  unknown : agent.remoteUuid.isNull = true

/-- The times of a block are those of the loop that was entered at `start`, and as
long as it is new its peer is not reported. -/
structure Stamped (start : Nat) (agent : Block) : Prop where
  tx : start ≤ agent.lastHeartbeatTx
  rx : start ≤ agent.lastHeartbeatRx
  deadline : start + tcpReadTimeoutSec ≤ agent.handshakeDeadline
  quiet : agent.isNew = true → agent.cntrlConnected = false ∧ agent.heartbeatMode = .none

variable {start now : Nat} {t : Int} {agent after : Block}

theorem Still.trans {final : Block} (first : agent.Still after) (second : after.Still final) : agent.Still final where
  isNew := second.isNew.trans first.isNew
  isDead := second.isDead.trans first.isDead
  heartbeatMode := second.heartbeatMode.trans first.heartbeatMode
  lastHeartbeatTx := second.lastHeartbeatTx.trans first.lastHeartbeatTx
  lastHeartbeatRx := second.lastHeartbeatRx.trans first.lastHeartbeatRx
  handshakeDeadline := second.handshakeDeadline.trans first.handshakeDeadline

theorem Heard.still (heard : agent.Heard t) (still : agent.Still after) : after.Heard t where
  handshake := by
    rw [still.isNew, still.handshakeDeadline]
    exact heard.handshake
  received := by
    rw [still.heartbeatMode, still.lastHeartbeatRx]
    exact heard.received

theorem Heard.earlier {before : Int} (heard : agent.Heard t) (le : before ≤ t) : agent.Heard before :=
  ⟨fun isNew => le.trans_lt (heard.handshake isNew), fun remote => le.trans_lt (heard.received remote)⟩

theorem Told.still (told : agent.Told t) (still : agent.Still after) : after.Told t := by
  unfold Told
  rw [still.heartbeatMode, still.lastHeartbeatTx]
  exact told

theorem Outgoing.heard (outgoing : agent.Outgoing) (t : Int) : agent.Heard t where
  handshake := by simp [outgoing.isNew]
  received := by simp [outgoing.heartbeatMode]

theorem Outgoing.told (outgoing : agent.Outgoing) (t : Int) : agent.Told t := by
  simp [Told, outgoing.heartbeatMode]

/-- Nothing is reported of a block whose peer is unknown. -/
theorem Outgoing.reportPeerReady (outgoing : agent.Outgoing) (self : Uuid) (now id : Nat) (reason : String) :
    agent.reportPeerReady self now id reason = (agent, []) :=
  reportPeerReady_of_silent (.inl (by simp [readyToReport, outgoing.unknown]))

/-- What `agent_liveness_check_helper` lets pass. -/
theorem heard_of_expired {time : Nat} (stamped : agent.Stamped start) (fine : agent.expired time = none) :
    agent.Heard time := by
  unfold expired at fine
  by_cases isNew : agent.isNew = true
  · rw [if_pos isNew] at fine
    split at fine
    · cases fine
    · next early =>
      refine ⟨fun _ => by omega, fun remote => ?_⟩
      simp [(stamped.quiet isNew).2] at remote
  · rw [if_neg isNew] at fine
    split at fine
    · cases fine
    · next recent =>
      refine ⟨fun again => absurd again isNew, fun remote => ?_⟩
      have : ¬ time ≥ agent.lastHeartbeatRx + hbTo * 100 := fun late => recent ⟨remote, late⟩
      omega

namespace Stamped

theorem heard (stamped : agent.Stamped start) (early : t < start + tcpReadTimeoutSec) : agent.Heard t where
  handshake := fun _ => by
    have := stamped.deadline
    omega
  received := fun _ => by
    have := stamped.rx
    simp only [tcpReadTimeoutSec, hbTo] at *
    omega

theorem told (stamped : agent.Stamped start) (early : t < start + 2 * hbTo) : agent.Told t := by
  intro _
  have := stamped.tx
  omega

/-- The times stay, and the control channel is not connected. -/
theorem still (stamped : agent.Stamped start) (still : agent.Still after)
    (control : after.cntrlConnected = true → agent.cntrlConnected = true) : after.Stamped start where
  tx := by
    rw [still.lastHeartbeatTx]
    exact stamped.tx
  rx := by
    rw [still.lastHeartbeatRx]
    exact stamped.rx
  deadline := by
    rw [still.handshakeDeadline]
    exact stamped.deadline
  quiet := by
    rw [still.isNew, still.heartbeatMode]
    intro isNew
    obtain ⟨apart, silent⟩ := stamped.quiet isNew
    refine ⟨?_, silent⟩
    cases connected : after.cntrlConnected with
    | false => rfl
    | true => simp [control connected] at apart

theorem fresh (addr : Addr) (later : start ≤ now) : (Block.fresh addr now).Stamped start :=
  ⟨later, later, Nat.add_le_add_right later _, fun _ => ⟨rfl, rfl⟩⟩

theorem transmitted (stamped : agent.Stamped start) (later : start ≤ now) : (agent.transmitted now).Stamped start :=
  { stamped with tx := later }

/-- A report that is due finds the block not new any more. -/
theorem reportPeerReady (stamped : agent.Stamped start) (self : Uuid) (id : Nat) (reason : String) :
    (agent.reportPeerReady self now id reason).1.Stamped start := by
  by_cases due : agent.readyToReport = true ∧ agent.readyReported = false
  · rw [reportPeerReady_of_due due.1 due.2]
    refine ⟨stamped.tx, stamped.rx, stamped.deadline, fun isNew => ?_⟩
    have ready := due.1
    simp [readyToReport, (stamped.quiet isNew).1] at ready
  · rw [reportPeerReady_of_silent (by simpa [or_iff_not_imp_left] using due)]
    exact stamped

theorem greeted (stamped : agent.Stamped start) (self : Uuid) (id : Nat) (reason : String) :
    (agent.greeted self now id reason).1.Stamped start := by
  unfold Block.greeted
  split
  · have active : { agent with lastControlActivity := now }.Stamped start :=
      stamped.still {} fun connected => connected
    exact active.reportPeerReady self id reason
  · exact stamped

theorem remains (stamped : agent.Stamped start) (w : World) (id : Nat) : (w.remains id agent).Stamped start := by
  unfold World.remains World.reportLoss Block.reportPeerLost
  have dying : agent.released.dying.Stamped start :=
    ⟨stamped.tx, stamped.rx, stamped.deadline, fun isNew => ⟨rfl, (stamped.quiet isNew).2⟩⟩
  split
  · exact dying.still {} fun connected => connected
  · exact ⟨dying.tx, dying.rx, dying.deadline, fun _ => ⟨rfl, rfl⟩⟩

theorem heardBy (stamped : agent.Stamped start) (w : World) (later : start ≤ w.clock) (id : Nat) (hb : Session) :
    (w.heardBy id agent hb).1.Stamped start := by
  have heard : (agent.heard hb w.clock).Stamped start := ⟨stamped.tx, later, stamped.deadline, stamped.quiet⟩
  unfold World.heardBy
  split
  · exact heard.reportPeerReady w.uuid id _
  · exact heard

theorem mergedWith {known : Block} (stamped : known.Stamped start) (w : World) (later : start ≤ w.clock)
    (existing : Nat) (agent : Block) (ses : Session) : (w.mergedWith existing known agent ses).1.Stamped start := by
  unfold World.mergedWith
  split
  · have attached : (known.attachRpc agent).Stamped start := stamped.still {} fun connected => connected
    exact attached.greeted w.uuid existing _
  · have attached : (known.attachControl agent w.clock).Stamped start :=
      ⟨stamped.tx, later, stamped.deadline, nofun⟩
    exact attached.greeted w.uuid existing _

end Stamped

end Block

namespace Process

/-- What every step keeps of a process whose loop was entered at the time `start`. -/
structure Punctual (start : Nat) (s : Process) : Prop where
  accounts : s.Accounts fun _ => False
  later : start ≤ s.world.clock
  stamped : ∀ id agent, s.world.blocks id = some agent → agent.Stamped start
  alive : ∀ id ∈ s.world.table, ∀ agent, s.world.blocks id = some agent → agent.isDead = false
  outgoing : ∀ id ∈ s.dialled, ∀ agent, s.world.blocks id = some agent → agent.Outgoing

variable {start : Nat} {s s' : Process}

/-- The blocks that a step leaves in the table stood there with the same times, or
are outgoing. -/
def Undisturbed (s s' : Process) : Prop :=
  ∀ id ∈ s'.world.table, ∀ after, s'.world.blocks id = some after →
    (id ∈ s.world.table ∧ ∃ agent, s.world.blocks id = some agent ∧ agent.Still after) ∨ after.Outgoing

theorem Undisturbed.of_eq (blocks : s'.world.blocks = s.world.blocks) (table : s'.world.table = s.world.table) :
    Undisturbed s s' := by
  intro id member after found
  rw [table] at member
  rw [blocks] at found
  exact .inl ⟨member, after, found, {}⟩

/-- A step on one block. -/
theorem Undisturbed.touch (id : Nat) (frame : World.Frame s.world id s'.world)
    (same : ∀ after, id ∈ s'.world.table → s'.world.blocks id = some after →
      id ∈ s.world.table ∧ ∃ agent, s.world.blocks id = some agent ∧ agent.Still after) : Undisturbed s s' := by
  intro other member after found
  by_cases here : other = id
  · subst here
    exact .inl (same after member found)
  · rw [frame.blocks_of_ne other here] at found
    exact .inl ⟨(frame.table_of_ne other here).mp member, after, found, {}⟩

theorem Undisturbed.put {id : Nat} {agent after : Block} (found : s.world.blocks id = some agent)
    (still : agent.Still after)
    (blocks : s'.world.blocks = (s.world.put id after).blocks) (table : s'.world.table = s.world.table)
    (nextBlock : s'.world.nextBlock = s.world.nextBlock) : Undisturbed s s' := by
  refine .touch id (.of_put after blocks table nextBlock) fun block member there => ?_
  rw [blocks, World.blocks_put_self] at there
  cases there
  exact ⟨table ▸ member, agent, found, still⟩

end Process

namespace World

variable {w w' : World} {id : Nat} {agent after : Block} {dead : Bool}

/-- A release leaves a block in the table as it is. -/
theorem Released.listed (released : Released w id agent dead w') (nodup : w.table.Nodup)
    (member : id ∈ w'.table) (found : w'.blocks id = some after) :
    id ∈ w.table ∧ agent.Still after := by
  cases released with
  | kept =>
    rw [blocks_put_self] at found
    cases found
    exact ⟨member, {}⟩
  | buried => exact absurd member nodup.not_mem_erase
  | removed => simp at found
  | dropped => simp at found
  | retired => simp at found
  | buriedFreed => simp at found

/-- A block that is given up as dead is not in the table any more. -/
theorem Released.unlisted (released : Released w id agent true w') (nodup : w.table.Nodup)
    (alive : id ∈ w.table → agent.isDead = false) : id ∉ w'.table := by
  intro member
  cases released with
  | kept _ calm => simp [alive member] at calm
  | removed _ isDead => simp [alive member] at isDead
  | dropped _ _ _ _ calm => cases calm
  | retired => exact nodup.not_mem_erase member
  | buried => exact nodup.not_mem_erase member
  | buriedFreed => exact nodup.not_mem_erase member

theorem Released.clock_eq (released : Released w id agent dead w') : w'.clock = w.clock := by
  cases released <;> rfl

/-- The block that told who it is from. -/
theorem identified_put (w : World) (id : Nat) (agent : Block) (ses : Session) {start : Nat} (later : start ≤ w.clock)
    (stamped : agent.Stamped start) : ∃ after : Block, after.Stamped start ∧ after.isDead = agent.isDead ∧
      (w.identified id agent ses).blocks = (w.put id after).blocks ∧ (w.identified id agent ses).table = w.table ∧
      (w.identified id agent ses).nextBlock = w.nextBlock ∧ (w.identified id agent ses).clock = w.clock := by
  rcases w.identified_cases id agent ses with ⟨_, result⟩ | ⟨_, result⟩
  · obtain ⟨_, _, _, suspended⟩ := listenerSuspendFd_eq (w.put id (agent.learn ses w.clock).becomeRpc) agent.iFileDesc
    rw [result, suspended]
    have learned : (agent.learn ses w.clock).becomeRpc.Stamped start :=
      ⟨stamped.tx, later, stamped.deadline, stamped.quiet⟩
    exact ⟨(agent.learn ses w.clock).becomeRpc, learned, rfl, rfl, rfl, rfl, rfl⟩
  · rw [result]
    have learned : (agent.learn ses w.clock).becomeControl.Stamped start := ⟨stamped.tx, later, stamped.deadline, nofun⟩
    exact ⟨(agent.learn ses w.clock).becomeControl, learned, rfl, rfl, rfl, rfl, rfl⟩

theorem mergedInto_frame (w : World) (existing : Nat) (known agent : Block) (ses : Session) :
    (w.mergedInto existing known agent ses).blocks = (w.put existing (w.mergedWith existing known agent ses).1).blocks ∧
      (w.mergedInto existing known agent ses).table = w.table ∧
      (w.mergedInto existing known agent ses).nextBlock = w.nextBlock ∧
      (w.mergedInto existing known agent ses).clock = w.clock := by
  obtain ⟨_, _, _, same⟩ := w.listenerResumeFd_eq (resumed known ses)
  rw [mergedInto, same]
  exact ⟨rfl, rfl, rfl, rfl⟩

/-- What a helper leaves behind, with the reason noted in the block or not. -/
theorem leave_released {reason : Option String} (run : w.leave id dead reason = .ok w') :
    ∃ agent noted, w.blocks id = some agent ∧ agent.Still noted ∧ noted.cntrlConnected = agent.cntrlConnected ∧
      Released (w.put id noted) id noted dead w' := by
  cases reason with
  | none =>
    obtain ⟨agent, found, released⟩ := releaseAgentBlk_released run
    refine ⟨agent, agent, found, {}, rfl, ?_⟩
    rwa [put_same found]
  | some reason =>
    obtain ⟨marked, edited, left⟩ := Except.bind_ok_iff.mp run
    obtain ⟨agent, found, rfl⟩ := edit_ok_iff.mp edited
    obtain ⟨noted, there, released⟩ := releaseAgentBlk_released left
    rw [blocks_put_self] at there
    cases there
    exact ⟨agent, agent.failing reason, found, {}, rfl, released⟩

end World

namespace Process

variable {start : Nat} {s s' : Process}

namespace Punctual

variable (punctual : s.Punctual start) (accounts : s'.Accounts fun _ => False)

include punctual accounts

/-- A step on one block, which nobody else has for its own. -/
theorem touch (id : Nat) (frame : World.Frame s.world id s'.world) (clock : s'.world.clock = s.world.clock)
    (dialled : s'.dialled = s.dialled) (public_ : id ∉ s.dialled)
    (stamped : ∀ after, s'.world.blocks id = some after → after.Stamped start)
    (alive : ∀ after, id ∈ s'.world.table → s'.world.blocks id = some after → after.isDead = false) :
    s'.Punctual start where
  accounts := accounts
  later := clock ▸ punctual.later
  stamped := by
    intro other after found
    by_cases here : other = id
    · subst here
      exact stamped after found
    · rw [frame.blocks_of_ne other here] at found
      exact punctual.stamped other after found
  alive := by
    intro other member after found
    by_cases here : other = id
    · subst here
      exact alive after member found
    · rw [frame.blocks_of_ne other here] at found
      exact punctual.alive other ((frame.table_of_ne other here).mp member) after found
  outgoing := by
    rw [dialled]
    intro other member after found
    rw [frame.blocks_of_ne other (fun same => public_ (same ▸ member))] at found
    exact punctual.outgoing other member after found

theorem put {id : Nat} {agent : Block} (found : s.world.blocks id = some agent) (after : Block)
    (public_ : id ∉ s.dialled) (stamped : after.Stamped start) (isDead : after.isDead = agent.isDead)
    (blocks : s'.world.blocks = (s.world.put id after).blocks) (table : s'.world.table = s.world.table)
    (nextBlock : s'.world.nextBlock = s.world.nextBlock) (clock : s'.world.clock = s.world.clock)
    (dialled : s'.dialled = s.dialled) : s'.Punctual start := by
  have here {block : Block} (there : s'.world.blocks id = some block) : block = after := by
    rw [blocks, World.blocks_put_self] at there
    exact (Option.some.inj there).symm
  refine punctual.touch accounts id (.of_put after blocks table nextBlock) clock dialled public_ ?_ ?_
  · intro block there
    rw [here there]
    exact stamped
  · intro block member there
    rw [here there, isDead]
    exact punctual.alive id (table ▸ member) agent found

theorem still (blocks : s'.world.blocks = s.world.blocks) (table : s'.world.table = s.world.table)
    (clock : s.world.clock ≤ s'.world.clock) (dialled : s'.dialled = s.dialled) : s'.Punctual start where
  accounts := accounts
  later := punctual.later.trans clock
  stamped := blocks ▸ punctual.stamped
  alive := by
    rw [blocks, table]
    exact punctual.alive
  outgoing := by
    rw [blocks, dialled]
    exact punctual.outgoing

/-- A release of a block with a reason noted in it or not. -/
theorem leave {id : Nat} {dead : Bool} {reason : Option String} {w : World} (run : s.world.leave id dead reason = .ok w)
    (world : s'.world = w) (public_ : id ∉ s.dialled) (dialled : s'.dialled = s.dialled) : s'.Punctual start := by
  obtain ⟨agent, noted, found, still, control, released⟩ := World.leave_released run
  have stamped : noted.Stamped start :=
    (punctual.stamped id agent found).still still fun connected => control ▸ connected
  refine punctual.touch accounts id (world ▸ World.leave_frame run) (world ▸ released.clock_eq) dialled public_ ?_ ?_
  · intro after there
    rw [world] at there
    rcases released.found_cases there with rfl | rfl
    · exact stamped.still {} fun connected => connected
    · exact stamped.remains _ id
  · intro after member there
    rw [world] at member there
    have alive (listed : id ∈ s.world.table) : noted.isDead = false :=
      still.isDead.trans (punctual.alive id listed agent found)
    obtain ⟨listed, same⟩ := released.listed punctual.accounts.nodup member there
    exact same.isDead.trans (alive listed)

/-- A connection that was accepted has a block of its own. -/
theorem acceptNew (fd : Nat) (addr : Addr) (world : s'.world = s.world.acceptedNew fd addr)
    (dialled : s'.dialled = s.dialled) : s'.Punctual start := by
  have fresh : ((Block.fresh addr s.world.clock).plugControl (some fd)).Stamped start :=
    (Block.Stamped.fresh addr punctual.later).still {} fun connected => connected
  have place (id : Nat) (after : Block) (there : s'.world.blocks id = some after) :
      (id = s.world.nextBlock ∧ after = (Block.fresh addr s.world.clock).plugControl (some fd)) ∨
        s.world.blocks id = some after := by
    rw [world, World.blocks_acceptedNew] at there
    by_cases own : id = s.world.nextBlock
    · rw [own, World.blocks_put_self] at there
      exact .inl ⟨own, (Option.some.inj there).symm⟩
    · rw [World.blocks_put_of_ne own] at there
      exact .inr there
  refine ⟨accounts, ?_, ?_, ?_, ?_⟩
  · rw [world]
    exact punctual.later
  · intro id after there
    rcases place id after there with ⟨_, rfl⟩ | before
    · exact fresh
    · exact punctual.stamped id after before
  · intro id member after there
    rcases place id after there with ⟨_, rfl⟩ | before
    · rfl
    · have table : s'.world.table = s.world.table ++ [s.world.nextBlock] := by
        rw [world]
        rfl
      rw [table] at member
      rcases List.mem_append.mp member with listed | own
      · exact punctual.alive id listed after before
      · rw [List.mem_singleton.mp own, punctual.accounts.unborn _ le_rfl] at before
        cases before
  · rw [dialled]
    intro id member after there
    rcases place id after there with ⟨own, _⟩ | before
    · exact absurd (own ▸ member) punctual.accounts.nextBlock_not_dialled
    · exact punctual.outgoing id member after before

/-- A connect thread comes to an end of its own. -/
theorem connected {dial : Dial} {req : ConnectReq} {w : World} {result : Option Nat}
    (dialling : s.world.Dialled req dial (w, result)) (world : s'.world = w)
    (dialled : s'.dialled = result.toList ++ s.dialled) : s'.Punctual start := by
  have table : s'.world.table = s.world.table := world ▸ dialling.table_eq
  have others (id : Nat) (different : id ≠ s.world.nextBlock) : s'.world.blocks id = s.world.blocks id :=
    world ▸ dialling.blocks_of_ne different
  have own (after : Block) (there : s'.world.blocks s.world.nextBlock = some after) :
      after.Stamped start ∧ after.Outgoing := by
    rw [world] at there
    cases dialling with
    | refused =>
      have none := punctual.accounts.unborn _ le_rfl
      exact absurd (none.symm.trans there) nofun
    | ended => exact absurd (World.blocks_free_self.symm.trans there) nofun
    | up addr control rpc =>
      rw [World.blocks_put_self] at there
      cases there
      exact ⟨⟨punctual.later, punctual.later, Nat.add_le_add_right punctual.later _, nofun⟩, rfl, rfl,
        (by decide : (Uuid.filled 0).isNull = true)⟩
  have clock : s'.world.clock = s.world.clock := world ▸ dialling.clock_eq
  refine ⟨accounts, clock ▸ punctual.later, ?_, ?_, ?_⟩
  · intro id after there
    by_cases here : id = s.world.nextBlock
    · exact (own after (here ▸ there)).1
    · exact punctual.stamped id after ((others id here).symm.trans there)
  · rw [table]
    intro id member after there
    have here : id ≠ s.world.nextBlock := fun same => punctual.accounts.nextBlock_not_mem (same ▸ member)
    exact punctual.alive id member after ((others id here).symm.trans there)
  · intro id member after there
    by_cases here : id = s.world.nextBlock
    · exact (own after (here ▸ there)).2
    · rw [dialled] at member
      rcases List.mem_append.mp member with new | before
      · cases dialling with
        | refused => cases new
        | ended => cases new
        | up => exact absurd (List.mem_singleton.mp new) here
      · exact punctual.outgoing id before after ((others id here).symm.trans there)

/-- The block of a connect thread goes in the table as it is. -/
theorem published {id : Nat} (member : id ∈ s.dialled)
    (blocks : s'.world.blocks = s.world.blocks) (table : s'.world.table = s.world.table ++ [id])
    (clock : s'.world.clock = s.world.clock) (dialled : s'.dialled = s.dialled.erase id) : s'.Punctual start where
  accounts := accounts
  later := clock ▸ punctual.later
  stamped := blocks ▸ punctual.stamped
  alive := by
    rw [blocks, table]
    intro other listed after there
    rcases List.mem_append.mp listed with before | own
    · exact punctual.alive other before after there
    · obtain ⟨_, block, present, _, alive⟩ := punctual.accounts.own id member
      rw [List.mem_singleton.mp own, present] at there
      cases there
      exact alive
  outgoing := by
    rw [blocks, dialled]
    exact fun other inside => punctual.outgoing other (List.mem_of_mem_erase inside)

end Punctual

/-- One step. -/
theorem Punctual.step (punctual : s.Punctual start) {action : Action} (enabled : s.Enabled action)
    (took : Took s action s') : s'.Punctual start := by
  have accounts : s'.Accounts fun _ => False := punctual.accounts.step enabled (fun _ _ => False.elim) took
  have public_ (id : Nat) (inside : id ∈ s.listener.blocks) : id ∉ s.dialled := (punctual.accounts.shown id inside).2
  have sent {send : Send} (member : send ∈ s.sends) : send.block ∉ s.dialled := by
    refine (punctual.accounts.known send.block (List.count_pos_iff.mpr ?_)).2
    exact List.mem_append_right _ (List.mem_map_of_mem member)
  have kept {agent after : Block} {id : Nat} (found : s.world.blocks id = some agent) (still : agent.Still after)
      (control : after.cntrlConnected = true → agent.cntrlConnected = true) : after.Stamped start :=
    (punctual.stamped id agent found).still still control
  cases took with
  | tick seconds => exact punctual.still accounts rfl rfl (Nat.le_add_right _ _) rfl
  | selectFails => exact punctual.still accounts rfl rfl le_rfl rfl
  | acceptNew fd addr => exact punctual.acceptNew accounts fd addr rfl rfl
  | acceptKnown fd addr id agent known found =>
    have member : id ∈ s.world.table := (World.findAgent_mem known).1
    exact punctual.put accounts found agent.acquired (punctual.accounts.not_dialled_of_mem member)
      (kept found {} fun connected => connected) rfl rfl rfl rfl rfl rfl
  | visited _ id agent touched found touch next begins guard =>
    have member := (guard enabled).2
    have stamped := punctual.stamped id agent found
    have both : touched.acquired.Stamped start ∧ touched.acquired.isDead = agent.isDead := by
      rcases touch with rfl | rfl
      · exact ⟨stamped.still {} fun connected => connected, rfl⟩
      · exact ⟨(stamped.transmitted punctual.later).still {} fun connected => connected, rfl⟩
    exact punctual.put accounts found touched.acquired (punctual.accounts.not_dialled_of_mem member) both.1 both.2
      rfl rfl rfl rfl rfl
  | rested => exact punctual
  | returned id fd place w' run =>
    have left : s.world.leave id false none = .ok w' := run
    exact punctual.leave accounts left rfl (public_ _ (by simp [place, Listener.blocks])) rfl
  | adopted id fd place agent found =>
    exact punctual.put accounts found (agent.plugControl (some fd)) (public_ _ (by simp [place, Listener.blocks]))
      (kept found {} fun connected => connected) rfl rfl rfl rfl rfl rfl
  | greeted id hb rpcReady place w' run next greets =>
    have public_ := public_ id (by simp [place, Listener.blocks])
    obtain ⟨agent, found, _, ⟨_, rfl⟩ | ⟨_, rfl⟩⟩ := World.releaseAgentConn_ok_iff.mp run
    · exact punctual.put accounts found agent.released public_ (kept found {} fun connected => connected) rfl
        rfl rfl rfl rfl rfl
    · refine punctual.touch accounts id (World.releaseAgentConn_frame run) rfl rfl public_ ?_ ?_
      · simp
      · simp
  | refused => exact punctual.still accounts rfl rfl le_rfl rfl
  | heard task id incoming place agent found hb =>
    exact punctual.put accounts found _ (public_ _ (by simp [place, Listener.blocks]))
      ((punctual.stamped id agent found).heardBy s.world punctual.later id hb)
      (s.world.alike_heardBy id agent hb).isDead rfl rfl rfl rfl rfl
  | identified task id incoming place agent message delivered =>
    obtain ⟨_, _, _, _, found, _⟩ := delivery_eq_some_iff.mp delivered
    have public_ := public_ id (by simp [place, Listener.blocks])
    have stamped := punctual.stamped id agent found
    obtain ⟨after, fits, isDead, blocks, table, nextBlock, clock⟩ :=
      s.world.identified_put id agent (Session.read message.body) punctual.later stamped
    exact punctual.put accounts found after public_ fits isDead blocks table nextBlock clock rfl
  | matched task id incoming place agent message delivered isSession valid existing known matching there =>
    have member : existing ∈ s.world.table := (World.findAgentByUuidPassive_mem matching).1
    exact punctual.put accounts there known.acquired (punctual.accounts.not_dialled_of_mem member)
      (kept there {} fun connected => connected) rfl rfl rfl rfl rfl rfl
  | served task id incoming place agent found message rc =>
    have still : agent.Still (if message.header.type = .rmaAck then agent else agent.working false) := by
      split <;> exact {}
    refine punctual.put accounts found _ (public_ _ (by simp [place, Listener.blocks])) (kept found still ?_)
      still.isDead rfl rfl rfl rfl rfl
    split <;> exact fun connected => connected
  | merged task id existing ses place agent known found there =>
    have kept : (s.world.attached known agent ses).isDead = known.isDead := by
      unfold World.attached
      split <;> rfl
    obtain ⟨blocks, table, nextBlock, clock⟩ := s.world.mergedInto_frame existing known agent ses
    exact punctual.put accounts there _ (public_ _ (by simp [place, Listener.blocks]))
      ((punctual.stamped existing known there).mergedWith s.world punctual.later existing agent ses)
      ((s.world.alike_mergedWith existing known agent ses).isDead.trans kept) blocks table nextBlock clock rfl
  | matchReturned task id existing place w' run =>
    have left : s.world.leave existing false none = .ok w' := run
    exact punctual.leave accounts left rfl (public_ _ (by simp [place, Listener.blocks])) rfl
  | dropped task id existing place apart w' run =>
    have left : s.world.leave id false none = .ok w' := run
    exact punctual.leave accounts left rfl (public_ _ (by simp [place, Listener.blocks])) rfl
  | left task id dead reason place w' run =>
    exact punctual.leave accounts run rfl (public_ _ (by simp [place, Listener.blocks])) rfl
  | dialled dial w' result dialled => exact punctual.connected accounts dialled rfl rfl
  | published id agent found reported report =>
    have outgoing := punctual.outgoing id enabled agent found
    have silent := outgoing.reportPeerReady s.world.uuid s.world.clock id "outbound-rpc-ready"
    rw [report, silent] at accounts ⊢
    have same := World.put_same (w := (s.world.register id agent).notify []) found
    exact punctual.published accounts enabled (congrArg World.blocks same :) rfl rfl rfl
  | missed => exact punctual
  | acquired action id lookup agent found stage =>
    exact punctual.put accounts found agent.acquired (punctual.accounts.not_dialled_of_mem (lookup_mem lookup))
      (kept found {} fun connected => connected) rfl rfl rfl rfl rfl rfl
  | sent send net next => exact punctual.still accounts rfl rfl le_rfl rfl
  | unplugged send net _ agent found =>
    exact punctual.put accounts found (agent.plugRpc none) (sent enabled.1)
      (kept found {} fun connected => connected) rfl rfl rfl rfl rfl rfl
  | opened send net _ agent found _ fd _ flag =>
    exact punctual.put accounts found ((agent.plugRpc (some fd)).rpcFlagged flag) (sent enabled.1)
      (kept found {} fun connected => connected) rfl rfl rfl rfl rfl rfl
  | worked send net agent found flag next =>
    exact punctual.put accounts found (agent.working flag) (sent enabled.1)
      (kept found {} fun connected => connected) rfl rfl rfl rfl rfl rfl
  | released send net dead _ w' run =>
    have left : s.world.leave send.block dead none = .ok w' := run
    exact punctual.leave accounts left rfl (sent enabled.1) rfl

theorem Took.clock_le {action : Action} (took : Took s action s') : s.world.clock ≤ s'.world.clock := by
  cases took with
  | tick => exact Nat.le_add_right _ _
  | returned id fd place w' run =>
    obtain ⟨_, _, released⟩ := World.releaseAgentBlk_released run
    exact released.clock_eq.ge
  | greeted id hb rpcReady place w' run =>
    obtain ⟨_, _, _, ⟨_, rfl⟩ | ⟨_, rfl⟩⟩ := World.releaseAgentConn_ok_iff.mp run <;> exact le_rfl
  | identified task id incoming place agent message =>
    unfold World.identified
    cases (Session.read message.body).rpcSetup <;> cases agent.iFileDesc <;> exact le_rfl
  | merged task id existing ses place agent known =>
    exact (s.world.mergedInto_frame existing known agent ses).2.2.2.ge
  | matchReturned task id existing place w' run =>
    obtain ⟨_, _, released⟩ := World.releaseAgentBlk_released run
    exact released.clock_eq.ge
  | dropped task id existing place apart w' run =>
    obtain ⟨_, _, released⟩ := World.releaseAgentBlk_released run
    exact released.clock_eq.ge
  | left task id dead reason place w' run =>
    obtain ⟨_, _, _, _, _, released⟩ := World.leave_released run
    exact released.clock_eq.ge
  | dialled dial w' result dialled => exact dialled.clock_eq.ge
  | released send net dead _ w' run =>
    obtain ⟨_, _, released⟩ := World.releaseAgentBlk_released run
    exact released.clock_eq.ge
  | _ => exact le_rfl

/-- The listener does nothing, or is about to release the block of a pass. -/
def Resting (s : Process) : Prop :=
  s.listener = .idle ∨ ∃ task id dead reason, s.listener = .leaving task id dead reason

theorem listener_aside {action : Action} (aside : action.aside = true) (run : s.step action = .ok s') :
    action = .proceed ∨ s'.listener = s.listener := by
  have acquired {found : Option Nat} {stage : Stage} (run : s.acquire found stage = .ok s') :
      s'.listener = s.listener := by
    cases found with
    | none =>
      cases run
      rfl
    | some id =>
      obtain ⟨w, _, result⟩ := Except.bind_ok_iff.mp run
      cases result
      rfl
  cases action with
  | proceed => exact .inl rfl
  | tick seconds =>
    cases run
    exact .inr rfl
  | connect dial =>
    cases run
    exact .inr rfl
  | publish id =>
    obtain ⟨w, _, result⟩ := Except.bind_ok_iff.mp run
    cases result
    exact .inr rfl
  | send remote blk => exact .inr (acquired run)
  | look blk => exact .inr (acquired run)
  | advance send net =>
    obtain ⟨advanced, _, result⟩ := Except.bind_ok_iff.mp run
    cases result
    exact .inr rfl
  | _ => cases aside

theorem ending_proceed (s : Process) (id : Nat) :
    s.ending .proceed = some id ↔ ∃ task reason, s.listener = .leaving task id true reason := by
  simp only [ending]
  constructor
  · intro ends
    split at ends
    · next task other reason place =>
      cases ends
      exact ⟨task, reason, place⟩
    · cases ends
  · rintro ⟨task, reason, place⟩
    rw [place]

/-- While the listener rests, the steps beside it leave the times of the blocks in
the table alone, and a block that is given up as dead leaves it. -/
theorem Punctual.aside (punctual : s.Punctual start) {action : Action} (aside : action.aside = true)
    (enabled : s.Enabled action) (resting : s.Resting) (run : s.step action = .ok s') :
    Undisturbed s s' ∧ s'.Resting ∧
      ∀ id ∈ s'.world.table, s.ending .proceed = some id → s'.ending .proceed = some id := by
  have took := step_took punctual.accounts.nextBlock_not_mem run
  have beside (listener : s'.listener = s.listener) : s'.Resting ∧
      ∀ id ∈ s'.world.table, s.ending .proceed = some id → s'.ending .proceed = some id := by
    simp only [Resting, ending_proceed, listener]
    exact ⟨resting, fun _ _ ends => ends⟩
  have busy (place : s.listener ≠ .idle)
      (moves : ∀ task id dead reason, s.listener ≠ .leaving task id dead reason) : False := by
    rcases resting with idle | ⟨task, id, dead, reason, leaving⟩
    · exact place idle
    · exact moves task id dead reason leaving
  have listener := listener_aside aside run
  cases took with
  | tick seconds => exact ⟨.of_eq rfl rfl, beside rfl⟩
  | selectFails => cases aside
  | acceptNew => cases aside
  | acceptKnown => cases aside
  | visited action id agent touched found touch next begins guard =>
    have idle := (guard enabled).1
    rcases listener with rfl | same
    · exact absurd idle enabled
    · have none := begins.blocks
      rw [show next = .idle from same.trans idle] at none
      cases none
  | rested place => exact absurd place enabled
  | returned _ _ place | adopted _ _ place | greeted _ _ _ place | refused _ _ _ place | heard _ _ _ place
  | identified _ _ _ place | matched _ _ _ place | served _ _ _ place | merged _ _ _ _ place
  | matchReturned _ _ _ place | dropped _ _ _ place =>
    exact (busy (by simp [place]) (by simp [place])).elim
  | left task id dead reason place w' left =>
    obtain ⟨agent, noted, found, still, _, released⟩ := World.leave_released left
    have alive (listed : id ∈ s.world.table) : noted.isDead = false :=
      still.isDead.trans (punctual.alive id listed agent found)
    refine ⟨.touch id (World.leave_frame left) fun after member there => ?_, .inl rfl, fun other member ends => ?_⟩
    · obtain ⟨listed, same⟩ := released.listed punctual.accounts.nodup member there
      exact ⟨listed, agent, found, still.trans same⟩
    · obtain ⟨_, _, same⟩ := (ending_proceed s other).mp ends
      rw [place] at same
      cases same
      exact absurd member (released.unlisted punctual.accounts.nodup alive)
  | dialled dial w' result dialled =>
    refine ⟨fun id member after there => ?_, beside rfl⟩
    have listed : id ∈ s.world.table := dialled.table_eq ▸ member
    have here : id ≠ s.world.nextBlock := fun same => punctual.accounts.nextBlock_not_mem (same ▸ listed)
    exact .inl ⟨listed, after, (dialled.blocks_of_ne here).symm.trans there, {}⟩
  | published id agent found reported report =>
    have outgoing := punctual.outgoing id enabled agent found
    rw [report, outgoing.reportPeerReady]
    refine ⟨fun other member after there => ?_, beside rfl⟩
    have same := World.put_same (w := (s.world.register id agent).notify []) found
    replace there : s.world.blocks other = some after :=
      (congrFun (congrArg World.blocks same :) other).symm.trans there
    rcases List.mem_append.mp member with before | own
    · exact .inl ⟨before, after, there, {}⟩
    · rw [List.mem_singleton.mp own, found] at there
      cases there
      exact .inr outgoing
  | missed => exact ⟨.of_eq rfl rfl, beside rfl⟩
  | acquired action id lookup agent found stage => exact ⟨.put found {} rfl rfl rfl, beside rfl⟩
  | sent => exact ⟨.of_eq rfl rfl, beside rfl⟩
  | unplugged send net _ agent found => exact ⟨.put found {} rfl rfl rfl, beside rfl⟩
  | opened send net _ agent found => exact ⟨.put found {} rfl rfl rfl, beside rfl⟩
  | worked send net agent found => exact ⟨.put found {} rfl rfl rfl, beside rfl⟩
  | released send net dead _ w' left =>
    obtain ⟨agent, found, released⟩ := World.releaseAgentBlk_released left
    refine ⟨.touch send.block (World.releaseAgentBlk_frame left) fun after member there => ?_, beside rfl⟩
    obtain ⟨listed, same⟩ := released.listed punctual.accounts.nodup member there
    exact ⟨listed, agent, found, same⟩

end Process

end DEFw.Agents
