import DEFw.Agents.Effects

namespace DEFw.Agents
open Transport (Uuid)

/-- What the outside sees of the life of a block. -/
inductive Milestone
  | event (eventType : PeerEventType)
  | freed
  deriving DecidableEq

/-- What a notice says about the block `id`. -/
def Notice.milestone (id : Nat) : Notice → Option Milestone
  | peerEvent event _ => if event.peerHandle = id then some (.event event.eventType) else none
  | freed block => if block = id then some .freed else none
  | _ => none

def milestones (id : Nat) (notices : List Notice) : List Milestone := notices.filterMap (Notice.milestone id)

theorem milestones_append (id : Nat) (before later : List Notice) :
    milestones id (before ++ later) = milestones id before ++ milestones id later :=
  List.filterMap_append

/-- The peer events notified for a block and its end, in their order. -/
def World.history (w : World) (id : Nat) : List Milestone := milestones id w.notices

/-- The lives of the blocks that are freed. -/
def endings : List (List Milestone) :=
  [[.freed], [.event .ready, .event .removed, .freed], [.event .ready, .event .lost, .event .removed, .freed]]

/-- All lives of blocks. -/
def lifecycles : List (List Milestone) :=
  [[], [.event .ready], [.event .ready, .event .lost]] ++ endings

namespace Block

/-- The life of a block that is not freed, by its flags. -/
def past (agent : Block) : List Milestone :=
  (if agent.readyReported then [.event .ready] else []) ++ (if agent.lostReported then [.event .lost] else [])

/-- The flags of a block fit together: what is freed without a report was never
ready, since it is still new. -/
structure Reported (agent : Block) : Prop where
  removed : agent.removedReported = false
  lost : agent.lostReported = true → agent.readyReported = true
  ready : agent.readyReported = true → agent.isNew = false
  control : agent.cntrlConnected = true → agent.isNew = false

theorem Reported.past_mem {agent : Block} (reported : agent.Reported) :
    agent.past ∈ [[], [Milestone.event .ready], [.event .ready, .event .lost]] := by
  have lost := reported.lost
  unfold past
  cases ready : agent.readyReported <;> cases gone : agent.lostReported <;> simp_all

theorem Reported.past_of_new {agent : Block} (reported : agent.Reported) (isNew : agent.isNew = true) :
    agent.past = [] := by
  have ready := reported.ready
  have lost := reported.lost
  unfold past
  cases flag : agent.readyReported <;> cases gone : agent.lostReported <;> simp_all

theorem Steady.reported {agent after : Block} (steady : agent.Steady after) (reported : agent.Reported) :
    after.Reported where
  removed := steady.removedReported.trans reported.removed
  lost := by
    rw [steady.lostReported, steady.readyReported]
    exact reported.lost
  ready := by
    intro ready
    rw [steady.readyReported] at ready
    by_contra stillNew
    have isNew := steady.isNew (by simpa using stillNew)
    simp [reported.ready ready] at isNew
  control := by
    intro connected
    rcases steady.control connected with upgraded | before
    · exact upgraded
    · by_contra stillNew
      have isNew := steady.isNew (by simpa using stillNew)
      simp [reported.control before] at isNew

theorem Steady.past_eq {agent after : Block} (steady : agent.Steady after) : after.past = agent.past := by
  unfold past
  rw [steady.readyReported, steady.lostReported]

end Block

namespace World

variable {w w' : World} {id other : Nat}

/-- The end of a block that was reported as far as `past` says. -/
theorem past_removal_mem_endings (w : World) {agent : Block} (reported : agent.Reported) :
    agent.past ++ milestones id (w.reportRemoval id agent) ++ [.freed] ∈ endings := by
  have lost := reported.lost
  unfold Block.past milestones reportRemoval Block.reportPeerRemoved
  cases ready : agent.readyReported <;> cases gone : agent.lostReported <;>
    simp_all [Notice.milestone, fillPeerEvent, reported.removed, endings]

theorem milestones_removal_of_ne (different : other ≠ id) (agent : Block) :
    milestones other (w.reportRemoval id agent) = [] := by
  unfold milestones reportRemoval Block.reportPeerRemoved
  split <;> simp [Notice.milestone, fillPeerEvent, different.symm]

theorem milestones_loss_of_ne (different : other ≠ id) (agent : Block) :
    milestones other (w.reportLoss id agent).2 = [] := by
  unfold milestones reportLoss Block.reportPeerLost
  split <;> simp [Notice.milestone, fillPeerEvent, different.symm]

theorem milestones_freed_of_ne (different : other ≠ id) : milestones other [Notice.freed id] = [] := by
  simp [milestones, Notice.milestone, different.symm]

theorem removal_not_ready (w : World) (id : Nat) (agent : Block) : ∀ event snapshot,
    .peerEvent event snapshot ∈ w.reportRemoval id agent → event.eventType ≠ .ready := by
  intro event snapshot member
  unfold reportRemoval Block.reportPeerRemoved at member
  split at member
  · simp at member
  · simp only [List.mem_singleton, Notice.peerEvent.injEq] at member
    rw [member.1]
    exact nofun

theorem loss_not_ready (w : World) (id : Nat) (agent : Block) : ∀ event snapshot,
    .peerEvent event snapshot ∈ (w.reportLoss id agent).2 → event.eventType ≠ .ready := by
  intro event snapshot member
  unfold reportLoss Block.reportPeerLost at member
  split at member
  · simp at member
  · simp only [List.mem_singleton, Notice.peerEvent.injEq] at member
    rw [member.1]
    exact nofun

theorem past_reportLoss (w : World) (agent : Block) (reported : agent.Reported) :
    (w.reportLoss id agent).1.past = agent.past ++ milestones id (w.reportLoss id agent).2 := by
  have lost := reported.lost
  unfold Block.past milestones reportLoss Block.reportPeerLost
  cases ready : agent.readyReported <;> cases gone : agent.lostReported <;>
    simp_all [Notice.milestone, fillPeerEvent]

theorem reported_reportLoss (w : World) (id : Nat) {agent : Block} (reported : agent.Reported) : (w.reportLoss id agent).1.Reported := by
  obtain ⟨removed, lost, ready, control⟩ := reported
  unfold reportLoss Block.reportPeerLost
  split
  · exact ⟨removed, lost, ready, control⟩
  · next silent =>
    have told : agent.readyReported = true := by
      cases flag : agent.readyReported <;> simp_all
    exact ⟨removed, fun _ => told, ready, control⟩

theorem lossIf_spec (w : World) (id : Nat) (dead : Bool) {agent : Block} (reported : agent.Reported) :
    (w.lossIf dead id agent).1.Reported ∧
      (w.lossIf dead id agent).1.past = agent.past ++ milestones id (w.lossIf dead id agent).2 ∧
      (∀ event snapshot, .peerEvent event snapshot ∈ (w.lossIf dead id agent).2 → event.eventType ≠ .ready) ∧
      ∀ other, other ≠ id → milestones other (w.lossIf dead id agent).2 = [] := by
  cases dead with
  | true =>
    exact ⟨w.reported_reportLoss id reported, w.past_reportLoss agent reported, w.loss_not_ready id agent,
      fun other different => milestones_loss_of_ne different agent⟩
  | false => exact ⟨reported, (List.append_nil _).symm, by simp [lossIf], fun _ _ => rfl⟩

/-- The history of every block is what its flags say, and that of a freed one is
complete. -/
structure Chronicle (w : World) : Prop where
  live : ∀ id agent, w.blocks id = some agent → id < w.nextBlock ∧ agent.Reported ∧ w.history id = agent.past
  gone : ∀ id, w.blocks id = none → id < w.nextBlock ∧ w.history id ∈ endings ∨ w.nextBlock ≤ id ∧ w.history id = []
  ready : ∀ event agent, .peerEvent event agent ∈ w.notices → event.eventType = .ready → agent.readyToReport = true

namespace Chronicle

theorem history_of_append {said : List Notice} (notices : w'.notices = w.notices ++ said) :
    w'.history id = w.history id ++ milestones id said := by
  rw [history, notices, milestones_append]
  rfl

/-- A step on one block, with what it notifies about it. -/
theorem touch (chronicle : w.Chronicle) (id : Nat) (others : ∀ other, other ≠ id → w'.blocks other = w.blocks other)
    (nextBlock : w'.nextBlock = w.nextBlock) {said : List Notice} (notices : w'.notices = w.notices ++ said)
    (about : ∀ other, other ≠ id → milestones other said = [])
    (ready : ∀ event agent, .peerEvent event agent ∈ said → event.eventType = .ready → agent.readyToReport = true)
    (known : id < w.nextBlock)
    (live : ∀ after, w'.blocks id = some after → after.Reported ∧ w.history id ++ milestones id said = after.past)
    (gone : w'.blocks id = none → w.history id ++ milestones id said ∈ endings) : w'.Chronicle where
  live := by
    intro other agent found
    rw [nextBlock]
    by_cases same : other = id
    · subst same
      rw [history_of_append notices]
      exact ⟨known, live agent found⟩
    · rw [others other same] at found
      rw [history_of_append notices, about other same, List.append_nil]
      exact chronicle.live other agent found
  gone := by
    intro other absent
    rw [nextBlock]
    by_cases same : other = id
    · subst same
      rw [history_of_append notices]
      exact .inl ⟨known, gone absent⟩
    · rw [others other same] at absent
      rw [history_of_append notices, about other same, List.append_nil]
      exact chronicle.gone other absent
  ready := by
    intro event agent member
    rw [notices, List.mem_append] at member
    rcases member with before | now
    · exact chronicle.ready event agent before
    · exact ready event agent now

theorem put (chronicle : w.Chronicle) {agent after : Block} (found : w.blocks id = some agent)
    (reported : after.Reported) (past : after.past = agent.past) : (w.put id after).Chronicle := by
  obtain ⟨known, _, history⟩ := chronicle.live id agent found
  refine chronicle.touch id (fun other => blocks_put_of_ne) rfl (List.append_nil _).symm (fun _ _ => rfl) (by simp) known ?_ ?_
  · intro other there
    rw [blocks_put_self] at there
    cases there
    exact ⟨reported, by rw [history, past]; exact List.append_nil _⟩
  · simp

/-- Notices that are about no block. -/
theorem tell (chronicle : w.Chronicle) {said : List Notice} (aside : ∀ notice ∈ said, ∀ id, notice.milestone id = none) :
    (w.notify said).Chronicle := by
  have silent (id : Nat) : milestones id said = [] :=
    List.filterMap_eq_nil_iff.mpr fun notice member => aside notice member id
  have same (id : Nat) : (w.notify said).history id = w.history id := by
    rw [history_of_append rfl, silent, List.append_nil]
  refine ⟨fun id agent found => ?_, fun id absent => ?_, fun event agent member => ?_⟩
  · rw [same]
    exact chronicle.live id agent found
  · rw [same]
    exact chronicle.gone id absent
  · rcases List.mem_append.mp member with before | now
    · exact chronicle.ready event agent before
    · have impossible := aside _ now event.peerHandle
      simp [Notice.milestone] at impossible

theorem wires (chronicle : w.Chronicle) (blocks : w'.blocks = w.blocks) (nextBlock : w'.nextBlock = w.nextBlock)
    (notices : w'.notices = w.notices) : w'.Chronicle := by
  have same (id : Nat) : w'.history id = w.history id := by rw [history, notices, history]
  refine ⟨fun id agent found => ?_, fun id absent => ?_, fun event agent member => ?_⟩
  · rw [same, nextBlock]
    exact chronicle.live id agent (blocks ▸ found)
  · rw [same, nextBlock]
    exact chronicle.gone id (blocks ▸ absent)
  · exact chronicle.ready event agent (notices ▸ member)

theorem reportPeerReady (chronicle : w.Chronicle) {reason : String} (run : w.reportPeerReady id reason = .ok w') :
    w'.Chronicle := by
  obtain ⟨agent, found, rest⟩ := Except.bind_ok_iff.mp run
  cases rest
  obtain ⟨known, reported, history⟩ := chronicle.live id agent (deref_ok_iff.mp found)
  by_cases due : agent.readyToReport = true ∧ agent.readyReported = false
  · rw [Block.reportPeerReady_of_due due.1 due.2]
    have unlost : agent.lostReported = false := by
      by_contra lost
      have ready := reported.lost (by simpa using lost)
      simp [due.2] at ready
    have begun : agent.past = [] := by
      rw [Block.past, due.2, unlost]
      rfl
    have upgraded : agent.isNew = false := by
      have connected := due.1
      simp only [Block.readyToReport, Bool.and_eq_true] at connected
      exact reported.control connected.1.2
    refine chronicle.touch id (fun other => blocks_put_of_ne) rfl rfl (fun other different => ?_) ?_ known ?_ ?_
    · simp [milestones, Notice.milestone, fillPeerEvent, different.symm]
    · intro event snapshot member _
      simp only [List.mem_cons, Notice.peerEvent.injEq, List.mem_map, reduceCtorEq, and_false, exists_false, or_false]
        at member
      rw [member.2]
      exact due.1
    · intro after there
      rw [blocks_put_self] at there
      cases there
      refine ⟨⟨reported.removed, fun _ => rfl, fun _ => upgraded, fun _ => upgraded⟩, ?_⟩
      have answers : milestones id (agent.connectReq.toList.map (fun req => .connectStatus req .ok)) = [] := by
        simp [milestones, Notice.milestone]
      have told : milestones id [Notice.peerEvent (fillPeerEvent w.uuid w.clock id { agent with readyReported := true }
          .ready reason) (agent.announced w.uuid)] = [.event .ready] := by
        simp [milestones, Notice.milestone, fillPeerEvent]
      rw [← List.singleton_append, milestones_append, answers, told, history, begun]
      simp only [Block.past, Block.announced, unlost]
      rfl
    · simp
  · rw [Block.reportPeerReady_of_silent (by simpa [or_iff_not_imp_left] using due)]
    exact (chronicle.tell (by simp)).put (deref_ok_iff.mp found) reported rfl

/-- A block is freed after the reports `said`. -/
theorem free (chronicle : w.Chronicle) {agent : Block} (found : w.blocks id = some agent)
    (blocks : w'.blocks = (w.freeAgentBlk id).blocks) (nextBlock : w'.nextBlock = w.nextBlock) (said : List Notice)
    (notices : w'.notices = w.notices ++ said ++ [.freed id])
    (about : ∀ other, other ≠ id → milestones other said = [])
    (late : ∀ event agent, .peerEvent event agent ∈ said → event.eventType ≠ .ready)
    (ends : agent.past ++ milestones id said ++ [.freed] ∈ endings) : w'.Chronicle := by
  obtain ⟨known, _, history⟩ := chronicle.live id agent found
  have freed : milestones id [Notice.freed id] = [.freed] := by simp [milestones, Notice.milestone]
  rw [List.append_assoc] at notices
  refine chronicle.touch id (fun other different => ?_) nextBlock notices (fun other different => ?_) ?_ known ?_ ?_
  · rw [blocks, blocks_free_of_ne different]
  · rw [milestones_append, about other different, milestones_freed_of_ne different]
    rfl
  · intro event snapshot member isReady
    rcases List.mem_append.mp member with report | last
    · exact absurd isReady (late event snapshot report)
    · simp at last
  · intro after there
    rw [blocks, blocks_free_self] at there
    simp at there
  · intro _
    rw [milestones_append, freed, history, ← List.append_assoc]
    exact ends

theorem release (chronicle : w.Chronicle) {dead : Bool} (run : w.releaseAgentBlk id dead = .ok w') : w'.Chronicle := by
  obtain ⟨agent, found, released⟩ := releaseAgentBlk_released run
  obtain ⟨known, reported, history⟩ := chronicle.live id agent found
  have alike : agent.released.Reported := ⟨reported.removed, reported.lost, reported.ready, reported.control⟩
  have dying : agent.released.dying.Reported := ⟨reported.removed, reported.lost, reported.ready, nofun⟩
  have remains : (w.remains id agent).Reported := by
    obtain ⟨removed, lost, ready, control⟩ := w.reported_reportLoss id dying
    exact ⟨removed, lost, ready, control⟩
  have pastRemains : (w.remains id agent).past = agent.past ++ milestones id (w.reportLoss id agent.released.dying).2 :=
    w.past_reportLoss agent.released.dying dying
  cases released with
  | kept => exact chronicle.put found alike rfl
  | removed =>
    refine chronicle.free found rfl rfl _ rfl (fun other different => milestones_removal_of_ne different _)
      (w.removal_not_ready id _) ?_
    exact w.past_removal_mem_endings alike
  | dropped last notDead idle isNew =>
    refine chronicle.free found rfl rfl [] (by simp [freeAgentBlk, unlink]) (fun _ _ => rfl) (by simp) ?_
    rw [reported.past_of_new isNew]
    exact List.mem_cons_self
  | retired last notDead idle ends highest =>
    obtain ⟨shut, pastShut, quiet, about⟩ := w.lossIf_spec id dead alike
    refine chronicle.free found rfl rfl _ rfl (fun other different => ?_) ?_ ?_
    · rw [milestones_append, about other different, milestones_removal_of_ne different]
      rfl
    · intro event snapshot member
      rcases List.mem_append.mp member with loss | removal
      · exact quiet event snapshot loss
      · exact w.removal_not_ready id _ event snapshot removal
    · have past : (w.lossIf dead id agent.released).1.unplugged.past =
          agent.past ++ milestones id (w.lossIf dead id agent.released).2 := pastShut
      rw [milestones_append, ← List.append_assoc, ← past]
      exact w.past_removal_mem_endings ⟨shut.removed, shut.lost, shut.ready, shut.control⟩
  | buried shared notDead isDead highest =>
    refine chronicle.touch id (fun other => blocks_put_of_ne) rfl rfl
      (fun other different => milestones_loss_of_ne different _) ?_ known ?_ ?_
    · intro event snapshot member isReady
      exact absurd isReady (w.loss_not_ready id _ event snapshot member)
    · intro after there
      rw [blocks_put_self] at there
      cases there
      exact ⟨remains, by rw [history, pastRemains]⟩
    · simp
  | buriedFreed last notDead isDead highest =>
    refine chronicle.free found rfl rfl _ rfl (fun other different => ?_) ?_ ?_
    · rw [milestones_append, milestones_loss_of_ne different, milestones_removal_of_ne different]
      rfl
    · intro event snapshot member
      rcases List.mem_append.mp member with loss | removal
      · exact w.loss_not_ready id _ event snapshot loss
      · exact w.removal_not_ready id _ event snapshot removal
    · rw [milestones_append, ← List.append_assoc, ← pastRemains]
      exact w.past_removal_mem_endings remains

theorem releaseConn (chronicle : w.Chronicle) (run : w.releaseAgentConn id = .ok w') : w'.Chronicle := by
  obtain ⟨agent, found, isNew, result⟩ := releaseAgentConn_ok_iff.mp run
  obtain ⟨_, reported, _⟩ := chronicle.live id agent found
  rcases result with ⟨_, rfl⟩ | ⟨_, rfl⟩
  · exact chronicle.put found ⟨reported.removed, reported.lost, reported.ready, reported.control⟩ rfl
  · refine chronicle.free found rfl rfl [] (by simp [freeAgentBlk, unlink]) (fun _ _ => rfl) (by simp) ?_
    rw [reported.past_of_new isNew]
    exact List.mem_cons_self

theorem alloc (chronicle : w.Chronicle) (addr : Addr) (add : Bool) : (w.allocAgentBlk addr add).Chronicle := by
  have blocks : (w.allocAgentBlk addr add).blocks = (w.put w.nextBlock (Block.fresh addr w.clock)).blocks := by
    cases add <;> rfl
  have nextBlock : (w.allocAgentBlk addr add).nextBlock = w.nextBlock + 1 := by cases add <;> rfl
  have notices : (w.allocAgentBlk addr add).notices = w.notices := by cases add <;> rfl
  have same (id : Nat) : (w.allocAgentBlk addr add).history id = w.history id := by rw [history, notices, history]
  refine ⟨fun id agent found => ?_, fun id absent => ?_, fun event agent member => ?_⟩
  · rw [blocks] at found
    rw [same, nextBlock]
    by_cases new : id = w.nextBlock
    · subst new
      rw [blocks_put_self] at found
      cases found
      refine ⟨by omega, ⟨rfl, nofun, nofun, nofun⟩, ?_⟩
      cases before : w.blocks w.nextBlock with
      | none =>
        rcases chronicle.gone w.nextBlock before with ⟨known, _⟩ | ⟨_, silent⟩
        · omega
        · exact silent
      | some agent =>
        have known := (chronicle.live w.nextBlock agent before).1
        omega
    · rw [blocks_put_of_ne new] at found
      obtain ⟨known, rest⟩ := chronicle.live id agent found
      exact ⟨by omega, rest⟩
  · rw [blocks] at absent
    rw [same, nextBlock]
    by_cases new : id = w.nextBlock
    · subst new
      simp at absent
    · rw [blocks_put_of_ne new] at absent
      rcases chronicle.gone id absent with ⟨known, ended⟩ | ⟨unknown, silent⟩
      · exact .inl ⟨by omega, ended⟩
      · exact .inr ⟨by omega, silent⟩
  · exact chronicle.ready event agent (notices ▸ member)

theorem effect (chronicle : w.Chronicle) {licence : Licence} (effect : Effect licence w w') : w'.Chronicle := by
  cases effect with
  | wires _ blocks nextBlock notices => exact chronicle.wires blocks nextBlock notices
  | edit id agent after found steady =>
    obtain ⟨_, reported, _⟩ := chronicle.live id agent found
    exact chronicle.put found (steady.reported reported) steady.past_eq
  | ready id reason _ run => exact chronicle.reportPeerReady run
  | hand id agent found frame => exact chronicle.tell (by simp [Notice.milestone])
  | acquire id _ run =>
    obtain ⟨agent, found, rfl⟩ := edit_ok_iff.mp run
    obtain ⟨_, reported, _⟩ := chronicle.live id agent found
    exact chronicle.put found ⟨reported.removed, reported.lost, reported.ready, reported.control⟩ rfl
  | release id dead _ run => exact chronicle.release run
  | releaseConn id _ run => exact chronicle.releaseConn run
  | alloc addr add => exact chronicle.alloc addr add
  | discard id agent found unreported =>
    obtain ⟨_, reported, _⟩ := chronicle.live id agent found
    refine chronicle.free found rfl rfl [] (by simp [freeAgentBlk]) (fun _ _ => rfl) (by simp) ?_
    have unlost : agent.lostReported = false := by
      by_contra lost
      have ready := reported.lost (by simpa using lost)
      simp [unreported] at ready
    rw [Block.past, unreported, unlost]
    exact List.mem_cons_self
  | tell notices answers =>
    refine chronicle.tell fun notice member id => ?_
    have answer := answers notice member
    cases notice <;> simp_all [Notice.isAnswer, Notice.milestone]

theorem effects (chronicle : w.Chronicle) {licence : Licence} (effects : Effects licence w w') : w'.Chronicle := by
  induction effects with
  | refl => exact chronicle
  | tail _ last ih => exact ih.effect last

theorem init (uuid : Uuid) (clock listenFd : Nat) : (World.init uuid clock listenFd).Chronicle where
  live := by simp [World.init]
  gone := fun id _ => .inr ⟨Nat.zero_le id, rfl⟩
  ready := by simp [World.init]

end Chronicle

end World

theorem Process.chronicle_step {s s' : Process} {action : Action} (chronicle : s.world.Chronicle)
    (run : s.step action = .ok s') : s'.world.Chronicle :=
  chronicle.effects (step_effects anyFrame_permits run)

theorem Process.chronicle_run {uuid : Uuid} {clock listenFd : Nat} {actions : List Action} {s : Process}
    (run : Process.machine.run (Process.start uuid clock listenFd) actions = .ok s) : s.world.Chronicle :=
  Faulting.run_keeps (fun s => s.world.Chronicle) (fun _ _ _ => Process.chronicle_step)
    (World.Chronicle.init uuid clock listenFd) run

/-- In every run, what is notified for a block is one of six lives: PEER_READY,
PEER_LOST and PEER_REMOVED come in this order and at most once, the latter two only
after PEER_READY, and a block that was ready is freed only after PEER_REMOVED. A
peer is ready when its uuid is known and both channels are connected. -/
theorem peer_lifecycle (uuid : Uuid) (clock listenFd : Nat) (actions : List Action) (s : Process)
    (run : Process.machine.run (Process.start uuid clock listenFd) actions = .ok s) :
    (∀ id, s.world.history id ∈ lifecycles ∧
      (.freed ∈ s.world.history id ↔ id < s.world.nextBlock ∧ s.world.blocks id = none)) ∧
    ∀ event agent, .peerEvent event agent ∈ s.world.notices → event.eventType = .ready →
      agent.remoteUuid.isNull = false ∧ agent.cntrlConnected = true ∧ agent.rpcConnected = true := by
  have chronicle := Process.chronicle_run run
  refine ⟨fun id => ?_, fun event agent member isReady => ?_⟩
  · cases found : s.world.blocks id with
    | none =>
      rcases chronicle.gone id found with ⟨known, ended⟩ | ⟨unknown, silent⟩
      · have last : ∀ life ∈ endings, Milestone.freed ∈ life := by decide
        exact ⟨List.mem_append_right _ ended, fun _ => ⟨known, rfl⟩, fun _ => last _ ended⟩
      · rw [silent]
        exact ⟨List.mem_append_left _ List.mem_cons_self, nofun, fun known => by omega⟩
    | some agent =>
      obtain ⟨_, reported, history⟩ := chronicle.live id agent found
      have open_ : ∀ life ∈ [[], [Milestone.event .ready], [.event .ready, .event .lost]], Milestone.freed ∉ life := by
        decide
      rw [history]
      exact ⟨List.mem_append_left _ reported.past_mem, fun freed => absurd freed (open_ _ reported.past_mem), nofun⟩
  · have ready := chronicle.ready event agent member isReady
    simp only [Block.readyToReport, Bool.and_eq_true, Bool.not_eq_true'] at ready
    exact ⟨ready.1.1, ready.1.2, ready.2⟩

/-- A peer is connected to, sends a heartbeat and closes the connection. -/
def shortLife : List Action :=
  [.connect (.plain (Uuid.filled 9) 5 6), .publish 0,
    .visit 0 (some ((Session.plain (Uuid.filled 2) false).incoming (Uuid.filled 2) .hb)) none, .proceed, .proceed,
    .visit 0 (some (.noHeader .clientClosed)) none, .proceed, .proceed]

theorem peer_lifecycle_short_life : ∃ s, Process.machine.run (Process.start (Uuid.filled 1) 100 3) shortLife = .ok s ∧
    s.world.history 0 = [.event .ready, .event .lost, .event .removed, .freed] ∧
    (∀ id, s.world.history id ∈ lifecycles ∧
      (.freed ∈ s.world.history id ↔ id < s.world.nextBlock ∧ s.world.blocks id = none)) ∧
    ∀ event agent, .peerEvent event agent ∈ s.world.notices → event.eventType = .ready →
      agent.remoteUuid.isNull = false ∧ agent.cntrlConnected = true ∧ agent.rpcConnected = true := by
  have life : (Process.machine.run (Process.start (Uuid.filled 1) 100 3) shortLife).toOption.map
      (fun s => s.world.history 0) = some [.event .ready, .event .lost, .event .removed, .freed] := by decide +kernel
  obtain ⟨s, run, history⟩ := Except.exists_ok_of_map life
  exact ⟨s, run, history, peer_lifecycle _ _ _ _ s run⟩

end DEFw.Agents
