import DEFw.Agents.Lifecycle
import DEFw.Agents.Lookup

namespace DEFw.Agents
open Transport (Uuid Frame)

/-- With a uuid on record, `process_agent_message` lets through only its owner. -/
theorem Incoming.admitted_sender {incoming : Incoming} {remote : Uuid} {message : Message}
    (admission : incoming.admitted remote = .ok message) (known : remote.isNull = false) :
    message.header.sender = remote := by
  cases incoming with
  | noHeader trouble => simp [admitted] at admission
  | noBody hdr trouble =>
    simp only [admitted] at admission
    split at admission <;> simp at admission
  | frame hdr body handlerRc =>
    simp only [admitted] at admission
    split at admission
    · simp at admission
    · next header checked =>
      cases admission
      unfold Transport.checkHeader at checked
      simp only [known, Bool.not_false, Bool.true_and, decide_eq_true_eq] at checked
      split_ifs at checked with version mismatch
      split at checked
      · simp at checked
      · cases checked
        exact (not_not.mp mismatch).symm

theorem Process.delivery_sender {s : Process} {action : Action} {id : Nat} {agent : Block} {message : Message}
    (delivered : s.delivery action = some (id, agent, message)) (known : agent.remoteUuid.isNull = false) :
    message.header.sender = agent.remoteUuid := by
  obtain ⟨_, _, _, _, _, admission⟩ := delivery_eq_some_iff.mp delivered
  exact Incoming.admitted_sender admission known

/-- A frame gives a uuid only to a block without one, or the one it has, and
reaches a handler only through a block with the uuid of its sender. -/
def identified : Licence where
  rename := fun agent uuid => agent.remoteUuid.isNull = true ∨ agent.remoteUuid = uuid
  hand := fun agent frame => agent.remoteUuid.isNull = false ∧ agent.remoteUuid = frame.sender

namespace World

variable {w w' : World} {id : Nat}

/-- The block `id` keeps the uuid it has, as long as it lives. -/
def Keeps (id : Nat) (uuid : Uuid) (w : World) : Prop :=
  id < w.nextBlock ∧ ∀ agent, w.blocks id = some agent → agent.remoteUuid = uuid

/-- Handlers were given what came from the owner of its connection. -/
def Guarded (w : World) : Prop := ∀ id frame agent, .handed id frame agent ∈ w.notices → identified.hand agent frame

theorem reportLoss_peerEvent {agent : Block} {notice : Notice} (member : notice ∈ (w.reportLoss id agent).2) :
    ∃ event snapshot, notice = .peerEvent event snapshot := by
  unfold reportLoss Block.reportPeerLost at member
  split at member
  · simp at member
  · exact ⟨_, _, List.mem_singleton.mp member⟩

theorem reportRemoval_peerEvent {agent : Block} {notice : Notice} (member : notice ∈ w.reportRemoval id agent) :
    ∃ event snapshot, notice = .peerEvent event snapshot := by
  unfold reportRemoval Block.reportPeerRemoved at member
  split at member
  · simp at member
  · exact ⟨_, _, List.mem_singleton.mp member⟩

theorem Released.said {agent : Block} {dead : Bool} (released : Released w id agent dead w') :
    ∃ said, w'.notices = w.notices ++ said ∧ ∀ block frame snapshot, .handed block frame snapshot ∉ said := by
  have loss (lost : Block) : ∀ block frame snapshot, .handed block frame snapshot ∉ (w.reportLoss id lost).2 := by
    intro block frame snapshot member
    obtain ⟨_, _, impossible⟩ := reportLoss_peerEvent member
    cases impossible
  have removal (gone : Block) : ∀ block frame snapshot, .handed block frame snapshot ∉ w.reportRemoval id gone := by
    intro block frame snapshot member
    obtain ⟨_, _, impossible⟩ := reportRemoval_peerEvent member
    cases impossible
  cases released with
  | kept => exact ⟨[], (List.append_nil _).symm, by simp⟩
  | removed => exact ⟨_, List.append_assoc _ _ _, by simp [removal]⟩
  | dropped => exact ⟨_, rfl, by simp⟩
  | retired =>
    refine ⟨_, List.append_assoc _ _ _, fun block frame snapshot member => ?_⟩
    simp only [List.mem_append, List.mem_singleton, reduceCtorEq, or_false] at member
    rcases member with lost | gone
    · cases dead with
      | true => exact loss _ _ _ _ lost
      | false => simp [lossIf] at lost
    · exact removal _ _ _ _ gone
  | buried => exact ⟨_, rfl, loss _⟩
  | buriedFreed => exact ⟨_, List.append_assoc _ _ _, by simp [loss, removal]⟩

end World

/-- What an effect notifies. -/
theorem Effect.said {licence : Licence} {w w' : World} (effect : Effect licence w w') :
    ∃ said, w'.notices = w.notices ++ said ∧
      ∀ id frame agent, .handed id frame agent ∈ said → licence.hand agent frame := by
  cases effect with
  | wires _ _ _ notices => exact ⟨[], by rw [notices, List.append_nil], by simp⟩
  | edit => exact ⟨[], (List.append_nil _).symm, by simp⟩
  | ready id reason _ run =>
    obtain ⟨agent, _, rest⟩ := Except.bind_ok_iff.mp run
    cases rest
    refine ⟨_, rfl, fun block frame snapshot member => ?_⟩
    by_cases due : agent.readyToReport = true ∧ agent.readyReported = false
    · rw [Block.reportPeerReady_of_due due.1 due.2] at member
      simp at member
    · rw [Block.reportPeerReady_of_silent (by simpa [or_iff_not_imp_left] using due)] at member
      simp at member
  | hand id agent found frame allowed =>
    refine ⟨_, rfl, fun block other snapshot member => ?_⟩
    cases List.mem_singleton.mp member
    exact allowed
  | acquire id _ run =>
    obtain ⟨agent, _, rfl⟩ := World.edit_ok_iff.mp run
    exact ⟨[], (List.append_nil _).symm, by simp⟩
  | release id dead _ run =>
    obtain ⟨agent, _, released⟩ := World.releaseAgentBlk_released run
    obtain ⟨said, notices, silent⟩ := released.said
    exact ⟨said, notices, fun block frame snapshot member => absurd member (silent block frame snapshot)⟩
  | releaseConn id _ run =>
    obtain ⟨agent, _, _, ⟨_, rfl⟩ | ⟨_, rfl⟩⟩ := World.releaseAgentConn_ok_iff.mp run
    · exact ⟨[], (List.append_nil _).symm, by simp⟩
    · exact ⟨_, rfl, by simp⟩
  | alloc addr add =>
    refine ⟨[], ?_, by simp⟩
    cases add <;> exact (List.append_nil _).symm
  | discard => exact ⟨_, rfl, by simp⟩
  | tell notices answers =>
    refine ⟨_, rfl, fun block frame snapshot member => ?_⟩
    have answer := answers _ member
    simp [Notice.isAnswer] at answer

namespace World

variable {w w' : World} {id : Nat}

theorem Guarded.effect (guarded : w.Guarded) (effect : Effect identified w w') : w'.Guarded := by
  obtain ⟨said, notices, allowed⟩ := effect.said
  intro block frame agent member
  rw [notices, List.mem_append] at member
  rcases member with before | now
  · exact guarded block frame agent before
  · exact allowed block frame agent now

theorem Guarded.effects (guarded : w.Guarded) (effects : Effects identified w w') : w'.Guarded := by
  induction effects with
  | refl => exact guarded
  | tail _ last ih => exact ih.effect last

theorem Keeps.put {uuid : Uuid} (keeps : w.Keeps id uuid) {other : Nat} {agent after : Block}
    (found : w.blocks other = some agent) (named : agent.remoteUuid = uuid → after.remoteUuid = uuid) :
    (w.put other after).Keeps id uuid := by
  refine ⟨keeps.1, fun block there => ?_⟩
  by_cases same : id = other
  · subst same
    rw [blocks_put_self] at there
    cases there
    exact named (keeps.2 agent found)
  · rw [blocks_put_of_ne same] at there
    exact keeps.2 block there

theorem Keeps.touch {uuid : Uuid} (keeps : w.Keeps id uuid) {other : Nat}
    (others : ∀ block, block ≠ other → w'.blocks block = w.blocks block) (nextBlock : w'.nextBlock = w.nextBlock)
    (named : ∀ after, w'.blocks other = some after → ∃ agent, w.blocks other = some agent ∧
      after.remoteUuid = agent.remoteUuid) : w'.Keeps id uuid := by
  refine ⟨nextBlock ▸ keeps.1, fun block there => ?_⟩
  by_cases same : id = other
  · subst same
    obtain ⟨agent, found, alike⟩ := named block there
    rw [alike]
    exact keeps.2 agent found
  · rw [others id same] at there
    exact keeps.2 block there

theorem Keeps.effect {uuid : Uuid} (known : uuid.isNull = false) (keeps : w.Keeps id uuid)
    (effect : Effect identified w w') : w'.Keeps id uuid := by
  cases effect with
  | wires _ blocks nextBlock notices => exact ⟨nextBlock ▸ keeps.1, blocks ▸ keeps.2⟩
  | edit other agent after found steady named =>
    refine keeps.put found fun recorded => ?_
    rcases named with same | null | same
    · rw [same, recorded]
    · rw [recorded, known] at null
      cases null
    · rw [← same, recorded]
  | ready other reason _ run =>
    obtain ⟨agent, found, rest⟩ := Except.bind_ok_iff.mp run
    cases rest
    refine Keeps.put (w := w.notify _) keeps (deref_ok_iff.mp found) fun recorded => ?_
    by_cases due : agent.readyToReport = true ∧ agent.readyReported = false
    · rw [Block.reportPeerReady_of_due due.1 due.2]
      exact recorded
    · rw [Block.reportPeerReady_of_silent (by simpa [or_iff_not_imp_left] using due)]
      exact recorded
  | hand => exact keeps
  | acquire other _ run =>
    obtain ⟨agent, found, rfl⟩ := edit_ok_iff.mp run
    exact keeps.put found fun recorded => recorded
  | release other dead _ run =>
    obtain ⟨agent, found, released⟩ := releaseAgentBlk_released run
    refine keeps.touch (fun block => released.blocks_of_ne) released.nextBlock_eq fun after there => ⟨agent, found, ?_⟩
    rcases released.found_cases there with rfl | rfl
    · rfl
    · obtain ⟨_, _, _, _, same⟩ := w.remains_eq other agent
      rw [same]
      rfl
  | releaseConn other _ run =>
    obtain ⟨agent, found, _, ⟨_, rfl⟩ | ⟨_, rfl⟩⟩ := releaseAgentConn_ok_iff.mp run
    · exact keeps.put found fun recorded => recorded
    · refine keeps.touch (fun block => blocks_free_of_ne) rfl fun after there => ?_
      simp at there
  | alloc addr add =>
    have fresh : id ≠ w.nextBlock := by
      have := keeps.1
      omega
    have blocks : (w.allocAgentBlk addr add).blocks id = w.blocks id := by
      cases add <;> exact blocks_put_of_ne fresh
    have nextBlock : (w.allocAgentBlk addr add).nextBlock = w.nextBlock + 1 := by cases add <;> rfl
    refine ⟨?_, fun agent found => keeps.2 agent (blocks ▸ found)⟩
    have := keeps.1
    omega
  | discard other agent found unreported =>
    refine keeps.touch (fun block => blocks_free_of_ne) rfl fun after there => ?_
    simp at there
  | tell => exact keeps

theorem Keeps.effects {uuid : Uuid} (known : uuid.isNull = false) (keeps : w.Keeps id uuid)
    (effects : Effects identified w w') : w'.Keeps id uuid := by
  induction effects with
  | refl => exact keeps
  | tail _ last ih => exact ih.effect known last

end World

namespace Process

/-- A request, response, event or RMA acknowledgement comes in on a block that
records a uuid, and session information with a uuid that no inbound block of the
table records comes in on one that records none, or that uuid. -/
def Identified (s : Process) (action : Action) : Prop :=
  ∀ delivery ∈ s.delivery action,
    (delivery.2.2.header.type ≠ .hb → delivery.2.2.header.type ≠ .sessionInfo →
      delivery.2.1.remoteUuid.isNull = false) ∧
    (delivery.2.2.header.type = .sessionInfo →
      (∀ other ∈ s.world.table, ¬s.world.Inbound (Session.read delivery.2.2.body).uuid other) →
      delivery.2.1.remoteUuid.isNull = true ∨ delivery.2.1.remoteUuid = (Session.read delivery.2.2.body).uuid)

instance (s : Process) (action : Action) : Decidable (s.Identified action) :=
  inferInstanceAs (Decidable (∀ delivery ∈ s.delivery action, _))

theorem Identified.permits {s : Process} {action : Action} (known : s.Identified action) :
    Permits identified s action := by
  refine ⟨fun id agent message delivered reason => ?_, fun id agent message delivered notHb notSession => ?_⟩
  · rcases reason with ⟨_, null⟩ | ⟨isSession, _, unknown⟩
    · exact .inl null
    · exact (known _ delivered).2 isSession (World.findAgentByUuidPassive_eq_none_iff.mp unknown)
  · have recorded := (known _ delivered).1 notHb notSession
    exact ⟨recorded, (delivery_sender delivered recorded).symm⟩

theorem guarded_step {s s' : Process} {action : Action} (guarded : s.world.Guarded) (known : s.Identified action)
    (run : s.step action = .ok s') : s'.world.Guarded :=
  guarded.effects (step_effects known.permits run)

theorem keeps_step {s s' : Process} {action : Action} {id : Nat} {uuid : Uuid} (recorded : uuid.isNull = false)
    (keeps : s.world.Keeps id uuid) (known : s.Identified action) (run : s.step action = .ok s') :
    s'.world.Keeps id uuid :=
  keeps.effects recorded (step_effects known.permits run)

end Process

open Process in
/-- As long as the frames of a run keep to this, a block that records a uuid keeps
it while it lives, and every request, response, event and RMA acknowledgement that
reaches its handler came in on a block that records the uuid of its sender. -/
theorem identity_guards_rpc {uuid : Uuid} {clock listenFd : Nat} {before later : List Action} {s s' : Process}
    (admits : machine.Admits Identified (start uuid clock listenFd) (before ++ later))
    (first : machine.run (start uuid clock listenFd) before = .ok s) (second : machine.run s later = .ok s') :
    (∀ id agent after, s.world.blocks id = some agent → agent.remoteUuid.isNull = false →
      s'.world.blocks id = some after → after.remoteUuid = agent.remoteUuid) ∧
    ∀ id frame agent, .handed id frame agent ∈ s'.world.notices →
      agent.remoteUuid.isNull = false ∧ agent.remoteUuid = frame.sender := by
  obtain ⟨admitsFirst, admitsSecond⟩ := admits.append first
  constructor
  · intro id agent after found recorded there
    have keeps : s.world.Keeps id agent.remoteUuid := by
      refine ⟨((chronicle_run first).live id agent found).1, fun other same => ?_⟩
      rw [found] at same
      cases same
      rfl
    have kept := Faulting.run_invariant (fun s => s.world.Keeps id agent.remoteUuid)
      (fun _ _ _ => keeps_step recorded) keeps admitsSecond second
    exact kept.2 after there
  · have nothing : (start uuid clock listenFd).world.Guarded := by simp [World.Guarded, start, World.init]
    have guarded := Faulting.run_invariant (fun s => s.world.Guarded) (fun _ _ _ => guarded_step) nothing admitsFirst first
    exact Faulting.run_invariant (fun s => s.world.Guarded) (fun _ _ _ => guarded_step) guarded admitsSecond second

namespace Process

/-- It sends a request. -/
def request : List Action :=
  [.visit 0 (some (.frame (Transport.populateMsgHdr (Uuid.filled 2) .pyRequest 1) [0] .ok)) none, .proceed, .proceed]

end Process

open Process in
theorem identity_guards_rpc_request : ∃ s s', machine.run (start (Uuid.filled 1) 100 3) introduction = .ok s ∧
    machine.run s request = .ok s' ∧
    s'.world.notices.length = 1 ∧
    (∀ id agent after, s.world.blocks id = some agent → agent.remoteUuid.isNull = false →
      s'.world.blocks id = some after → after.remoteUuid = agent.remoteUuid) ∧
    ∀ id frame agent, .handed id frame agent ∈ s'.world.notices →
      agent.remoteUuid.isNull = false ∧ agent.remoteUuid = frame.sender := by
  have evaluated : (machine.run (start (Uuid.filled 1) 100 3) (introduction ++ request)).toOption.map
      (fun s => s.world.notices.length) = some 1 := by decide +kernel
  obtain ⟨s', run, handed⟩ := Except.exists_ok_of_map evaluated
  obtain ⟨s, first, second⟩ := Faulting.run_append.mp run
  exact ⟨s, s', first, second, handed, identity_guards_rpc (by decide +kernel) first second⟩

namespace Process

/-- A request is the first message of a connection. -/
def unintroduced : List Action :=
  [.accept 5 ⟨0x7f000001, 40001⟩,
    .newAgent 0 (some (.frame (Transport.populateMsgHdr (Uuid.filled 2) .pyRequest 1) [0] .ok)) false,
    .proceed, .proceed]

/-- Session information comes in again, with another uuid in its body. -/
def secondName : List Action :=
  [.visit 0 (some ((Session.plain (Uuid.filled 3) false).incoming (Uuid.filled 2) .sessionInfo)) none, .proceed]

end Process

open Process in
/-- A request that is the first message of a connection reaches its handler, and
session information that names another uuid replaces the one on record. -/
theorem identity_unguarded :
    (machine.Admits Enabled (start (Uuid.filled 1) 100 3) unintroduced ∧
      ∃ s, machine.run (start (Uuid.filled 1) 100 3) unintroduced = .ok s ∧ s.world.notices =
        [.handed 0 ⟨.pyRequest, Uuid.filled 2, [0]⟩ ((Block.fresh ⟨0x7f000001, 40001⟩ 100).plugControl (some 5))]) ∧
    machine.Admits Enabled (start (Uuid.filled 1) 100 3) (introduction ++ secondName) ∧
      ∃ s s', machine.run (start (Uuid.filled 1) 100 3) introduction = .ok s ∧ machine.run s secondName = .ok s' ∧
        (s.world.blocks 0).map Block.remoteUuid = some (Uuid.filled 2) ∧
        (s'.world.blocks 0).map Block.remoteUuid = some (Uuid.filled 3) := by
  have handed : (machine.run (start (Uuid.filled 1) 100 3) unintroduced).toOption.map (fun s => s.world.notices) =
      some [.handed 0 ⟨.pyRequest, Uuid.filled 2, [0]⟩
        ((Block.fresh ⟨0x7f000001, 40001⟩ 100).plugControl (some 5))] := by decide +kernel
  have introduced : (machine.run (start (Uuid.filled 1) 100 3) introduction).toOption.map
      (fun s => (s.world.blocks 0).map Block.remoteUuid) = some (some (Uuid.filled 2)) := by decide +kernel
  have renamed : (machine.run (start (Uuid.filled 1) 100 3) (introduction ++ secondName)).toOption.map
      (fun s => (s.world.blocks 0).map Block.remoteUuid) = some (some (Uuid.filled 3)) := by decide +kernel
  obtain ⟨s', run, after⟩ := Except.exists_ok_of_map renamed
  obtain ⟨s, first, second⟩ := Faulting.run_append.mp run
  rw [first] at introduced
  exact ⟨⟨by decide +kernel, Except.exists_ok_of_map handed⟩, by decide +kernel, s, s', first, second,
    Option.some.inj introduced, after⟩

end DEFw.Agents
