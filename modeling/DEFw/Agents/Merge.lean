import DEFw.Agents.Handlers
import DEFw.Agents.Lookup

namespace DEFw.Agents
open Transport (Uuid)

/-- The assertion `agent != existing` of `process_msg_session_info` fails. -/
def Fault.IsMerge (fault : Fault) : Prop := ∃ id, fault = .selfMerge id

namespace World

variable {w w' : World} {id : Nat}

/-- Every block in memory has a reference. -/
def Referenced (w : World) : Prop := ∀ id agent, w.blocks id = some agent → 0 < agent.refCount

namespace Referenced

theorem touch (referenced : w.Referenced) (others : ∀ other, other ≠ id → w'.blocks other = w.blocks other)
    (held : ∀ after, w'.blocks id = some after → 0 < after.refCount) : w'.Referenced := by
  intro other agent found
  by_cases same : other = id
  · subst same
    exact held agent found
  · rw [others other same] at found
    exact referenced other agent found

theorem put (referenced : w.Referenced) {agent : Block} (held : 0 < agent.refCount) : (w.put id agent).Referenced := by
  refine referenced.touch (fun other => blocks_put_of_ne) fun after there => ?_
  rw [blocks_put_self] at there
  cases there
  exact held

theorem free (referenced : w.Referenced) : (w.freeAgentBlk id).Referenced :=
  referenced.touch (fun other => blocks_free_of_ne) (by simp)

theorem effect {licence : Licence} (referenced : w.Referenced) (effect : Effect licence w w') : w'.Referenced := by
  cases effect with
  | wires _ blocks => exact fun id agent found => referenced id agent (blocks ▸ found)
  | edit other agent after found steady => exact referenced.put (steady.refCount ▸ referenced other agent found)
  | ready other reason _ run =>
    obtain ⟨agent, found, rfl⟩ := reportPeerReady_ok_iff.mp run
    refine Referenced.put (w := w.notify _) referenced ?_
    obtain ⟨_, _, _, _, same⟩ := Block.reportPeerReady_fst w.uuid w.clock other agent reason
    rw [same]
    exact referenced other agent found
  | hand => exact referenced
  | acquire other _ run =>
    obtain ⟨agent, found, rfl⟩ := edit_ok_iff.mp run
    exact referenced.put (Nat.succ_pos _)
  | release other dead _ run =>
    obtain ⟨agent, found, released⟩ := releaseAgentBlk_released run
    refine referenced.touch (fun block => released.blocks_of_ne) fun after there => ?_
    cases released with
    | kept shared =>
      rw [blocks_put_self] at there
      cases there
      change 0 < agent.refCount - 1
      omega
    | buried shared =>
      rw [blocks_put_self] at there
      cases there
      rw [refCount_remains]
      omega
    | removed => simp at there
    | dropped => simp at there
    | retired => simp at there
    | buriedFreed => simp at there
  | releaseConn other _ run =>
    obtain ⟨agent, found, _, ⟨shared, rfl⟩ | ⟨_, rfl⟩⟩ := releaseAgentConn_ok_iff.mp run
    · refine referenced.put ?_
      change 0 < agent.refCount - 1
      omega
    · exact Referenced.free (w := w.unlink other) referenced
  | alloc addr add =>
    cases add <;> exact referenced.put Nat.one_pos
  | discard => exact referenced.free
  | tell => exact referenced

theorem effects {licence : Licence} (referenced : w.Referenced) (effects : Effects licence w w') : w'.Referenced := by
  induction effects with
  | refl => exact referenced
  | tail _ last ih => exact ih.effect last

end Referenced

/-- A merge of a block with itself goes through. -/
theorem exists_selfMerge (w : World) {agent : Block} (found : w.blocks id = some agent) (ses : Session) :
    ∃ merged, w.mergeSession id id ses = .ok merged ∧
      ∃ known, merged.blocks id = some known ∧ known.refCount = agent.refCount := by
  refine ⟨_, mergeSession_ok_iff.mpr ⟨agent, agent, found, found, rfl⟩, _, blocks_put_self, ?_⟩
  unfold mergedWith
  split
  · obtain ⟨_, _, _, _, _, same⟩ := (agent.attachRpc agent).greeted_fst w.uuid w.clock id "inbound-rpc-ready"
    rw [same]
    rfl
  · obtain ⟨_, _, _, _, _, same⟩ :=
      (agent.attachControl agent w.clock).greeted_fst w.uuid w.clock id "inbound-control-ready"
    rw [same]
    rfl

section Avoids

open Except

theorem deref_avoids (w : World) (id : Nat) : (w.deref id).Avoids Fault.IsMerge := by
  unfold deref
  split
  · exact Avoids.error nofun
  · exact Avoids.ok _

theorem edit_avoids (w : World) (id : Nat) (change : Block → Block) : (w.edit id change).Avoids Fault.IsMerge :=
  (w.deref_avoids id).bind fun _ _ => Avoids.ok _

theorem release_avoids (w : World) (id : Nat) (dead : Bool) : (w.releaseAgentBlk id dead).Avoids Fault.IsMerge := by
  refine (w.deref_avoids id).bind fun agent _ => ?_
  simp only []
  split_ifs
  · exact Avoids.error nofun
  · exact Avoids.ok _
  · exact Avoids.error nofun
  · exact Avoids.ok _
  · exact Avoids.ok _
  · exact Avoids.ok _

theorem releaseConn_avoids (w : World) (id : Nat) : (w.releaseAgentConn id).Avoids Fault.IsMerge := by
  refine (w.deref_avoids id).bind fun agent _ => ?_
  simp only []
  split_ifs
  · exact Avoids.error nofun
  · exact Avoids.error nofun
  · exact Avoids.ok _
  · exact Avoids.ok _

theorem reportPeerReady_avoids (w : World) (id : Nat) (reason : String) :
    (w.reportPeerReady id reason).Avoids Fault.IsMerge := (w.deref_avoids id).bind fun _ _ => Avoids.ok _

theorem listenerReportPeerReady_avoids (w : World) (id : Nat) (reason : String) :
    (w.listenerReportPeerReady id reason).Avoids Fault.IsMerge := by
  refine (w.deref_avoids id).bind fun agent _ => ?_
  split
  · exact reportPeerReady_avoids _ id reason
  · exact Avoids.ok _

theorem mergeSession_avoids (w : World) (id existing : Nat) (ses : Session) :
    (w.mergeSession id existing ses).Avoids Fault.IsMerge := by
  refine (w.deref_avoids id).bind fun agent _ => ?_
  split
  · exact (w.edit_avoids existing _).bind fun attached _ => attached.listenerReportPeerReady_avoids existing _
  · refine (w.edit_avoids existing _).bind fun attached _ => (attached.deref_avoids existing).bind fun known _ => ?_
    exact listenerReportPeerReady_avoids _ existing _

theorem identify_avoids (w : World) (id : Nat) (ses : Session) : (w.identify id ses).Avoids Fault.IsMerge := by
  refine (w.deref_avoids id).bind fun agent _ => ?_
  split
  · exact Avoids.ok _
  · exact Avoids.ok _

theorem processMsgHb_avoids (w : World) (id : Nat) (hb : Session) : (w.processMsgHb id hb).Avoids Fault.IsMerge := by
  refine (w.deref_avoids id).bind fun agent _ => ?_
  split
  · exact (reportPeerReady_avoids _ id _).bind fun _ _ => Avoids.ok _
  · exact Avoids.ok _

theorem leave_avoids (w : World) (id : Nat) (dead : Bool) (reason : Option String) :
    (w.leave id dead reason).Avoids Fault.IsMerge := by
  cases reason with
  | none => exact w.release_avoids id dead
  | some reason => exact (w.edit_avoids id _).bind fun marked _ => marked.release_avoids id dead

theorem adopt_avoids (w : World) (id fd : Nat) : (w.adopt id fd).Avoids Fault.IsMerge :=
  (w.edit_avoids id _).bind fun _ _ => Avoids.ok _

theorem advance_avoids (w : World) (send : Send) (net : Net) : (w.advance send net).Avoids Fault.IsMerge := by
  unfold advance
  split
  · refine Avoids.bind ?_ fun _ _ => Avoids.ok _
    refine (w.deref_avoids send.block).bind fun agent _ => ?_
    split
    · exact Avoids.ok _
    · split
      · exact Avoids.ok _
      · simp only []
        split
        · exact Avoids.ok _
        · exact Avoids.ok _
  · exact (w.edit_avoids send.block _).bind fun _ _ => Avoids.ok _
  · exact Avoids.ok _
  · exact (w.edit_avoids send.block _).bind fun _ _ => Avoids.ok _
  · exact (w.release_avoids send.block _).bind fun _ _ => Avoids.ok _

end Avoids

end World

/-- The listener merges a block with another one. -/
def Listener.Apart : Listener → Prop
  | merging _ id existing _ => id ≠ existing
  | merged _ id existing => id ≠ existing
  | duplicate _ id existing => id ≠ existing
  | _ => True

theorem Listener.apart_readRest (id : Nat) (rest : List Incoming) : (readRest id rest).Apart := by
  cases rest <;> trivial

theorem Listener.apart_after (task : Task) (id : Nat) (rc : DefwRc) : (after task id rc).Apart := by
  unfold after
  cases task with
  | fresh =>
    simp only []
    split <;> trivial
  | established rest =>
    simp only []
    split
    · trivial
    · exact apart_readRest id rest

namespace Process

variable {s s' : Process}

/-- Session information names the first inbound block with its uuid, and that is
not the block it came in on. -/
def Distinct (s : Process) (action : Action) : Prop :=
  ∀ delivery ∈ s.delivery action, delivery.2.2.header.type = .sessionInfo →
    (Session.read delivery.2.2.body).isValid = true →
    ¬s.world.FirstInbound (Session.read delivery.2.2.body).uuid delivery.1

instance (s : Process) (action : Action) : Decidable (s.Distinct action) :=
  inferInstanceAs (Decidable (∀ delivery ∈ s.delivery action, _))

theorem receive_apart {task : Task} {id : Nat} {incoming : Incoming} (reading : s.listener = .reading task id incoming)
    (distinct : s.Distinct .proceed) (run : s.receive task id incoming = .ok s') : s'.listener.Apart := by
  obtain ⟨agent, found, rest⟩ := Except.bind_ok_iff.mp run
  have present := World.deref_ok_iff.mp found
  cases admission : incoming.admitted agent.remoteUuid with
  | error rc =>
    simp only [admission] at rest
    cases rest
    exact Listener.apart_after task id _
  | ok message =>
    have delivered : s.delivery .proceed = some (id, agent, message) :=
      delivery_eq_some_iff.mpr ⟨rfl, task, incoming, reading, present, admission⟩
    simp only [admission] at rest
    split at rest
    · obtain ⟨_, _, result⟩ := Except.bind_ok_iff.mp rest
      cases result
      exact Listener.apart_after task id _
    · next isSession =>
      split at rest
      · cases rest
        exact Listener.apart_after task id _
      · next valid =>
        split at rest
        · next existing known =>
          obtain ⟨_, _, result⟩ := Except.bind_ok_iff.mp rest
          cases result
          intro same
          subst same
          exact distinct _ delivered isSession (by simpa using valid)
            (World.findAgentByUuidPassive_eq_some_iff.mp known)
        · obtain ⟨_, _, result⟩ := Except.bind_ok_iff.mp rest
          cases result
          exact Listener.apart_after task id _
    · obtain ⟨_, _, result⟩ := Except.bind_ok_iff.mp rest
      cases result
      exact Listener.apart_after task id _

theorem proceed_apart (apart : s.listener.Apart) (distinct : s.Distinct .proceed) (run : s.proceed = .ok s') :
    s'.listener.Apart := by
  unfold proceed at run
  split at run
  · cases run
    exact apart
  · obtain ⟨_, _, result⟩ := Except.bind_ok_iff.mp run
    cases result
    trivial
  · obtain ⟨_, _, result⟩ := Except.bind_ok_iff.mp run
    cases result
    trivial
  · obtain ⟨_, _, rest⟩ := Except.bind_ok_iff.mp run
    split at rest
    · cases rest
      trivial
    · cases rest
      simp only []
      split <;> trivial
  · next reading => exact receive_apart reading distinct run
  · next merging =>
    rw [merging] at apart
    obtain ⟨_, _, result⟩ := Except.bind_ok_iff.mp run
    cases result
    exact apart
  · next merged =>
    rw [merged] at apart
    obtain ⟨_, _, result⟩ := Except.bind_ok_iff.mp run
    cases result
    exact apart
  · split at run
    · cases run
    · obtain ⟨_, _, result⟩ := Except.bind_ok_iff.mp run
      cases result
      exact Listener.apart_after _ _ _
  · obtain ⟨_, _, result⟩ := Except.bind_ok_iff.mp run
    cases result
    trivial

/-- The other actions leave the listener where it is, or set it to something else
than a merge. -/
theorem step_apart {action : Action} (apart : s.listener.Apart) (distinct : s.Distinct action)
    (run : s.step action = .ok s') : s'.listener.Apart := by
  have visited {from_ : Process} {id : Nat} {next : Block → Listener} (visit : from_.visiting id next = .ok s')
      (away : ∀ agent, (next agent).Apart) : s'.listener.Apart := by
    obtain ⟨agent, _, rest⟩ := Except.bind_ok_iff.mp visit
    obtain ⟨_, _, result⟩ := Except.bind_ok_iff.mp rest
    cases result
    exact away agent
  have acquired {found : Option Nat} {stage : Stage} (acquire : s.acquire found stage = .ok s') :
      s'.listener.Apart := by
    cases found with
    | none =>
      cases acquire
      exact apart
    | some id =>
      obtain ⟨_, _, result⟩ := Except.bind_ok_iff.mp acquire
      cases result
      exact apart
  cases action with
  | tick seconds =>
    cases run
    exact apart
  | selectFails =>
    cases run
    exact apart
  | accept fd addr =>
    simp only [step] at run
    split at run
    · obtain ⟨_, _, result⟩ := Except.bind_ok_iff.mp run
      cases result
      exact apart
    · obtain ⟨_, _, result⟩ := Except.bind_ok_iff.mp run
      cases result
      trivial
  | newAgent id hb rpcReady => exact visited run fun _ => trivial
  | visit id hb rpc => exact visited run fun agent => Listener.apart_readRest id _
  | livenessCheck id t => exact visited run fun _ => trivial
  | sendHb id rc =>
    obtain ⟨agent, _, rest⟩ := Except.bind_ok_iff.mp run
    split_ifs at rest
    · exact visited rest fun _ => trivial
    · exact visited rest fun _ => trivial
    · obtain ⟨_, _, visit⟩ := Except.bind_ok_iff.mp rest
      exact visited visit fun _ => trivial
  | proceed => exact proceed_apart apart distinct run
  | connect dial =>
    cases run
    exact apart
  | publish id =>
    obtain ⟨_, _, result⟩ := Except.bind_ok_iff.mp run
    cases result
    exact apart
  | send remote blk => exact acquired run
  | look blk => exact acquired run
  | advance send net =>
    obtain ⟨_, _, result⟩ := Except.bind_ok_iff.mp run
    cases result
    exact apart

theorem visiting_avoids (s : Process) (id : Nat) (next : Block → Listener) :
    (s.visiting id next).Avoids Fault.IsMerge :=
  (s.world.deref_avoids id).bind fun _ _ => (s.world.edit_avoids id _).bind fun _ _ => Except.Avoids.ok _

theorem acquire_avoids (s : Process) (found : Option Nat) (stage : Stage) :
    (s.acquire found stage).Avoids Fault.IsMerge := by
  cases found with
  | none => exact Except.Avoids.ok _
  | some id => exact (s.world.edit_avoids id _).bind fun _ _ => Except.Avoids.ok _

theorem receive_avoids (s : Process) (task : Task) (id : Nat) (incoming : Incoming) :
    (s.receive task id incoming).Avoids Fault.IsMerge := by
  refine (s.world.deref_avoids id).bind fun agent _ => ?_
  split
  · exact Except.Avoids.ok _
  · split
    · exact (s.world.processMsgHb_avoids id _).bind fun _ _ => Except.Avoids.ok _
    · simp only []
      split
      · exact Except.Avoids.ok _
      · split
        · exact (s.world.edit_avoids _ _).bind fun _ _ => Except.Avoids.ok _
        · exact (s.world.identify_avoids id _).bind fun _ _ => Except.Avoids.ok _
    · refine Except.Avoids.bind ?_ fun _ _ => Except.Avoids.ok _
      exact (s.world.deref_avoids id).bind fun _ _ => Except.Avoids.ok _

theorem proceed_avoids (apart : s.listener.Apart) : s.proceed.Avoids Fault.IsMerge := by
  unfold proceed
  split
  · exact Except.Avoids.ok _
  · exact (s.world.release_avoids _ _).bind fun _ _ => Except.Avoids.ok _
  · exact (s.world.adopt_avoids _ _).bind fun _ _ => Except.Avoids.ok _
  · refine (s.world.releaseConn_avoids _).bind fun _ _ => ?_
    split
    · exact Except.Avoids.ok _
    · exact Except.Avoids.ok _
  · exact s.receive_avoids _ _ _
  · exact (s.world.mergeSession_avoids _ _ _).bind fun _ _ => Except.Avoids.ok _
  · exact (s.world.release_avoids _ _).bind fun _ _ => Except.Avoids.ok _
  · next duplicate =>
    rw [duplicate] at apart
    rw [if_neg apart]
    exact (s.world.release_avoids _ _).bind fun _ _ => Except.Avoids.ok _
  · exact (s.world.leave_avoids _ _ _).bind fun _ _ => Except.Avoids.ok _

theorem step_avoids (apart : s.listener.Apart) (action : Action) : (s.step action).Avoids Fault.IsMerge := by
  cases action with
  | tick seconds => exact Except.Avoids.ok _
  | selectFails => exact Except.Avoids.ok _
  | accept fd addr =>
    simp only [step]
    split
    · exact (World.adopt_avoids _ _ _).bind fun _ _ => Except.Avoids.ok _
    · exact (World.edit_avoids _ _ _).bind fun _ _ => Except.Avoids.ok _
  | newAgent id hb rpcReady => exact s.visiting_avoids id _
  | visit id hb rpc => exact s.visiting_avoids id _
  | livenessCheck id t => exact s.visiting_avoids id _
  | sendHb id rc =>
    refine (s.world.deref_avoids id).bind fun agent _ => ?_
    split_ifs
    · exact s.visiting_avoids id _
    · exact s.visiting_avoids id _
    · exact (s.world.edit_avoids id _).bind fun _ _ => visiting_avoids _ id _
  | proceed => exact proceed_avoids apart
  | connect dial => exact Except.Avoids.ok _
  | publish id =>
    refine Except.Avoids.bind ?_ fun _ _ => Except.Avoids.ok _
    exact (s.world.deref_avoids id).bind fun _ _ => World.reportPeerReady_avoids _ id _
  | send remote blk => exact s.acquire_avoids _ _
  | look blk => exact s.acquire_avoids _ _
  | advance send net => exact (s.world.advance_avoids send net).bind fun _ _ => Except.Avoids.ok _

/-- Session information that names the block it came in on makes the listener
merge that block with itself. -/
theorem receive_self {task : Task} {id : Nat} {incoming : Incoming} {agent : Block} {message : Message}
    (present : s.world.blocks id = some agent) (admission : incoming.admitted agent.remoteUuid = .ok message)
    (isSession : message.header.type = .sessionInfo) (valid : (Session.read message.body).isValid = true)
    (first : s.world.FirstInbound (Session.read message.body).uuid id) :
    s.receive task id incoming = .ok { s with
      world := s.world.put id agent.acquired
      listener := .merging task id id (Session.read message.body) } := by
  have acquired : s.world.acquireAgentBlk id = .ok (s.world.put id agent.acquired) :=
    World.edit_ok_iff.mpr ⟨agent, present, rfl⟩
  simp only [receive, World.deref_ok_iff.mpr present, bind, Except.bind, admission, isSession, valid,
    World.findAgentByUuidPassive_eq_some_iff.mpr first, acquired]
  rfl

/-- Where the condition fails, the listener aborts in its next steps. -/
theorem run_selfMerge (referenced : s.world.Referenced) (same : ¬s.Distinct .proceed) :
    ∃ id, machine.run s [.proceed, .proceed, .proceed, .proceed] = .error (.selfMerge id) := by
  simp only [Distinct, not_forall, not_not] at same
  obtain ⟨⟨id, agent, message⟩, delivered, isSession, valid, first⟩ := same
  obtain ⟨_, task, incoming, reading, present, admission⟩ := delivery_eq_some_iff.mp delivered
  have held := referenced id agent present
  refine ⟨id, ?_⟩
  have found : s.proceed = .ok { s with
      world := s.world.put id agent.acquired
      listener := .merging task id id (Session.read message.body) } := by
    unfold proceed
    rw [reading]
    exact receive_self present admission isSession valid first
  obtain ⟨merged, merging, known, there, shared⟩ :=
    (s.world.put id agent.acquired).exists_selfMerge World.blocks_put_self (Session.read message.body)
  have released : merged.releaseAgentBlk id false = .ok (merged.put id known.released) := by
    refine World.releaseAgentBlk_of_shared there ?_
    rw [shared]
    change 2 ≤ agent.refCount + 1
    omega
  simp only [machine, Faulting.run, step, found, bind, Except.bind]
  simp only [proceed, merging, bind, Except.bind, released, pure, Except.pure, if_true]

end Process

namespace Process

/-- The first message of a connection is session information with a null uuid. -/
def nameless : List Action :=
  [.accept 5 ⟨0x7f000001, 40001⟩,
    .newAgent 0 (some ((Session.plain (Uuid.filled 0) false).incoming (Uuid.filled 2) .sessionInfo)) false,
    .proceed, .proceed, .proceed, .proceed, .proceed]

/-- A process introduces itself twice on one connection. -/
def repetition : List Action :=
  introduction ++
    [.visit 0 (some ((Session.plain (Uuid.filled 2) false).incoming (Uuid.filled 2) .sessionInfo)) none,
      .proceed, .proceed, .proceed, .proceed]

end Process

end DEFw.Agents
