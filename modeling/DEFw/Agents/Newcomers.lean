import DEFw.Agents.Holders

namespace DEFw.Agents
open Transport (Uuid)

namespace World

variable {w w' : World} {id : Nat}

/-- The block has been given out and is no longer new, as long as it lives. -/
def Settled (w : World) (id : Nat) : Prop :=
  id < w.nextBlock ∧ ∀ agent, w.blocks id = some agent → agent.isNew = false

namespace Settled

/-- Another block changes, or this one without becoming new. -/
theorem touch (settled : w.Settled id) (other : Nat) (nextBlock : w'.nextBlock = w.nextBlock)
    (others : ∀ block, block ≠ other → w'.blocks block = w.blocks block)
    (old : ∀ after, w'.blocks other = some after → ∃ agent, w.blocks other = some agent ∧ after.isNew = agent.isNew) :
    w'.Settled id := by
  refine ⟨nextBlock ▸ settled.1, fun after found => ?_⟩
  by_cases same : id = other
  · subst same
    obtain ⟨agent, before, isNew⟩ := old after found
    exact isNew.trans (settled.2 agent before)
  · rw [others id same] at found
    exact settled.2 after found

theorem put (settled : w.Settled id) {other : Nat} {agent after : Block} (found : w.blocks other = some agent)
    (isNew : after.isNew = agent.isNew) : (w.put other after).Settled id := by
  refine settled.touch other rfl (fun block => blocks_put_of_ne) fun block there => ?_
  rw [blocks_put_self] at there
  cases there
  exact ⟨agent, found, isNew⟩

theorem effect {licence : Licence} (settled : w.Settled id) (effect : Effect licence w w') : w'.Settled id := by
  cases effect with
  | wires _ blocks nextBlock => exact ⟨nextBlock ▸ settled.1, blocks ▸ settled.2⟩
  | edit other agent after found steady =>
    refine ⟨settled.1, fun block there => ?_⟩
    by_cases same : id = other
    · subst same
      rw [blocks_put_self] at there
      cases there
      by_contra isNew
      have before := steady.isNew (by simpa using isNew)
      simp [settled.2 agent found] at before
    · rw [blocks_put_of_ne same] at there
      exact settled.2 block there
  | ready other reason _ run =>
    obtain ⟨agent, found, rfl⟩ := reportPeerReady_ok_iff.mp run
    exact Settled.put (w := w.notify _) settled found (agent.alike_reportPeerReady w.uuid w.clock other reason).isNew
  | hand => exact settled
  | acquire other _ run =>
    obtain ⟨agent, found, rfl⟩ := edit_ok_iff.mp run
    exact settled.put found rfl
  | release other dead _ run =>
    obtain ⟨agent, found, released⟩ := releaseAgentBlk_released run
    refine settled.touch other released.nextBlock_eq (fun block => released.blocks_of_ne) fun after there => ?_
    refine ⟨agent, found, ?_⟩
    rcases released.found_cases there with rfl | rfl
    · rfl
    · obtain ⟨_, _, _, _, same⟩ := w.remains_eq other agent
      rw [same]
      rfl
  | releaseConn other _ run =>
    obtain ⟨agent, found, _, ⟨_, rfl⟩ | ⟨_, rfl⟩⟩ := releaseAgentConn_ok_iff.mp run
    · exact settled.put found rfl
    · exact Settled.touch (w := w) settled other rfl (fun block => blocks_free_of_ne) (by simp)
  | alloc addr add =>
    have known := settled.1
    cases add
    all_goals
      refine ⟨by simp only [allocAgentBlk, Bool.false_eq_true, if_false, if_true, link]; omega, fun agent there => ?_⟩
      have same : (w.put w.nextBlock (Block.fresh addr w.clock)).blocks id = w.blocks id := blocks_put_of_ne (by omega)
      exact settled.2 agent (same.symm.trans there)
  | discard other => exact settled.touch other rfl (fun block => blocks_free_of_ne) (by simp)
  | tell => exact settled

theorem effects {licence : Licence} (settled : w.Settled id) (effects : Effects licence w w') : w'.Settled id := by
  induction effects with
  | refl => exact settled
  | tail _ last ih => exact ih.effect last

end Settled

end World

namespace Listener

/-- The new block that `process_new_agents_helper` works on. -/
def newcomer : Listener → Option Nat
  | greeting id _ _ => some id
  | reading .fresh id _ => some id
  | merging .fresh id _ _ => some id
  | merged .fresh id _ => some id
  | duplicate .fresh id _ => some id
  | leaving .fresh id _ _ => some id
  | _ => none

/-- The block from which `process_connection_agents_helper` reads. -/
def elder : Listener → Option Nat
  | reading (.established _) id _ => some id
  | merging (.established _) id _ _ => some id
  | _ => none

/-- The connection that is about to be moved, the block it goes to and the session
information. -/
def joining : Listener → Option (Nat × Nat × Session)
  | merging _ id existing ses => some (id, existing, ses)
  | _ => none

/-- The listener stores no connection in a block that has one, merges blocks that
are new, and gives up a new block as dead. -/
def Regular : Listener → Prop
  | accepted _ _ => False
  | adopting _ _ => False
  | merged task id existing => task = .fresh ∧ id ≠ existing
  | duplicate task id existing => task = .fresh ∧ id ≠ existing
  | leaving .fresh _ dead _ => dead = true
  | _ => True

theorem newcomer_after {task : Task} {id other : Nat} {rc : DefwRc} (member : other ∈ (after task id rc).newcomer) :
    task = .fresh ∧ rc ≠ .ok ∧ other = id := by
  rcases after_cases task id rc with ⟨_, next⟩ | ⟨fresh, failure, _, next⟩ | ⟨_, _, _, next⟩ | ⟨_, _, _, _, next⟩
  all_goals rw [next] at member
  all_goals try cases member
  exact ⟨fresh, failure, rfl⟩

theorem elder_after {task : Task} {id other : Nat} {rc : DefwRc} (member : other ∈ (after task id rc).elder) :
    other = id ∧ ∃ rest, task = .established rest := by
  rcases after_cases task id rc with ⟨_, next⟩ | ⟨_, _, _, next⟩ | ⟨_, _, _, next⟩ | ⟨_, rest, _, established, next⟩
  all_goals rw [next] at member
  all_goals try cases member
  exact ⟨rfl, rest, established⟩

theorem regular_after (task : Task) (id : Nat) (rc : DefwRc) : (after task id rc).Regular := by
  rcases after_cases task id rc with ⟨_, next⟩ | ⟨_, _, _, next⟩ | ⟨_, _, _, next⟩ | ⟨_, _, _, _, next⟩
  all_goals rw [next]
  all_goals simp [Regular]

end Listener

/-- The two channels of a block. -/
inductive Channel
  | control
  | rpc
  deriving DecidableEq

def Block.slot (agent : Block) : Channel → Option Nat
  | .control => agent.iFileDesc
  | .rpc => agent.iRpcFd

/-- The channel that session information is about. -/
def Session.channel (ses : Session) : Channel := if ses.rpcSetup then .rpc else .control

/-- A connection that is moved to a block is another block, new and without an RPC
channel, and the block is not dead and has no such channel. -/
def World.Joins (w : World) (id existing : Nat) (ses : Session) : Prop :=
  id ≠ existing ∧ (w.blocks id).any (fun agent => agent.isNew && agent.iRpcFd.isNone) ∧
    (w.blocks existing).any (fun known => !known.isDead && (known.slot ses.channel).isNone)

instance (w : World) (id existing : Nat) (ses : Session) : Decidable (w.Joins id existing ses) :=
  inferInstanceAs (Decidable (_ ∧ _ ∧ _))

namespace Process

/-- Nothing is stored where something is stored already. No connection comes from
the address of a block that is alive. Session information reaches the connection
and the block as `World.Joins` says, and the first of a process does not turn a
connection into the RPC channel of a block that has one. Lookups of senders do not
return new blocks, and they open an RPC channel only on a block that is not dead
and has none. -/
def Orderly (s : Process) : Action → Prop
  | .accept _ addr => s.world.findAgentBlkByAddr addr = none
  | .send remote blk => ∀ id ∈ s.world.findAgentByUuidGlobal remote blk, ∀ agent ∈ s.world.blocks id, agent.isNew = false
  | .look blk => ∀ id ∈ s.world.findAgentByBlkUuid blk, ∀ agent ∈ s.world.blocks id, agent.isNew = false
  | .advance send _ => send.stage = .found →
      ∀ agent ∈ s.world.blocks send.block, agent.rpcConnected = false → agent.isDead = false ∧ agent.iRpcFd = none
  | .proceed => (∀ join ∈ s.listener.joining, s.world.Joins join.1 join.2.1 join.2.2) ∧
      ∀ delivered ∈ s.delivery .proceed, delivered.2.2.header.type = .sessionInfo →
        (Session.read delivered.2.2.body).rpcSetup = true →
        s.world.findAgentByUuidPassive (Session.read delivered.2.2.body).uuid = none → delivered.2.1.iRpcFd = none
  | _ => True

instance (s : Process) : (action : Action) → Decidable (s.Orderly action)
  | .accept _ _ => inferInstanceAs (Decidable (_ = _))
  | .send remote blk => inferInstanceAs (Decidable (∀ id ∈ s.world.findAgentByUuidGlobal remote blk,
      ∀ agent ∈ s.world.blocks id, agent.isNew = false))
  | .look blk => inferInstanceAs (Decidable (∀ id ∈ s.world.findAgentByBlkUuid blk,
      ∀ agent ∈ s.world.blocks id, agent.isNew = false))
  | .advance send _ => inferInstanceAs (Decidable (send.stage = .found →
      ∀ agent ∈ s.world.blocks send.block, agent.rpcConnected = false → agent.isDead = false ∧ agent.iRpcFd = none))
  | .proceed => inferInstanceAs (Decidable ((∀ join ∈ s.listener.joining, s.world.Joins join.1 join.2.1 join.2.2) ∧
      ∀ delivered ∈ s.delivery .proceed, delivered.2.2.header.type = .sessionInfo →
        (Session.read delivered.2.2.body).rpcSetup = true →
        s.world.findAgentByUuidPassive (Session.read delivered.2.2.body).uuid = none → delivered.2.1.iRpcFd = none))
  | .tick _ | .selectFails | .newAgent _ _ _ | .visit _ _ _ | .livenessCheck _ _ | .sendHb _ _ | .connect _ | .publish _ =>
    isTrue trivial

/-- Senders hold no new block, and the listener has the one it works on to itself. -/
structure Private (s : Process) : Prop where
  settled : ∀ send ∈ s.sends, s.world.Settled send.block
  elder : ∀ id ∈ s.listener.elder, s.world.Settled id
  newcomer : ∀ id ∈ s.listener.newcomer, id ∈ s.world.table ∧ ∃ agent, s.world.blocks id = some agent ∧ agent.isNew = true
  regular : s.listener.Regular

/-- A step that leaves the listener where it is, and its new block alone. -/
theorem Private.aside {s s' : Process} (private_ : s.Private) (listener : s'.listener = s.listener)
    (settled : ∀ send ∈ s'.sends, s'.world.Settled send.block)
    (keeps : ∀ id, s.world.Settled id → s'.world.Settled id)
    (same : ∀ id agent, id ∈ s.world.table → s.world.blocks id = some agent → agent.isNew = true →
      id ∈ s'.world.table ∧ s'.world.blocks id = some agent) : s'.Private where
  settled := settled
  elder := by
    rw [listener]
    exact fun id member => keeps id (private_.elder id member)
  newcomer := by
    rw [listener]
    intro id member
    obtain ⟨listed, agent, found, isNew⟩ := private_.newcomer id member
    obtain ⟨still, there⟩ := same id agent listed found isNew
    exact ⟨still, agent, there, isNew⟩
  regular := listener ▸ private_.regular

/-- A step of the listener. -/
theorem Private.moves {s s' : Process} (private_ : s.Private) (sends : s'.sends = s.sends)
    (keeps : ∀ id, s.world.Settled id → s'.world.Settled id) (elder : ∀ id ∈ s'.listener.elder, s'.world.Settled id)
    (newcomer : ∀ id ∈ s'.listener.newcomer, id ∈ s'.world.table ∧
      ∃ agent, s'.world.blocks id = some agent ∧ agent.isNew = true)
    (regular : s'.listener.Regular) : s'.Private where
  settled := by
    rw [sends]
    exact fun send member => keeps _ (private_.settled send member)
  elder := elder
  newcomer := newcomer
  regular := regular

theorem nobody {holds : Nat → Prop} (id : Nat) (member : id ∈ (none : Option Nat)) : holds id := by
  cases member

namespace Private

variable {s s' : Process} (private_ : s.Private)

include private_

/-- The block of a sender is not one that is new. -/
theorem ne_of_isNew {send : Send} (member : send ∈ s.sends) {id : Nat} {agent : Block} (found : s.world.blocks id = some agent)
    (isNew : agent.isNew = true) : id ≠ send.block := by
  rintro rfl
  have old := (private_.settled send member).2 agent found
  simp [old] at isNew

/-- A sender goes on with the block that it holds. -/
theorem advance {send : Send} (member : send ∈ s.sends) (keeps : ∀ id, s.world.Settled id → s'.world.Settled id)
    (frame : World.Frame s.world send.block s'.world) (listener : s'.listener = s.listener)
    (sends : ∀ other ∈ s'.sends, other ∈ s.sends ∨ other.block = send.block) : s'.Private := by
  refine private_.aside listener (fun other inside => ?_) keeps fun id agent listed found isNew => ?_
  · rcases sends other inside with before | same
    · exact keeps _ (private_.settled other before)
    · rw [same]
      exact keeps _ (private_.settled send member)
  · have different := private_.ne_of_isNew member found isNew
    exact ⟨(frame.table_of_ne id different).mpr listed, (frame.blocks_of_ne id different).trans found⟩

/-- The listener is done with a message. -/
theorem processed {task : Task} {id : Nat} {incoming : Incoming} (place : s.listener = .reading task id incoming)
    {w : World} (keeps : ∀ id, s.world.Settled id → w.Settled id) (rc : DefwRc)
    (same : rc ≠ .ok → ∀ agent, s.world.blocks id = some agent → ∃ after, w.blocks id = some after ∧ after.isNew = agent.isNew)
    (table : rc ≠ .ok → w.table = s.world.table) : Private { s with world := w, listener := .after task id rc } := by
  refine private_.moves rfl keeps (fun other member => ?_) (fun other member => ?_) (Listener.regular_after task id rc)
  · obtain ⟨rfl, rest, rfl⟩ := Listener.elder_after member
    exact keeps _ (private_.elder other (by rw [place]; rfl))
  · obtain ⟨rfl, failure, rfl⟩ := Listener.newcomer_after member
    obtain ⟨listed, agent, found, isNew⟩ := private_.newcomer other (by rw [place]; rfl)
    obtain ⟨after, there, kept⟩ := same failure agent found
    exact ⟨by simpa only [table failure] using listed, after, there, kept.trans isNew⟩

/-- One step. -/
theorem step (accounted : s.Accounted) {action : Action} (enabled : s.Enabled action) (orderly : s.Orderly action)
    (keeps : ∀ id, s.world.Settled id → s'.world.Settled id) (took : Took s action s') : s'.Private := by
  have moved {send : Send} {next : Stage} :
      ∀ other ∈ { send with stage := next } :: s.sends.erase send, other ∈ s.sends ∨ other.block = send.block := by
    intro other member
    rcases List.mem_cons.mp member with rfl | before
    · exact .inr rfl
    · exact .inl (List.mem_of_mem_erase before)
  cases took with
  | tick seconds =>
    exact private_.aside rfl (fun send member => keeps _ (private_.settled send member)) keeps
      fun id agent listed found _ => ⟨listed, found⟩
  | selectFails =>
    exact private_.aside rfl (fun send member => keeps _ (private_.settled send member)) keeps
      fun id agent listed found _ => ⟨listed, found⟩
  | acceptNew fd addr =>
    refine private_.aside rfl (fun send member => keeps _ (private_.settled send member)) keeps
      fun id agent listed found _ => ⟨List.mem_append_left _ listed, ?_⟩
    have different : id ≠ s.world.nextBlock := fun same => accounted.nextBlock_not_mem (same ▸ listed)
    exact (if_neg different).trans ((if_neg different).trans found)
  | acceptKnown fd addr id agent known found =>
    have unknown : s.world.findAgentBlkByAddr addr = none := orderly
    rw [unknown] at known
    cases known
  | visited _ id agent touched found touch next begins guard greeting =>
    have isNew : touched.isNew = agent.isNew := by
      rcases touch with rfl | rfl <;> rfl
    cases begins with
    | greeting hb rpcReady =>
      refine private_.moves rfl keeps nobody (fun other member => ?_) trivial
      cases member
      exact ⟨(guard enabled).2, touched.acquired, World.blocks_put_self, isNew.trans (greeting enabled hb rpcReady rfl)⟩
    | reading messages known =>
      cases messages with
      | nil => exact private_.moves rfl keeps nobody nobody trivial
      | cons incoming rest =>
        refine private_.moves rfl keeps (fun other member => ?_) nobody trivial
        cases member
        refine keeps id ⟨accounted.born found, fun block there => ?_⟩
        rw [found] at there
        cases there
        exact known (List.cons_ne_nil _ _)
    | leaving => exact private_.moves rfl keeps nobody nobody trivial
  | rested => exact private_
  | returned id fd place =>
    have regular := private_.regular
    rw [place] at regular
    exact regular.elim
  | adopted id fd place =>
    have regular := private_.regular
    rw [place] at regular
    exact regular.elim
  | greeted id hb rpcReady place w' run next greets =>
    obtain ⟨listed, agent, found, isNew⟩ := private_.newcomer id (by rw [place]; rfl)
    have shared : 2 ≤ agent.refCount := by
      have count := ((accounted.counted id trivial (accounted.not_dialled_of_mem listed)).listed listed agent found).2
      have own : 1 ≤ s.held id := by
        rw [held_eq, place]
        simp [Listener.holds]
      omega
    obtain ⟨same, there, _, ⟨_, rfl⟩ | ⟨last, _⟩⟩ := World.releaseAgentConn_ok_iff.mp run
    · rw [found] at there
      cases there
      have after : id ∈ s.world.table ∧ ∃ after, (s.world.put id agent.released).blocks id = some after ∧ after.isNew = true :=
        ⟨listed, agent.released, World.blocks_put_self, isNew⟩
      cases greets with
      | reading incoming =>
        refine private_.moves rfl keeps nobody (fun other member => ?_) trivial
        cases member
        exact after
      | leaving reason =>
        refine private_.moves rfl keeps nobody (fun other member => ?_) rfl
        cases member
        exact after
      | idle => exact private_.moves rfl keeps nobody nobody trivial
    · rw [found] at there
      cases there
      omega
  | refused task id incoming place rc =>
    exact private_.processed place keeps rc (fun _ agent found => ⟨agent, found, rfl⟩) fun _ => rfl
  | heard task id incoming place agent found hb =>
    exact private_.processed place keeps .ok (absurd rfl) (absurd rfl)
  | identified task id incoming place =>
    exact private_.processed place keeps .ok (absurd rfl) (absurd rfl)
  | matched task id incoming place agent message delivered isSession valid existing known matching there =>
    refine private_.moves rfl keeps (fun other member => ?_) (fun other member => ?_) trivial
    · cases task with
      | fresh => cases member
      | established rest =>
        cases member
        exact keeps _ (private_.elder id (by rw [place]; rfl))
    · cases task with
      | fresh =>
        cases member
        obtain ⟨listed, block, found, isNew⟩ := private_.newcomer id (by rw [place]; rfl)
        refine ⟨listed, ?_⟩
        by_cases same : id = existing
        · subst same
          rw [found] at there
          cases there
          exact ⟨_, World.blocks_put_self, isNew⟩
        · exact ⟨block, (World.blocks_put_of_ne same).trans found, isNew⟩
      | established rest => cases member
  | served task id incoming place agent found message rc =>
    refine private_.processed place keeps rc (fun _ block there => ?_) fun _ => rfl
    rw [found] at there
    cases there
    refine ⟨_, World.blocks_put_self, ?_⟩
    split <;> rfl
  | merged task id existing ses place agent known found there =>
    obtain ⟨apart, bare, _⟩ := orderly.1 (id, existing, ses) (by rw [place]; rfl)
    have isNew : agent.isNew = true := by
      rw [found] at bare
      simp only [Option.any_some, Bool.and_eq_true] at bare
      exact bare.1
    cases task with
    | fresh =>
      refine private_.moves rfl keeps nobody (fun other member => ?_) ⟨rfl, apart⟩
      cases member
      obtain ⟨listed, _⟩ := private_.newcomer id (by rw [place]; rfl)
      obtain ⟨_, _, _, resumed⟩ := s.world.listenerResumeFd_eq (World.resumed known ses)
      rw [World.mergedInto, resumed]
      exact ⟨listed, agent, (World.blocks_put_of_ne apart).trans found, isNew⟩
    | established rest =>
      have old := (private_.elder id (by rw [place]; rfl)).2 agent found
      simp [old] at isNew
  | matchReturned task id existing place w' run =>
    have regular := private_.regular
    rw [place] at regular
    obtain ⟨rfl, apart⟩ := regular
    refine private_.moves rfl keeps nobody (fun other member => ?_) ⟨rfl, apart⟩
    cases member
    obtain ⟨listed, agent, found, isNew⟩ := private_.newcomer id (by rw [place]; rfl)
    have frame := World.releaseAgentBlk_frame run
    exact ⟨(frame.table_of_ne id apart).mpr listed, agent, (frame.blocks_of_ne id apart).trans found, isNew⟩
  | dropped task id existing place apart w' run =>
    have regular := private_.regular
    rw [place] at regular
    obtain ⟨rfl, _⟩ := regular
    exact private_.moves rfl keeps nobody nobody trivial
  | left => exact private_.moves rfl keeps nobody nobody trivial
  | dialled dial w' result dialled =>
    refine private_.aside rfl (fun send member => keeps _ (private_.settled send member)) keeps
      fun id agent listed found _ => ⟨dialled.table_eq ▸ listed, ?_⟩
    have different : id ≠ s.world.nextBlock := fun same => accounted.nextBlock_not_mem (same ▸ listed)
    exact (dialled.blocks_of_ne different).trans found
  | published id agent found reported report =>
    refine private_.aside rfl (fun send member => keeps _ (private_.settled send member)) keeps
      fun other block listed there _ => ⟨List.mem_append_left _ listed, ?_⟩
    have different : other ≠ id := by
      rintro rfl
      exact (accounted.own other enabled).1 listed
    exact (World.blocks_put_of_ne different).trans there
  | missed => exact private_
  | acquired action id lookup agent found stage =>
    have isOld : agent.isNew = false := by
      cases action with
      | send remote blk => exact orderly id lookup agent found
      | look blk => exact orderly id lookup agent found
      | _ => cases lookup
    refine private_.aside rfl (fun send member => ?_) keeps fun other block listed there isNew => ⟨listed, ?_⟩
    · rcases List.mem_cons.mp member with rfl | before
      · refine keeps id ⟨accounted.born found, fun block there => ?_⟩
        rw [found] at there
        cases there
        exact isOld
      · exact keeps _ (private_.settled send before)
    · have different : other ≠ id := by
        rintro rfl
        rw [found] at there
        cases there
        simp [isOld] at isNew
      exact (World.blocks_put_of_ne different).trans there
  | sent send net next => exact private_.advance enabled.1 keeps (.refl s.world send.block) rfl moved
  | unplugged send net _ agent =>
    exact private_.advance enabled.1 keeps (.of_put (agent.plugRpc none) rfl rfl rfl) rfl moved
  | opened send net _ agent _ _ fd _ flag =>
    exact private_.advance enabled.1 keeps (.of_put ((agent.plugRpc (some fd)).rpcFlagged flag) rfl rfl rfl) rfl moved
  | worked send net agent _ flag =>
    exact private_.advance enabled.1 keeps (.of_put (agent.working flag) rfl rfl rfl) rfl moved
  | released send net dead _ w' run =>
    exact private_.advance enabled.1 keeps (World.releaseAgentBlk_frame run) rfl fun other member =>
      .inl (List.mem_of_mem_erase member)

/-- The listener releases the reference of the table on a block that it has to itself. -/
theorem exclusive {action : Action} : s.Exclusive action := by
  intro id member
  cases action with
  | proceed =>
    have alone (fresh : id ∈ s.listener.newcomer) (unheld : s.listener.holds = []) : s.held id = 0 := by
      obtain ⟨_, agent, found, isNew⟩ := private_.newcomer id fresh
      rw [held_eq, unheld, List.count_nil, zero_add, List.count_eq_zero]
      intro sending
      obtain ⟨send, inside, same⟩ := List.mem_map.mp sending
      exact private_.ne_of_isNew inside found isNew same.symm
    have regular := private_.regular
    simp only [tableRelease] at member
    split at member
    · next place =>
      cases member
      exact alone (by rw [place]; rfl) (by rw [place]; rfl)
    · next place =>
      cases member
      rw [place] at regular
      obtain ⟨rfl, _⟩ := regular
      exact alone (by rw [place]; rfl) (by rw [place]; rfl)
    · cases member
  | _ => cases member

end Private

theorem private_start (uuid : Uuid) (clock listenFd : Nat) : (start uuid clock listenFd).Private where
  settled := nofun
  elder := nofun
  newcomer := nofun
  regular := trivial

end Process

end DEFw.Agents
