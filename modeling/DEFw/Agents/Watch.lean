import DEFw.Agents.Custody
import DEFw.Lib.Polling

namespace DEFw.Agents
open Transport (Uuid)

namespace World

theorem le_calculateHighestFd (agents : List Block) (iMaxFd : Int) : iMaxFd ≤ calculateHighestFd agents iMaxFd := by
  induction agents generalizing iMaxFd with
  | nil => exact le_rfl
  | cons agent rest ih =>
    refine le_trans ?_ (ih _)
    simp only []
    split_ifs <;> omega

theorem fd_le_calculateHighestFd {agents : List Block} {agent : Block} (member : agent ∈ agents) {fd : Nat}
    (stored : fd ∈ agent.fds) (iMaxFd : Int) : (fd : Int) ≤ calculateHighestFd agents iMaxFd := by
  induction agents generalizing iMaxFd with
  | nil => cases member
  | cons first rest ih =>
    rcases List.mem_cons.mp member with rfl | later
    · refine le_trans ?_ (le_calculateHighestFd rest _)
      rcases Block.mem_fds.mp stored with control | rpc
      · simp only [control, slotValue]
        split_ifs <;> omega
      · simp only [rpc, slotValue]
        split_ifs <;> omega
    · exact ih later _

theorem fd_le_agentGetHighestFd {w : World} {id : Nat} {agent : Block} (member : id ∈ w.table)
    (found : w.blocks id = some agent) {fd : Nat} (stored : fd ∈ agent.fds) : (fd : Int) ≤ w.agentGetHighestFd :=
  fd_le_calculateHighestFd (List.mem_filterMap.mpr ⟨id, member, found⟩) stored (-1)

theorem agentGetHighestFd_le (w : World) : w.agentGetHighestFd ≤ w.getHighestFd := by
  unfold getHighestFd
  split <;> omega

theorem listenFd_le (w : World) : (w.listenFd : Int) ≤ w.getHighestFd := by
  unfold getHighestFd
  split <;> omega

end World

namespace Process

/-- Another block of the table has a descriptor that is not below the listen
descriptor. -/
def Backed (s : Process) (id : Nat) : Prop :=
  ∃ other ∈ s.world.table, other ≠ id ∧ ∃ agent ∈ s.world.blocks other, ∃ fd ∈ agent.fds, s.world.listenFd ≤ fd

instance (s : Process) (id : Nat) : Decidable (s.Backed id) :=
  inferInstanceAs (Decidable (∃ other ∈ s.world.table, other ≠ id ∧ ∃ agent ∈ s.world.blocks other,
    ∃ fd ∈ agent.fds, s.world.listenFd ≤ fd))

/-- `select` does not fail, `defw_send` opens no channel, and where channels are
closed another block keeps the maximum up. -/
def Watchful (s : Process) (action : Action) : Prop :=
  (∀ id ∈ s.ending action, s.Backed id) ∧
    match action with
    | .selectFails => False
    | .advance send net => send.stage = .found →
        ∀ agent ∈ s.world.blocks send.block, agent.rpcConnected = false → net.fd = none
    | .connect dial => dial.Fails → s.Backed s.world.nextBlock
    | _ => True

instance (s : Process) : (action : Action) → Decidable (s.Watchful action)
  | .selectFails => inferInstanceAs (Decidable (_ ∧ False))
  | .advance send net => inferInstanceAs (Decidable (_ ∧ (send.stage = .found →
      ∀ agent ∈ s.world.blocks send.block, agent.rpcConnected = false → net.fd = none)))
  | .connect dial => inferInstanceAs (Decidable (_ ∧ (dial.Fails → s.Backed s.world.nextBlock)))
  | .tick _ | .accept _ _ | .newAgent _ _ _ | .visit _ _ _ | .livenessCheck _ _ | .sendHb _ _ | .proceed
  | .publish _ | .send _ _ | .look _ => inferInstanceAs (Decidable (_ ∧ True))

/-- A descriptor of a block in the table. -/
def Tabled (s : Process) (fd : Nat) : Prop := ∃ place, place.1 ∈ s.world.table ∧ s.slots place = some fd

/-- The listener waits on what it has to, and its own descriptor is nobody else's. -/
structure Watch (s : Process) : Prop where
  polling : Polling s.world.listenFd s.Tabled s.world.allSet s.world.suspended s.world.maxSelectFd
  apart : s.world.listenFd ∉ s.world.opened

variable {s s' : Process}

theorem slots_found {place : Nat × Channel} {fd : Nat} (stored : s.slots place = some fd) :
    ∃ agent, s.world.blocks place.1 = some agent ∧ fd ∈ agent.fds := by
  unfold slots at stored
  split at stored
  · cases stored
  · obtain ⟨agent, found, slot⟩ := Option.bind_eq_some_iff.mp stored
    exact ⟨agent, found, Block.mem_fds_iff_slot.mpr ⟨_, slot⟩⟩

theorem Tabled.le {fd : Nat} (tabled : s.Tabled fd) : (fd : Int) ≤ s.world.agentGetHighestFd := by
  obtain ⟨place, listed, stored⟩ := tabled
  obtain ⟨agent, found, member⟩ := slots_found stored
  exact World.fd_le_agentGetHighestFd listed found member

theorem tabled_congr (slots : ∀ place, s'.slots place = s.slots place) (table : s'.world.table = s.world.table) (fd : Nat) :
    s'.Tabled fd ↔ s.Tabled fd := by
  simp only [Tabled, slots, table]

namespace Watch

variable (watch : s.Watch)

include watch

/-- The same descriptors are stored and waited on. -/
theorem still (slots : ∀ place, s'.slots place = s.slots place) (table : s'.world.table = s.world.table)
    (listenFd : s'.world.listenFd = s.world.listenFd) (allSet : s'.world.allSet = s.world.allSet)
    (suspended : s'.world.suspended = s.world.suspended) (maxSelectFd : s'.world.maxSelectFd = s.world.maxSelectFd)
    (opened : s'.world.opened = s.world.opened) : s'.Watch where
  polling := by
    rw [listenFd, allSet, suspended, maxSelectFd]
    exact watch.polling.congr (tabled_congr slots table)
  apart := by
    rw [listenFd, opened]
    exact watch.apart

/-- The channels of a block are closed as it leaves the table. -/
theorem shed (custody : s.Custody) (nodup : s.world.table.Nodup) {id : Nat} {agent : Block}
    (found : s.world.blocks id = some agent) (kept : s.listener.giving ≠ some id)
    (others : ∀ other, other ≠ id → s'.world.blocks other = s.world.blocks other)
    (giving : s'.listener.giving = s.listener.giving) (table : s'.world.table = s.world.table.erase id)
    (listenFd : s'.world.listenFd = s.world.listenFd) (allSet : s'.world.allSet = s.world.allSet \ agent.fds)
    (suspended : s'.world.suspended = s.world.suspended \ agent.fds) (opened : s'.world.opened = s.world.opened \ agent.fds)
    (highest : s'.world.maxSelectFd = (s.world.unlink id).highestWithout agent) (backed : s.Backed id) : s'.Watch := by
  have mine {fd : Nat} (member : fd ∈ agent.fds) : ∃ channel, s.slots (id, channel) = some fd := by
    obtain ⟨channel, slot⟩ := Block.mem_fds_iff_slot.mp member
    exact ⟨channel, (slots_of_found kept found channel).trans slot⟩
  have elsewhere {place : Nat × Channel} (listed : place.1 ∈ s.world.table.erase id) : place.1 ≠ id := by
    intro same
    exact nodup.not_mem_erase (same ▸ listed)
  have fewer (fd : Nat) : s'.Tabled fd ↔ s.Tabled fd ∧ fd ∉ agent.fds := by
    simp only [Tabled, table]
    constructor
    · rintro ⟨place, listed, stored⟩
      have different := elsewhere listed
      rw [slots_of_blocks giving (others place.1 different)] at stored
      refine ⟨⟨place, List.mem_of_mem_erase listed, stored⟩, fun member => ?_⟩
      obtain ⟨channel, own⟩ := mine member
      exact different (by rw [custody.owned.unique place (id, channel) fd stored own])
    · rintro ⟨⟨place, listed, stored⟩, kept⟩
      have different : place.1 ≠ id := by
        intro same
        obtain ⟨block, there, member⟩ := slots_found stored
        rw [same, found] at there
        cases there
        exact kept member
      refine ⟨place, (List.mem_erase_of_ne different).mpr listed, ?_⟩
      rw [slots_of_blocks giving (others place.1 different)]
      exact stored
  constructor
  · rw [listenFd, allSet, suspended]
    refine watch.polling.close agent.fds (fun member => ?_) fewer ?_
    · obtain ⟨channel, own⟩ := mine member
      exact watch.apart (custody.owned.known _ _ own)
    · rw [highest, World.highestWithout]
      by_cases none : agent.fds = ∅
      · rw [if_pos none]
        exact .inl rfl
      · rw [if_neg none]
        refine .inr ⟨?_, fun fd tabled => ?_⟩
        · obtain ⟨other, listed, different, block, there, fd, member, above⟩ := backed
          have bound := World.fd_le_agentGetHighestFd (w := s.world.unlink id)
            ((List.mem_erase_of_ne different).mpr listed) there member
          omega
        · obtain ⟨place, listed, stored⟩ := tabled
          rw [table] at listed
          obtain ⟨block, there, member⟩ := slots_found stored
          rw [others place.1 (elsewhere listed)] at there
          exact World.fd_le_agentGetHighestFd (w := s.world.unlink id) listed there member
  · rw [listenFd, opened]
    exact fun member => watch.apart (Finset.mem_sdiff.mp member).1

/-- A block is released, unless it is new and goes without being closed. -/
theorem release (custody : s.Custody) (nodup : s.world.table.Nodup) {id : Nat} {dead : Bool} {w : World}
    (run : s.world.releaseAgentBlk id dead = .ok w) (world : s'.world = w) (kept : s.listener.giving ≠ some id)
    (giving : s'.listener.giving = s.listener.giving)
    (closes : ∀ agent, s.world.blocks id = some agent → agent.refCount = 1 → agent.isDead = false → dead = true)
    (backed : dead = true → s.Backed id) : s'.Watch := by
  obtain ⟨agent, found, released⟩ := World.releaseAgentBlk_released run
  have others : ∀ other, other ≠ id → s'.world.blocks other = s.world.blocks other := by
    rw [world]
    exact fun other => released.blocks_of_ne
  have erased : id ∉ (s.world.unlink id).table := nodup.not_mem_erase
  cases released with
  | kept =>
    refine watch.still (slots_edit found agent.released (fun _ => rfl) ?_ giving) ?_ ?_ ?_ ?_ ?_ ?_
    all_goals rw [world]
    all_goals rfl
  | removed last isDead =>
    have gone : s'.world.blocks id = none := by
      rw [world]
      exact World.blocks_free_self
    refine watch.still (fun place => ?_) ?_ ?_ ?_ ?_ ?_ ?_
    · by_cases same : place.1 = id
      · obtain ⟨block, channel⟩ := place
        change block = id at same
        subst same
        rw [slots_of_gone gone, slots_of_found kept found]
        exact (Block.slot_eq_none_of_fds (custody.dead block agent found isDead) channel).symm
      · exact slots_of_blocks giving (others place.1 same)
    all_goals
      rw [world]
      rfl
  | dropped last notDead _ _ calm =>
    have isGone := closes agent found last notDead
    simp [calm] at isGone
  | retired last notDead idle ends highest max =>
    have isGone := closes agent found last notDead
    refine watch.shed custody nodup found kept others giving ?_ ?_ ?_ ?_ ?_ ?_ (backed isGone)
    all_goals rw [world]
    any_goals rfl
    exact max erased
  | buried shared notDead isGone highest max =>
    refine watch.shed custody nodup found kept others giving ?_ ?_ ?_ ?_ ?_ ?_ (backed isGone)
    all_goals rw [world]
    any_goals rfl
    exact max erased
  | buriedFreed last notDead isGone highest max =>
    refine watch.shed custody nodup found kept others giving ?_ ?_ ?_ ?_ ?_ ?_ (backed isGone)
    all_goals rw [world]
    any_goals rfl
    exact max erased

theorem leave (custody : s.Custody) (nodup : s.world.table.Nodup) {id : Nat} {dead : Bool} {reason : Option String} {w : World}
    (run : s.world.leave id dead reason = .ok w) (world : s'.world = w) (kept : s.listener.giving ≠ some id)
    (giving : s'.listener.giving = s.listener.giving)
    (closes : ∀ agent, s.world.blocks id = some agent → agent.refCount = 1 → agent.isDead = false → dead = true)
    (backed : dead = true → s.Backed id) : s'.Watch := by
  cases reason with
  | none => exact watch.release custody nodup run world kept giving closes backed
  | some reason =>
    obtain ⟨marked, edited, released⟩ := Except.bind_ok_iff.mp run
    obtain ⟨agent, found, rfl⟩ := World.edit_ok_iff.mp edited
    have failing : Watch { s with world := s.world.put id (agent.failing reason) } :=
      watch.still (slots_edit found (agent.failing reason) (fun _ => rfl) rfl rfl) rfl rfl rfl rfl rfl rfl
    have stored : Custody { s with world := s.world.put id (agent.failing reason) } :=
      custody.edit found (agent.failing reason) rfl rfl rfl rfl rfl rfl
    refine failing.release stored nodup released world kept giving (fun block there => ?_) fun isGone => ?_
    · rw [World.blocks_put_self] at there
      cases there
      exact closes agent found
    · obtain ⟨other, listed, different, block, there, above⟩ := backed isGone
      exact ⟨other, listed, different, block, (World.blocks_put_of_ne different).trans there, above⟩

/-- A block with its descriptors goes in the table. -/
theorem link (id : Nat) (agent : Block) (fresh : id ∉ s.world.table) (there : s'.world.blocks id = some agent)
    (others : ∀ other, other ≠ id → s'.world.blocks other = s.world.blocks other)
    (giving : s'.listener.giving = s.listener.giving) (kept : s.listener.giving ≠ some id)
    (table : s'.world.table = s.world.table ++ [id]) (listenFd : s'.world.listenFd = s.world.listenFd)
    (allSet : s'.world.allSet = s.world.allSet ∪ agent.fds) (suspended : s'.world.suspended = s.world.suspended)
    (opened : s'.world.listenFd ∉ s'.world.opened) (above : (s'.world.listenFd : Int) ≤ s'.world.maxSelectFd)
    (bound : ∀ fd, s'.Tabled fd → (fd : Int) ≤ s'.world.maxSelectFd) : s'.Watch := by
  have here := slots_of_found (giving ▸ kept) there
  have more (fd : Nat) : s'.Tabled fd ↔ s.Tabled fd ∨ fd ∈ agent.fds := by
    simp only [Tabled, table, List.mem_append, List.mem_singleton]
    constructor
    · rintro ⟨⟨block, channel⟩, listed | same, stored⟩
      · have different : block ≠ id := fun same => fresh (same ▸ listed)
        rw [slots_of_blocks giving (others block different)] at stored
        exact .inl ⟨(block, channel), listed, stored⟩
      · change block = id at same
        subst same
        exact .inr (Block.mem_fds_iff_slot.mpr ⟨channel, (here channel).symm.trans stored⟩)
    · rintro (⟨⟨block, channel⟩, listed, stored⟩ | member)
      · have different : block ≠ id := fun same => fresh (same ▸ listed)
        exact ⟨(block, channel), .inl listed, (slots_of_blocks giving (others block different)).trans stored⟩
      · obtain ⟨channel, slot⟩ := Block.mem_fds_iff_slot.mp member
        exact ⟨(id, channel), .inr rfl, (here channel).trans slot⟩
  refine ⟨?_, opened⟩
  rw [listenFd, allSet, suspended]
  exact watch.polling.add agent.fds more (listenFd ▸ above) bound

end Watch

/-- A descriptor is moved from one slot to another of blocks in the table. -/
theorem Moves.tabled_iff {source target : Nat × Channel} (moves : Moves s s' source target)
    (listed : source.1 ∈ s.world.table ↔ target.1 ∈ s.world.table) (table : s'.world.table = s.world.table) (fd : Nat) :
    s'.Tabled fd ↔ s.Tabled fd := by
  simp only [Tabled, table]
  constructor
  · rintro ⟨place, member, stored⟩
    by_cases atSource : place = source
    · rw [atSource, moves.left] at stored
      cases stored
    · by_cases atTarget : place = target
      · rw [atTarget, moves.moved] at stored
        rw [atTarget] at member
        exact ⟨source, listed.mpr member, stored⟩
      · exact ⟨place, member, moves.others place atSource atTarget ▸ stored⟩
  · rintro ⟨place, member, stored⟩
    by_cases atTarget : place = target
    · rw [atTarget, moves.empty] at stored
      cases stored
    · by_cases atSource : place = source
      · rw [atSource] at stored member
        exact ⟨target, listed.mp member, moves.moved.trans stored⟩
      · exact ⟨place, member, (moves.others place atSource atTarget).trans stored⟩

/-- The block whose connection was moved goes. -/
theorem tabled_drop {id : Nat} (giving : s.listener.giving = some id) (after : s'.listener.giving = none)
    (blocks : s'.world.blocks = (s.world.freeAgentBlk id).blocks) (table : s'.world.table = s.world.table.erase id) (fd : Nat) :
    s'.Tabled fd ↔ s.Tabled fd := by
  simp only [Tabled, table]
  refine exists_congr fun place => ?_
  obtain ⟨block, channel⟩ := place
  by_cases same : block = id
  · subst same
    have before : s.slots (block, channel) = none := by rw [slots, if_pos giving]
    have gone : s'.slots (block, channel) = none := slots_of_gone (by rw [blocks, World.blocks_free_self]) channel
    simp [before, gone]
  · have stored : s'.slots (block, channel) = s.slots (block, channel) := by
      rw [slots, slots, after, giving, if_neg (by simp), if_neg (by simpa [eq_comm] using same), World.slots, World.slots, blocks,
        World.blocks_free_of_ne same]
    rw [stored]
    exact and_congr_left fun _ => List.mem_erase_of_ne same

namespace Watch

variable (watch : s.Watch)

include watch

/-- A message changes a block and leaves its descriptors. -/
theorem processed {task : Task} {id : Nat} {incoming : Incoming} (place : s.listener = .reading task id incoming)
    {agent : Block} (found : s.world.blocks id = some agent) (after : Block)
    (same : ∀ channel, after.slot channel = agent.slot channel)
    (notices : List Notice) (rc : DefwRc) :
    Watch { s with world := (s.world.notify notices).put id after, listener := .after task id rc } := by
  refine watch.still (slots_edit found after same rfl ?_) rfl rfl rfl rfl rfl rfl
  rw [Listener.giving_after, place]
  rfl

/-- A descriptor is resumed and the same descriptors are stored. -/
theorem resumed (slot : Option Nat) (tabled : ∀ fd, s'.Tabled fd ↔ s.Tabled fd) (stored : ∀ fd ∈ slot, s.Tabled fd)
    (listenFd : s'.world.listenFd = s.world.listenFd) (opened : s'.world.opened = s.world.opened)
    (allSet : s'.world.allSet = (s.world.listenerResumeFd slot).allSet)
    (suspended : s'.world.suspended = (s.world.listenerResumeFd slot).suspended)
    (highest : s'.world.maxSelectFd = (s.world.listenerResumeFd slot).maxSelectFd) : s'.Watch := by
  refine ⟨?_, ?_⟩
  · rw [listenFd, allSet, suspended, highest]
    cases slot with
    | none => exact watch.polling.congr tabled
    | some fd => exact (watch.polling.resume (stored fd rfl)).congr tabled
  · rw [listenFd, opened]
    exact watch.apart

/-- What a connect thread does before its block is in the table. -/
theorem connected (kept : s.Kept) {dial : Dial} {req : ConnectReq} {w : World} {result : Option Nat}
    (dialled : s.world.Dialled req dial (w, result)) (enabled : s.Enabled (.connect dial))
    (backed : dial.Fails → s.Backed s.world.nextBlock) (world : s'.world = w) (listener : s'.listener = s.listener) :
    s'.Watch := by
  have unknown := kept.accounted.nextBlock_not_mem
  have giving : s'.listener.giving = s.listener.giving := by rw [listener]
  have tabled (fd : Nat) : s'.Tabled fd ↔ s.Tabled fd := by
    have table : s'.world.table = s.world.table := by rw [world, dialled.table_eq]
    have others (place : Nat × Channel) (listed : place.1 ∈ s.world.table) : s'.slots place = s.slots place := by
      refine slots_of_blocks giving ?_
      rw [world]
      exact dialled.blocks_of_ne fun same => unknown (same ▸ listed)
    simp only [Tabled, table]
    exact exists_congr fun place => and_congr_right fun listed => by rw [others place listed]
  cases dialled with
  | refused =>
    refine ⟨?_, ?_⟩
    · rw [world]
      exact watch.polling.congr tabled
    · rw [world]
      exact watch.apart
  | ended addr fds rc within untrue fails highest max =>
    have unused {fd : Nat} (member : fd ∈ fds) : s.Unused fd := by
      have dialFd := within member
      simp only [Finset.mem_union, Option.mem_toFinset] at dialFd
      rcases dialFd with control | rpc
      · exact enabled.1 fd control
      · exact (enabled.2 fd rpc).1
    have same {id : Nat} (listed : id ∈ s.world.table) : (s.world.calling addr dial req).blocks id = s.world.blocks id :=
      World.blocks_calling_of_ne addr fun equal => unknown (equal ▸ listed)
    have fields : s'.world.listenFd = s.world.listenFd ∧ s'.world.allSet = s.world.allSet \ fds ∧
        s'.world.suspended = s.world.suspended \ fds ∧ s'.world.maxSelectFd = highest ∧
        s'.world.opened = (fds ∪ s.world.opened) \ fds := by
      rw [world]
      simp only [World.failConnect, World.notify, World.freeAgentBlk, World.shed, World.opening, World.listenFd_calling,
        World.allSet_calling, World.suspended_calling, World.opened_calling, and_self]
    obtain ⟨listenFd, allSet, suspended, highestFd, opened⟩ := fields
    refine ⟨?_, ?_⟩
    · rw [listenFd, allSet, suspended, highestFd]
      refine watch.polling.close fds (fun member => (unused member).2 rfl) (fun fd => ?_) ?_
      · rw [tabled fd]
        refine ⟨fun stored => ⟨stored, fun member => ?_⟩, And.left⟩
        obtain ⟨place, _, there⟩ := stored
        exact (unused member).1 (kept.custody.owned.known place fd there)
      · by_cases none : fds = ∅
        · rw [if_pos none] at max
          exact .inl max
        · rw [if_neg none] at max
          refine .inr ⟨?_, fun fd stored => ?_⟩
          · obtain ⟨other, listed, _, block, there, fd, member, above⟩ := backed (fails none)
            have bound := World.fd_le_agentGetHighestFd (w := s.world.calling addr dial req) listed
              ((same listed).trans there) member
            omega
          · obtain ⟨place, listed, slot⟩ := (tabled fd).mp stored
            obtain ⟨block, there, member⟩ := slots_found slot
            have bound := World.fd_le_agentGetHighestFd (w := s.world.calling addr dial req) listed
              ((same listed).trans there) member
            omega
    · rw [listenFd, opened]
      intro member
      rcases Finset.mem_union.mp (Finset.mem_sdiff.mp member).1 with new | before
      · exact (unused new).2 rfl
      · exact watch.apart before
  | up addr control rpc dialControl dialRpc =>
    have fields : s'.world.listenFd = s.world.listenFd ∧ s'.world.allSet = s.world.allSet ∧
        s'.world.suspended = s.world.suspended ∧ s'.world.maxSelectFd = s.world.maxSelectFd ∧
        s'.world.opened = {rpc, control} ∪ s.world.opened := by
      rw [world]
      simp only [World.put, World.opening, World.listenFd_calling, World.allSet_calling, World.suspended_calling,
        World.maxSelectFd_calling, World.opened_calling, and_self]
    obtain ⟨listenFd, allSet, suspended, highestFd, opened⟩ := fields
    refine ⟨?_, ?_⟩
    · rw [listenFd, allSet, suspended, highestFd]
      exact watch.polling.congr tabled
    · rw [listenFd, opened]
      intro member
      simp only [Finset.mem_union, Finset.mem_insert, Finset.mem_singleton] at member
      rcases member with (same | same) | before
      · exact (enabled.2 rpc dialRpc).1.2 same.symm
      · exact (enabled.1 control dialControl).2 same.symm
      · exact watch.apart before

/-- One step. -/
theorem step (kept : s.Kept) {action : Action} (enabled : s.Enabled action) (orderly : s.Orderly action)
    (watchful : s.Watchful action) (took : Took s action s') : s'.Watch := by
  have nodup := kept.accounted.nodup
  cases took with
  | tick seconds => exact watch.still (fun _ => slots_of_blocks rfl rfl) rfl rfl rfl rfl rfl rfl
  | selectFails => exact watchful.2.elim
  | acceptNew fd addr =>
    have unknown := kept.accounted.nextBlock_not_mem
    refine watch.link s.world.nextBlock ((Block.fresh addr s.world.clock).plugControl (some fd)) unknown
      World.blocks_put_self (fun other different => ?_) rfl (by simp [enabled.1, Listener.giving]) rfl rfl ?_ rfl ?_ ?_ ?_
    · exact (if_neg different).trans (if_neg different)
    · exact (Finset.insert_eq fd s.world.allSet).trans (Finset.union_comm _ _)
    · intro member
      rcases Finset.mem_insert.mp member with same | before
      · exact enabled.2.1.2 same.symm
      · exact watch.apart before
    · exact World.listenFd_le _
    · exact fun other tabled => tabled.le.trans (World.agentGetHighestFd_le _)
  | acceptKnown fd addr id agent known found =>
    have unknown : s.world.findAgentBlkByAddr addr = none := orderly
    rw [unknown] at known
    cases known
  | visited _ id agent touched found touch next begins guard =>
    have same : agent.Alike touched := by
      rcases touch with rfl | rfl <;> exact {}
    refine watch.still (slots_edit found touched.acquired same.slot rfl ?_) rfl rfl rfl rfl rfl rfl
    rw [begins.giving, (guard enabled).1]
    rfl
  | rested => exact watch
  | returned id fd place =>
    have regular := kept.private_.regular
    rw [place] at regular
    exact regular.elim
  | adopted id fd place =>
    have regular := kept.private_.regular
    rw [place] at regular
    exact regular.elim
  | greeted id hb rpcReady place w' run next greets =>
    obtain ⟨listed, agent, found, _⟩ := kept.private_.newcomer id (by rw [place]; rfl)
    have held : 0 < s.held id := held_pos_of_listener (by rw [place]; exact List.mem_cons_self)
    have shared := kept.accounted.shared_of_listed held listed found
    obtain ⟨same, there, _, ⟨_, rfl⟩ | ⟨last, _⟩⟩ := World.releaseAgentConn_ok_iff.mp run
    · refine watch.still (slots_edit there same.released (fun _ => rfl) rfl ?_) rfl rfl rfl rfl rfl rfl
      rw [greets.giving, place]
      rfl
    · rw [found] at there
      cases there
      omega
  | refused task id incoming place rc =>
    refine watch.still (fun _ => slots_of_blocks ?_ rfl) rfl rfl rfl rfl rfl rfl
    rw [Listener.giving_after, place]
    rfl
  | heard task id incoming place agent found hb =>
    exact watch.processed place found _ (s.world.alike_heardBy id agent hb).slot _ .ok
  | identified task id incoming place agent message delivered isSession valid unknown =>
    obtain ⟨_, _, _, _, found, _⟩ := delivery_eq_some_iff.mp delivered
    have nothing : s.listener.giving = none := by
      rw [place]
      rfl
    rcases s.world.identified_cases id agent (Session.read message.body) with ⟨isRpc, result⟩ | ⟨_, result⟩
    · have empty : agent.iRpcFd = none := orderly.2 _ delivered isSession isRpc unknown
      have here := slots_of_found (s := s) (by simp [nothing]) found .control
      rw [result]
      cases stored : agent.iFileDesc with
      | none =>
        refine watch.still (slots_edit found
          ((agent.learn (Session.read message.body) s.world.clock).becomeRpc) ?_ rfl ?_) rfl rfl rfl rfl rfl rfl
        · exact Block.slot_congr stored.symm (stored.trans empty.symm)
        · rw [Listener.giving_after, nothing]
      | some fd =>
        have moves : Moves s { s with
            world := (s.world.put id (agent.learn (Session.read message.body) s.world.clock).becomeRpc).listenerSuspendFd (some fd)
            listener := .after task id .ok } (id, .control) (id, .rpc) :=
          moves_becomeRpc (agent.learn (Session.read message.body) s.world.clock).becomeRpc nothing
            (Listener.giving_after task id .ok) found empty rfl rfl rfl
        have member := kept.custody.owned.known (id, .control) fd (here.trans stored)
        refine ⟨?_, watch.apart⟩
        refine (watch.polling.suspend fun same => ?_).congr (moves.tabled_iff Iff.rfl rfl)
        exact watch.apart (same ▸ member)
    · rw [result]
      have processed := watch.processed place found
        ((agent.learn (Session.read message.body) s.world.clock).becomeControl) (fun _ => rfl) [] .ok
      rwa [World.notify_nil] at processed
  | matched task id incoming place agent message delivered isSession valid existing known matching there =>
    refine watch.still (slots_edit there known.acquired (fun _ => rfl) rfl ?_) rfl rfl rfl rfl rfl rfl
    rw [place]
    rfl
  | served task id incoming place agent found message rc =>
    refine watch.processed place found _ (fun channel => ?_) _ rc
    split <;> rfl
  | merged task id existing ses place agent known found there =>
    have joins := orderly.1 (id, existing, ses) (by rw [place]; rfl)
    have nothing : s.listener.giving = none := by
      rw [place]
      rfl
    have listedExisting : existing ∈ s.world.table := by
      by_contra absent
      have held : 0 < s.held existing := held_pos_of_listener (by rw [place]; exact List.mem_cons_self)
      have public_ := (kept.accounted.known existing held).2
      have isDead := ((kept.accounted.counted existing trivial public_).unlisted absent known there).1
      have alive := joins.2.2
      simp [there, isDead] at alive
    have listed : id ∈ s.world.table ↔ existing ∈ s.world.table := by
      refine iff_of_true ?_ listedExisting
      cases task with
      | fresh => exact (kept.private_.newcomer id (by rw [place]; rfl)).1
      | established rest =>
        have old := (kept.private_.elder id (by rw [place]; rfl)).2 agent found
        have isNew := joins.2.1
        simp [found, old] at isNew
    obtain ⟨_, _, _, same⟩ := s.world.listenerResumeFd_eq (World.resumed known ses)
    have moves : Moves s { s with
        world := s.world.mergedInto existing known agent ses
        listener := .merged task id existing } (id, .control) (existing, ses.channel) := by
      refine moves_merge nothing rfl found there joins (s.world.alike_mergedWith existing known agent ses) ?_
      rw [World.mergedInto, same]
      rfl
    refine watch.resumed (World.resumed known ses) (moves.tabled_iff listed ?_) (fun fd member => ?_) ?_ ?_ rfl rfl rfl
    · rw [World.mergedInto, same]
      rfl
    · have isRpc : known.iRpcFd = some fd := by
        unfold World.resumed at member
        split at member
        · cases member
        · exact member
      refine ⟨(existing, .rpc), listedExisting, ?_⟩
      rw [slots_of_found (by simp [nothing]) there]
      exact isRpc
    · rw [World.mergedInto, same]
      rfl
    · rw [World.mergedInto, same]
      rfl
  | matchReturned task id existing place w' run =>
    have regular := kept.private_.regular
    rw [place] at regular
    have held : 0 < s.held existing := held_pos_of_listener (by rw [place]; exact List.mem_cons_self)
    refine watch.release kept.custody nodup run rfl ?_ ?_ (fun agent found last alive => ?_) (by simp)
    · rw [place]
      exact fun same => regular.2 (Option.some.inj same)
    · rw [place]
      rfl
    · simp [kept.accounted.not_last held found last] at alive
  | dropped task id existing place apart w' run =>
    have giving : s.listener.giving = some id := by
      rw [place]
      rfl
    rw [kept.private_.release_duplicate kept.accounted place run]
    exact ⟨watch.polling.congr (tabled_drop giving (Listener.giving_after task id .ok) rfl rfl), watch.apart⟩
  | left task id dead reason place w' run =>
    refine watch.leave kept.custody nodup run rfl (by simp [place, Listener.giving]) (by rw [place]; rfl) ?_ ?_
    · intro agent found last alive
      cases task with
      | fresh =>
        have regular := kept.private_.regular
        rw [place] at regular
        exact regular
      | established rest =>
        have held : 0 < s.held id := held_pos_of_listener (by rw [place]; exact List.mem_cons_self)
        simp [kept.accounted.not_last held found last] at alive
    · rintro rfl
      exact watchful.1 id (by simp [ending, place])
  | dialled dial w' result dialled => exact watch.connected kept dialled enabled watchful.2 rfl rfl
  | published id agent found reported report =>
    have fresh : id ∉ s.world.table := (kept.accounted.own id enabled).1
    have alike : agent.Alike reported.1 := by
      rw [report]
      exact agent.alike_reportPeerReady s.world.uuid s.world.clock id "outbound-rpc-ready"
    have fds : reported.1.fds = agent.fds := by rw [Block.fds, alike.iFileDesc, alike.iRpcFd, Block.fds]
    refine watch.link id reported.1 fresh World.blocks_put_self
      (fun other different => World.blocks_put_of_ne different) rfl ?_ rfl rfl ?_ rfl watch.apart ?_ ?_
    · intro giving
      exact fresh (kept.private_.newcomer id (kept.private_.newcomer_of_giving giving)).1
    · rw [fds]
      rfl
    · exact World.listenFd_le _
    · rintro fd ⟨⟨block, channel⟩, member, stored⟩
      obtain ⟨after, there, inside⟩ := slots_found stored
      refine le_trans ?_ (World.agentGetHighestFd_le _)
      by_cases same : block = id
      · subst same
        rw [World.blocks_put_self] at there
        cases there
        rw [fds] at inside
        exact World.fd_le_agentGetHighestFd (w := s.world.register block agent) member found inside
      · rw [World.blocks_put_of_ne same] at there
        exact World.fd_le_agentGetHighestFd (w := s.world.register id agent) member there inside
  | missed => exact watch
  | acquired action id lookup agent found stage =>
    exact watch.still (slots_edit found agent.acquired (fun _ => rfl) rfl rfl) rfl rfl rfl rfl rfl rfl
  | sent send net next => exact watch.still (fun _ => slots_of_blocks rfl rfl) rfl rfl rfl rfl rfl rfl
  | unplugged send net place agent found closed =>
    have empty := (orderly place agent found closed).2
    exact watch.still (slots_edit found (agent.plugRpc none) (Block.slot_congr rfl empty.symm) rfl rfl)
      rfl rfl rfl rfl rfl rfl
  | opened send net place agent found closed fd success flag next =>
    have failure := watchful.2 place agent found closed
    simp [success] at failure
  | worked send net agent found flag next =>
    exact watch.still (slots_edit found (agent.working flag) (fun _ => rfl) rfl rfl) rfl rfl rfl rfl rfl rfl
  | released send net dead place w' run =>
    refine watch.release kept.custody nodup run rfl (kept.private_.giving_ne_send enabled.1) rfl
      (fun agent found last alive => ?_) ?_
    · simp [kept.accounted.not_last (held_pos_of_send enabled.1) found last] at alive
    · rintro rfl
      exact watchful.1 send.block (by simp [ending, place])

end Watch

theorem watch_start (uuid : Uuid) (clock listenFd : Nat) : (start uuid clock listenFd).Watch where
  polling := by
    refine ⟨Finset.mem_singleton_self listenFd, ?_, fun fd member => ?_, fun fd member => .inl (Finset.mem_singleton.mp member)⟩
    · rintro fd ⟨place, listed, _⟩
      cases listed
    · rw [Finset.mem_singleton.mp member]
      exact le_rfl
  apart := Finset.notMem_empty listenFd

theorem watch_run {uuid : Uuid} {clock listenFd : Nat} {actions : List Action} {s : Process}
    (admits : machine.Admits (fun s action => s.Enabled action ∧ s.Orderly action ∧ s.Watchful action)
      (start uuid clock listenFd) actions) (run : machine.run (start uuid clock listenFd) actions = .ok s) :
    s.Kept ∧ s.Watch := by
  refine Faulting.run_invariant (fun s => s.Kept ∧ s.Watch) (fun s action s' before allowed step => ?_)
    ⟨⟨accounts_start _ uuid clock listenFd, private_start uuid clock listenFd, custody_start uuid clock listenFd⟩,
      watch_start uuid clock listenFd⟩ admits run
  obtain ⟨kept, watch⟩ := before
  have took := step_took kept.accounted.nextBlock_not_mem step
  exact ⟨kept.step allowed.1 allowed.2.1 step, watch.step kept allowed.1 allowed.2.1 allowed.2.2 took⟩

/-- What the listener must watch. -/
def Watches (s : Process) : Prop :=
  s.world.listenFd ∈ s.world.allSet ∧
    (∀ id ∈ s.world.table, ∀ agent ∈ s.world.blocks id, ∀ fd ∈ agent.fds, fd ∈ s.world.opened → fd ∉ s.world.suspended →
      fd ∈ s.world.allSet) ∧
    ∀ fd ∈ s.world.allSet, (fd : Int) ≤ s.world.maxSelectFd

instance (s : Process) : Decidable s.Watches :=
  inferInstanceAs (Decidable (_ ∧ (∀ id ∈ s.world.table, ∀ agent ∈ s.world.blocks id, ∀ fd ∈ agent.fds,
    fd ∈ s.world.opened → fd ∉ s.world.suspended → fd ∈ s.world.allSet) ∧ _))

/-- Two processes connect, the RPC channel of the first comes in before its control
channel, and the second leaves. -/
def comingAndGoing : List Action :=
  [.accept 5 ⟨0x7f000001, 40001⟩,
    .newAgent 0 (some ((Session.plain (Uuid.filled 2) true).incoming (Uuid.filled 2) .sessionInfo)) false, .proceed, .proceed,
    .accept 6 ⟨0x7f000001, 40002⟩,
    .newAgent 1 (some ((Session.plain (Uuid.filled 3) false).incoming (Uuid.filled 3) .sessionInfo)) false, .proceed, .proceed,
    .accept 7 ⟨0x7f000001, 40003⟩,
    .newAgent 2 (some ((Session.plain (Uuid.filled 2) false).incoming (Uuid.filled 2) .sessionInfo)) false,
    .proceed, .proceed, .proceed, .proceed, .proceed,
    .visit 1 (some (.noHeader .clientClosed)) none, .proceed, .proceed]

/-- The only peer closes its connection. -/
def lastPeer : List Action := introduction ++ [.visit 0 (some (.noHeader .clientClosed)) none, .proceed, .proceed]

/-- `defw_send` opens the RPC channel of a peer. -/
def openedChannel : List Action :=
  introduction ++ [.send (Uuid.filled 2) none, .advance ⟨0, .found⟩ ⟨some 6, .ok, .ok⟩]

end Process

open Process in
/-- As long as nothing is stored where something is stored already, `select` does not
fail, `defw_send` opens no channel, and another block keeps the maximum up where
channels are closed, the listener watches what it must watch. -/
theorem listener_watches (uuid : Uuid) (clock listenFd : Nat) (actions : List Action) (s : Process)
    (admits : machine.Admits (fun s action => s.Enabled action ∧ s.Orderly action ∧ s.Watchful action)
      (start uuid clock listenFd) actions)
    (run : machine.run (start uuid clock listenFd) actions = .ok s) (between : s.listener.giving = none) : s.Watches := by
  obtain ⟨_, watch⟩ := watch_run admits run
  refine ⟨watch.polling.listens, fun id listed agent found fd member _ unsuspended => ?_, watch.polling.bounded⟩
  obtain ⟨channel, slot⟩ := Block.mem_fds_iff_slot.mp member
  have stored : s.Tabled fd := ⟨(id, channel), listed, (slots_of_found (by simp [between]) found channel).trans slot⟩
  exact (watch.polling.covered fd stored).resolve_left unsuspended

open Process in
theorem listener_watches_two_peers : ∃ s, machine.run (start (Uuid.filled 1) 100 3) comingAndGoing = .ok s ∧
    s.world.allSet = {3, 5, 7} ∧ s.world.maxSelectFd = 7 ∧ s.Watches := by
  have evaluated : (machine.run (start (Uuid.filled 1) 100 3) comingAndGoing).toOption.map
      (fun s => (s.listener.giving, s.world.allSet, s.world.maxSelectFd)) = some (none, {3, 5, 7}, 7) := by decide +kernel
  obtain ⟨s, run, shape⟩ := Except.exists_ok_of_map evaluated
  simp only [Prod.mk.injEq] at shape
  obtain ⟨between, allSet, highest⟩ := shape
  exact ⟨s, run, allSet, highest, listener_watches _ _ _ comingAndGoing s (by decide +kernel) run between⟩

open Process in
/-- It is deaf after an interrupted `select`, after its last peer left, and to a
channel that `defw_send` opened. -/
theorem listener_deaf :
    machine.Admits Enabled (start (Uuid.filled 1) 100 3) [.selectFails] ∧
    (∃ s, machine.run (start (Uuid.filled 1) 100 3) [.selectFails] = .ok s ∧ s.listener = .idle ∧ 3 ∉ s.world.allSet) ∧
    machine.Admits Enabled (start (Uuid.filled 1) 100 3) lastPeer ∧
    (∃ s, machine.run (start (Uuid.filled 1) 100 3) lastPeer = .ok s ∧ s.listener = .idle ∧ 3 ∈ s.world.allSet ∧
      s.world.maxSelectFd = -1) ∧
    machine.Admits Enabled (start (Uuid.filled 1) 100 3) openedChannel ∧
    ∃ s, machine.run (start (Uuid.filled 1) 100 3) openedChannel = .ok s ∧ s.listener = .idle ∧ ¬s.Watches := by
  have failed : (machine.run (start (Uuid.filled 1) 100 3) [.selectFails]).toOption.map
      (fun s => (s.listener, decide (3 ∉ s.world.allSet))) = some (.idle, true) := by decide +kernel
  have last : (machine.run (start (Uuid.filled 1) 100 3) lastPeer).toOption.map
      (fun s => (s.listener, decide (3 ∈ s.world.allSet), s.world.maxSelectFd)) = some (.idle, true, -1) := by decide +kernel
  have opened : (machine.run (start (Uuid.filled 1) 100 3) openedChannel).toOption.map
      (fun s => (s.listener, decide ¬s.Watches)) = some (.idle, true) := by decide +kernel
  obtain ⟨first, firstRun, firstShape⟩ := Except.exists_ok_of_map failed
  obtain ⟨second, secondRun, secondShape⟩ := Except.exists_ok_of_map last
  obtain ⟨third, thirdRun, thirdShape⟩ := Except.exists_ok_of_map opened
  simp only [Prod.mk.injEq, decide_eq_true_eq] at firstShape secondShape thirdShape
  exact ⟨by decide +kernel, ⟨first, firstRun, firstShape⟩, by decide +kernel, ⟨second, secondRun, secondShape⟩, by decide +kernel,
    third, thirdRun, thirdShape⟩

end DEFw.Agents
