import DEFw.Agents.Table
import DEFw.Lib.Faulting

namespace DEFw.Agents

namespace Block

/-- A report of a loss changes how the block stands, not what it is. -/
theorem reportPeerLost_fst (self : Transport.Uuid) (now : Nat) (id : Nat) (agent : Block) (reason : String) :
    ∃ lostReported lifecycle heartbeatMode failureReason,
    (agent.reportPeerLost self now id reason).1 =
      { agent with
        lostReported := lostReported
        lifecycle := lifecycle
        heartbeatMode := heartbeatMode
        failureReason := failureReason } := by
  unfold reportPeerLost
  split
  · exact ⟨_, _, _, _, rfl⟩
  · exact ⟨_, _, _, _, rfl⟩

end Block

namespace World

variable {w w' : World} {id other : Nat} {agent : Block}

theorem deref_ok_iff : w.deref id = .ok agent ↔ w.blocks id = some agent := by
  unfold deref
  split <;> simp_all

theorem edit_ok_iff {change : Block → Block} :
    w.edit id change = .ok w' ↔ ∃ agent, w.blocks id = some agent ∧ w.put id (change agent) = w' := by
  simp only [edit, Except.bind_ok_iff, deref_ok_iff, pure, Except.pure, Except.ok.injEq]

@[simp] theorem blocks_put_self : (w.put id agent).blocks id = some agent := if_pos rfl

theorem blocks_put_of_ne (different : other ≠ id) : (w.put id agent).blocks other = w.blocks other := if_neg different

@[simp] theorem blocks_free_self : (w.freeAgentBlk id).blocks id = none := if_pos rfl

theorem blocks_free_of_ne (different : other ≠ id) : (w.freeAgentBlk id).blocks other = w.blocks other :=
  if_neg different

theorem put_put (first second : Block) : (w.put id first).put id second = w.put id second := by
  simp only [put]
  congr 1
  funext other
  split <;> rfl

theorem free_put : (w.put id agent).freeAgentBlk id = w.freeAgentBlk id := by
  simp only [put, freeAgentBlk]
  congr 1
  funext other
  split <;> rfl

theorem notify_put (notices : List Notice) : (w.put id agent).notify notices = (w.notify notices).put id agent := rfl

theorem notify_notify (first second : List Notice) : (w.notify first).notify second = w.notify (first ++ second) := by
  simp [notify]

/-- Descriptors taken out of `g_tAllSet` and closed. -/
def shed (w : World) (fds : Finset Nat) (highest : Int) : World :=
  { w with
    opened := w.opened \ fds
    allSet := w.allSet \ fds
    suspended := w.suspended \ fds
    maxSelectFd := highest }

theorem shed_shed (first second : Finset Nat) (before highest : Int) :
    (w.shed first before).shed second highest = w.shed (first ∪ second) highest := by
  simp only [shed, sdiff_sdiff_left, Finset.sup_eq_union]

theorem highest_put_of_not_mem (absent : id ∉ w.table) (agent : Block) :
    (w.put id agent).agentGetHighestFd = w.agentGetHighestFd := by
  have same : (w.put id agent).agents = w.agents := by
    refine List.filterMap_congr fun other member => ?_
    exact blocks_put_of_ne (fun same => absent (same ▸ member))
  rw [agentGetHighestFd, same, agentGetHighestFd]

/-- The maximum after the channels of a block outside the table are closed. -/
def highestWithout (w : World) (agent : Block) : Int :=
  if agent.fds = ∅ then w.maxSelectFd else w.agentGetHighestFd

theorem closeAgentChannel_eq (w : World) (slot : Option Nat) :
    w.closeAgentChannel slot = w.shed slot.toFinset (if slot = none then w.maxSelectFd else w.agentGetHighestFd) := by
  cases slot with
  | none => simp [closeAgentChannel, shed]
  | some fd => simp [closeAgentChannel, shed, Finset.sdiff_singleton_eq_erase]

theorem closeAgentConnection_eq (w : World) (id : Nat) (agent : Block) :
    ∃ highest, (id ∉ w.table → highest = w.highestWithout agent) ∧
      w.closeAgentConnection id agent = (w.shed agent.fds highest).put id agent.unplugged := by
  have commute (w : World) (agent : Block) (fds : Finset Nat) (highest : Int) :
      (w.put id agent).shed fds highest = (w.shed fds highest).put id agent := rfl
  simp only [closeAgentConnection, closeAgentChannel_eq, commute, put_put, shed_shed]
  refine ⟨_, fun absent => ?_, rfl⟩
  have same (fds : Finset Nat) (before : Int) (agent : Block) :
      ((w.shed fds before).put id agent).agentGetHighestFd = w.agentGetHighestFd :=
    highest_put_of_not_mem (w := w.shed fds before) absent agent
  simp only [same, highest_put_of_not_mem absent]
  unfold highestWithout Block.fds
  cases agent.iFileDesc <;> cases agent.iRpcFd <;> simp [put, shed]

/-- What is left of a block that others hold when it is found dead. -/
def remains (w : World) (id : Nat) (agent : Block) : Block :=
  (w.reportLoss id agent.released.dying).1.released.unplugged

theorem remains_eq (w : World) (id : Nat) (agent : Block) : ∃ lostReported lifecycle heartbeatMode failureReason,
    w.remains id agent =
      { agent.unplugged with
        refCount := agent.refCount - 1 - 1
        isDead := true
        isAlive := false
        rpcConnected := false
        cntrlConnected := false
        lostReported := lostReported
        lifecycle := lifecycle
        heartbeatMode := heartbeatMode
        failureReason := failureReason } := by
  obtain ⟨lostReported, lifecycle, heartbeatMode, failureReason, same⟩ :=
    Block.reportPeerLost_fst w.uuid w.clock id agent.released.dying agent.released.dying.lossReason
  refine ⟨lostReported, lifecycle, heartbeatMode, failureReason, ?_⟩
  rw [remains, reportLoss, same]
  rfl

theorem isDead_remains (w : World) (id : Nat) (agent : Block) : (w.remains id agent).isDead = true := by
  obtain ⟨_, _, _, _, same⟩ := w.remains_eq id agent
  rw [same]

theorem refCount_remains (w : World) (id : Nat) (agent : Block) :
    (w.remains id agent).refCount = agent.refCount - 2 := by
  obtain ⟨_, _, _, _, same⟩ := w.remains_eq id agent
  rw [same]
  change agent.refCount - 1 - 1 = agent.refCount - 2
  omega

/-- What a release of a block comes to. `highest` is the new maximum where
channels are closed. -/
inductive Released (w : World) (id : Nat) (agent : Block) (dead : Bool) : World → Prop
  | kept (shared : 2 ≤ agent.refCount) (calm : agent.isDead = true ∨ dead = false) :
      Released w id agent dead (w.put id agent.released)
  | removed (last : agent.refCount = 1) (isDead : agent.isDead = true) :
      Released w id agent dead ((w.notify (w.reportRemoval id agent.released)).freeAgentBlk id)
  | dropped (last : agent.refCount = 1) (notDead : agent.isDead = false) (idle : agent.workInProgress = false)
      (isNew : agent.isNew = true) (calm : dead = false) :
      Released w id agent dead ((w.unlink id).freeAgentBlk id)
  | retired (last : agent.refCount = 1) (notDead : agent.isDead = false) (idle : agent.workInProgress = false)
      (ends : agent.isNew = false ∨ dead = true) (highest : Int)
      (max : id ∉ (w.unlink id).table → highest = (w.unlink id).highestWithout agent) :
      Released w id agent dead ((((w.unlink id).shed agent.fds highest).notify
        ((w.lossIf dead id agent.released).2 ++
          w.reportRemoval id (w.lossIf dead id agent.released).1.unplugged)).freeAgentBlk id)
  | buried (shared : 2 < agent.refCount) (notDead : agent.isDead = false) (isDead : dead = true) (highest : Int)
      (max : id ∉ (w.unlink id).table → highest = (w.unlink id).highestWithout agent) :
      Released w id agent dead ((((w.unlink id).shed agent.fds highest).notify
        (w.reportLoss id agent.released.dying).2).put id (w.remains id agent))
  | buriedFreed (last : agent.refCount = 2) (notDead : agent.isDead = false) (isDead : dead = true) (highest : Int)
      (max : id ∉ (w.unlink id).table → highest = (w.unlink id).highestWithout agent) :
      Released w id agent dead ((((w.unlink id).shed agent.fds highest).notify
        ((w.reportLoss id agent.released.dying).2 ++ w.reportRemoval id (w.remains id agent))).freeAgentBlk id)

theorem fds_reportLoss (w : World) (id : Nat) (agent : Block) : (w.reportLoss id agent).1.fds = agent.fds := by
  obtain ⟨_, _, _, _, same⟩ := Block.reportPeerLost_fst w.uuid w.clock id agent agent.lossReason
  rw [reportLoss, same]
  rfl

theorem retire_free (w : World) (id : Nat) (agent : Block) {dead : Bool}
    (ends : agent.isNew = false ∨ dead = true) :
    ∃ highest, (id ∉ w.table → highest = w.highestWithout agent) ∧
      (w.retire id agent dead).freeAgentBlk id =
        ((w.shed agent.fds highest).notify
          ((w.lossIf dead id agent).2 ++ w.reportRemoval id (w.lossIf dead id agent).1.unplugged)).freeAgentBlk id := by
  have fds : (w.lossIf dead id agent).1.fds = agent.fds := by
    unfold lossIf
    split
    · exact fds_reportLoss w id agent
    · rfl
  obtain ⟨highest, max, closed⟩ :=
    closeAgentConnection_eq (w.notify (w.lossIf dead id agent).2) id (w.lossIf dead id agent).1
  refine ⟨highest, fun absent => ?_, ?_⟩
  · rw [max absent, highestWithout, fds]
    rfl
  · have ended : (!agent.isNew || dead) = true := by simpa using ends
    rw [retire, if_pos ended]
    simp only [closed, fds]
    rw [notify_put, free_put]
    simp [notify, shed, reportRemoval, put, freeAgentBlk]

theorem bury_eq (w : World) (id : Nat) (agent : Block) :
    ∃ highest, (id ∉ (w.unlink id).table → highest = (w.unlink id).highestWithout agent) ∧
      w.bury id agent.released =
        freeDeadAgentIfUnreferenced
          (((w.unlink id).shed agent.fds highest).notify (w.reportLoss id agent.released.dying).2) id (w.remains id agent) := by
  obtain ⟨highest, max, closed⟩ := closeAgentConnection_eq
    ((w.notify (w.reportLoss id agent.released.dying).2).unlink id) id (w.reportLoss id agent.released.dying).1.released
  have fds : (w.reportLoss id agent.released.dying).1.released.fds = agent.fds :=
    fds_reportLoss w id agent.released.dying
  refine ⟨highest, fun absent => ?_, ?_⟩
  · rw [max absent, highestWithout, fds]
    rfl
  · have steps : w.bury id agent.released =
        freeDeadAgentIfUnreferenced (((w.notify (w.reportLoss id agent.released.dying).2).unlink id).closeAgentConnection id
          (w.reportLoss id agent.released.dying).1.released) id (w.remains id agent) := rfl
    rw [steps, closed, fds]
    by_cases unreferenced : (w.remains id agent).refCount = 0
    · rw [freeDeadAgentIfUnreferenced, if_pos unreferenced, notify_put, free_put, freeDeadAgentIfUnreferenced,
        if_pos unreferenced]
      rfl
    · rw [freeDeadAgentIfUnreferenced, if_neg unreferenced, put_put, freeDeadAgentIfUnreferenced, if_neg unreferenced]
      rfl

theorem releaseAgentBlk_released {dead : Bool} (run : w.releaseAgentBlk id dead = .ok w') :
    ∃ agent, w.blocks id = some agent ∧ Released w id agent dead w' := by
  obtain ⟨agent, found, rest⟩ := Except.bind_ok_iff.mp run
  refine ⟨agent, deref_ok_iff.mp found, ?_⟩
  simp only [] at rest
  split_ifs at rest with unheld isDead zero working isGone
  · cases rest
    rw [freeDeadAgentIfUnreferenced]
    split
    · next none => exact .removed (by simp only [Block.released] at none; omega) isDead
    · next some => exact .kept (by simp only [Block.released] at some; omega) (.inl isDead)
  · cases rest
    have last : agent.refCount = 1 := by
      simp only [Block.released] at zero
      omega
    have notDead : agent.isDead = false := by simpa [Block.released] using isDead
    have idle : agent.workInProgress = false := by simpa [Block.released] using working
    by_cases ends : agent.isNew = false ∨ dead = true
    · obtain ⟨highest, max, retired⟩ := retire_free (w.unlink id) id agent.released ends
      rw [retired]
      exact .retired last notDead idle ends highest max
    · obtain ⟨isNew, calm⟩ := not_or.mp ends
      have skipped : (w.unlink id).retire id agent.released dead = w.unlink id :=
        if_neg (by simpa [Block.released] using And.intro (by simpa using isNew) calm)
      rw [skipped]
      exact .dropped last notDead idle (by simpa using isNew) (by simpa using calm)
  · cases rest
    have notDead : agent.isDead = false := by simpa [Block.released] using isDead
    have shared : 2 ≤ agent.refCount := by
      simp only [Block.released] at zero
      omega
    obtain ⟨highest, max, buried⟩ := bury_eq w id agent
    rw [buried, freeDeadAgentIfUnreferenced, refCount_remains]
    split
    · next none =>
      rw [notify_notify]
      exact .buriedFreed (by omega) notDead isGone highest max
    · next some => exact .buried (by omega) notDead isGone highest max
  · cases rest
    refine .kept ?_ (.inr (by simpa using isGone))
    simp only [Block.released] at zero
    omega

/-- A release succeeds on a block that has a reference and, if it is the last,
no work under way. -/
theorem exists_releaseAgentBlk (found : w.blocks id = some agent) (held : 0 < agent.refCount)
    (idle : agent.workInProgress = false) (dead : Bool) : ∃ after, w.releaseAgentBlk id dead = .ok after := by
  have nonzero : agent.refCount ≠ 0 := by omega
  simp only [releaseAgentBlk, deref_ok_iff.mpr found, bind, Except.bind, if_neg nonzero]
  have working : agent.released.workInProgress = false := idle
  simp only [working, Bool.false_eq_true, if_false]
  split_ifs
  all_goals exact ⟨_, rfl⟩

/-- A release of a block that others hold too, which is not found dead. -/
theorem releaseAgentBlk_of_shared (found : w.blocks id = some agent) (shared : 2 ≤ agent.refCount) :
    w.releaseAgentBlk id false = .ok (w.put id agent.released) := by
  have nonzero : agent.refCount ≠ 0 := by omega
  have left : agent.released.refCount ≠ 0 := by
    change agent.refCount - 1 ≠ 0
    omega
  simp only [releaseAgentBlk, deref_ok_iff.mpr found, bind, Except.bind, if_neg nonzero, freeDeadAgentIfUnreferenced,
    if_neg left, Bool.false_eq_true, if_false, ite_self]

theorem releaseAgentConn_ok_iff : w.releaseAgentConn id = .ok w' ↔
    ∃ agent, w.blocks id = some agent ∧ agent.isNew = true ∧
      (2 ≤ agent.refCount ∧ w.put id agent.released = w' ∨
        agent.refCount = 1 ∧ (w.unlink id).freeAgentBlk id = w') := by
  simp only [releaseAgentConn, Except.bind_ok_iff, deref_ok_iff]
  refine exists_congr fun agent => and_congr_right fun _ => ?_
  cases isNew : agent.isNew with
  | false => simp
  | true =>
    have count : agent.released.refCount = agent.refCount - 1 := rfl
    simp only [Bool.not_true, Bool.false_eq_true, if_false, count, true_and]
    split_ifs with zero one
    · constructor
      · intro impossible
        cases impossible
      · omega
    · rw [Except.ok.injEq]
      constructor
      · intro result
        exact .inr ⟨by omega, result⟩
      · rintro (⟨shared, _⟩ | ⟨_, result⟩)
        · omega
        · exact result
    · rw [Except.ok.injEq]
      constructor
      · intro result
        exact .inl ⟨by omega, result⟩
      · rintro (⟨_, result⟩ | ⟨last, _⟩)
        · exact result
        · omega

namespace Released

variable {dead : Bool} (released : Released w id agent dead w')

include released

theorem blocks_of_ne (different : other ≠ id) : w'.blocks other = w.blocks other := by
  cases released with
  | kept => exact blocks_put_of_ne different
  | removed => exact blocks_free_of_ne different
  | dropped => exact blocks_free_of_ne different
  | retired => exact blocks_free_of_ne different
  | buried => exact blocks_put_of_ne different
  | buriedFreed => exact blocks_free_of_ne different

/-- A block that outlives a release has lost a reference, or is what is left of it. -/
theorem found_cases {after : Block} (found : w'.blocks id = some after) :
    after = agent.released ∨ after = w.remains id agent := by
  cases released with
  | kept =>
    rw [blocks_put_self] at found
    exact .inl (Option.some.inj found).symm
  | buried =>
    rw [blocks_put_self] at found
    exact .inr (Option.some.inj found).symm
  | removed => simp at found
  | dropped => simp at found
  | retired => simp at found
  | buriedFreed => simp at found

theorem table_eq : w'.table = w.table ∨ w'.table = w.table.erase id := by
  cases released with
  | kept => exact .inl rfl
  | removed => exact .inl rfl
  | dropped => exact .inr rfl
  | retired => exact .inr rfl
  | buried => exact .inr rfl
  | buriedFreed => exact .inr rfl

theorem mem_table_of_ne (different : other ≠ id) : other ∈ w'.table ↔ other ∈ w.table := by
  rcases released.table_eq with same | erased
  · rw [same]
  · rw [erased, List.mem_erase_of_ne different]

theorem table_nodup (nodup : w.table.Nodup) : w'.table.Nodup := by
  rcases released.table_eq with same | erased
  · rwa [same]
  · rw [erased]
    exact nodup.erase id

theorem nextBlock_eq : w'.nextBlock = w.nextBlock := by
  cases released <;> rfl

end Released

/-- A step on one block leaves the others alone. -/
structure Frame (w : World) (id : Nat) (w' : World) : Prop where
  blocks_of_ne : ∀ other, other ≠ id → w'.blocks other = w.blocks other
  table_of_ne : ∀ other, other ≠ id → (other ∈ w'.table ↔ other ∈ w.table)
  nodup : w.table.Nodup → w'.table.Nodup
  nextBlock : w'.nextBlock = w.nextBlock

theorem Frame.refl (w : World) (id : Nat) : Frame w id w :=
  ⟨fun _ _ => rfl, fun _ _ => Iff.rfl, fun nodup => nodup, rfl⟩

theorem Frame.of_put (agent : Block) (blocks : w'.blocks = (w.put id agent).blocks) (table : w'.table = w.table)
    (nextBlock : w'.nextBlock = w.nextBlock) : Frame w id w' where
  blocks_of_ne := by
    intro other different
    rw [blocks, blocks_put_of_ne different]
  table_of_ne := by
    intro other _
    rw [table]
  nodup := by
    rw [table]
    exact fun nodup => nodup
  nextBlock := nextBlock

theorem releaseAgentBlk_frame {dead : Bool} (run : w.releaseAgentBlk id dead = .ok w') : Frame w id w' := by
  obtain ⟨agent, _, released⟩ := releaseAgentBlk_released run
  exact ⟨fun _ => released.blocks_of_ne, fun _ => released.mem_table_of_ne, released.table_nodup, released.nextBlock_eq⟩

theorem releaseAgentConn_frame (run : w.releaseAgentConn id = .ok w') : Frame w id w' := by
  obtain ⟨agent, _, _, ⟨_, rfl⟩ | ⟨_, rfl⟩⟩ := releaseAgentConn_ok_iff.mp run
  · exact .of_put agent.released rfl rfl rfl
  · exact ⟨fun _ => blocks_free_of_ne, fun _ different => List.mem_erase_of_ne different, fun nodup => nodup.erase id, rfl⟩

end World
end DEFw.Agents
