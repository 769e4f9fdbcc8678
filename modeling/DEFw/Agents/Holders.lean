import DEFw.Agents.References
import DEFw.Agents.Steps

namespace DEFw.Agents
open Transport (Uuid)

namespace Counted

variable {agent after : Block} {inTable : Prop} {held : Nat}

/-- Other fields of the block change. -/
theorem edit (counted : Counted (some agent) inTable held) (refCount : after.refCount = agent.refCount)
    (isDead : after.isDead = agent.isDead) : Counted (some after) inTable held where
  gone := by simp
  listed := by
    rintro present _ ⟨⟩
    rw [isDead, refCount]
    exact counted.listed present agent rfl
  unlisted := by
    rintro absent _ ⟨⟩
    rw [isDead, refCount]
    exact counted.unlisted absent agent rfl

/-- One more party has a reference. -/
theorem more (counted : Counted (some agent) inTable held) (refCount : after.refCount = agent.refCount + 1)
    (isDead : after.isDead = agent.isDead) : Counted (some after) inTable (held + 1) where
  gone := by simp
  listed := by
    rintro present _ ⟨⟩
    obtain ⟨alive, count⟩ := counted.listed present agent rfl
    exact ⟨isDead.trans alive, by omega⟩
  unlisted := by
    rintro absent _ ⟨⟩
    obtain ⟨dead, count, _⟩ := counted.unlisted absent agent rfl
    exact ⟨isDead.trans dead, by omega, by omega⟩

/-- A release of a reference of its own that notes a reason first. -/
theorem leave {w w' : World} {id : Nat} {dead : Bool} {reason : Option String} (nodup : w.table.Nodup)
    (counted : Counted (w.blocks id) (id ∈ w.table) (held + 1)) (run : w.leave id dead reason = .ok w') :
    Counted (w'.blocks id) (id ∈ w'.table) held := by
  cases reason with
  | none => exact counted.release nodup run
  | some reason =>
    obtain ⟨marked, edited, released⟩ := Except.bind_ok_iff.mp run
    obtain ⟨agent, found, rfl⟩ := World.edit_ok_iff.mp edited
    rw [found] at counted
    refine Counted.release (w := w.put id (agent.failing reason)) nodup ?_ released
    rw [World.blocks_put_self]
    exact counted.edit rfl rfl

/-- A release of the reference of the table that notes a reason first. -/
theorem leaveTable {w w' : World} {id : Nat} {dead : Bool} {reason : Option String} (nodup : w.table.Nodup)
    (counted : Counted (w.blocks id) (id ∈ w.table) 0) (run : w.leave id dead reason = .ok w') :
    Counted (w'.blocks id) (id ∈ w'.table) 0 := by
  have listed {w : World} (counted : Counted (w.blocks id) (id ∈ w.table) 0)
      (released : w.releaseAgentBlk id dead = .ok w') : id ∈ w.table := by
    obtain ⟨agent, found, _⟩ := World.releaseAgentBlk_released released
    by_contra absent
    have := (counted.unlisted absent agent found).2.2
    omega
  cases reason with
  | none => exact (counted.releaseTable nodup (listed counted run) run).2
  | some reason =>
    obtain ⟨marked, edited, released⟩ := Except.bind_ok_iff.mp run
    obtain ⟨agent, found, rfl⟩ := World.edit_ok_iff.mp edited
    have still : Counted ((w.put id (agent.failing reason)).blocks id) (id ∈ w.table) 0 := by
      rw [World.blocks_put_self]
      rw [found] at counted
      exact counted.edit rfl rfl
    exact (still.releaseTable (w := w.put id (agent.failing reason)) nodup (listed still released) released).2

end Counted

theorem World.leave_frame {w w' : World} {id : Nat} {dead : Bool} {reason : Option String}
    (run : w.leave id dead reason = .ok w') : Frame w id w' := by
  cases reason with
  | none => exact releaseAgentBlk_frame run
  | some reason =>
    obtain ⟨marked, edited, released⟩ := Except.bind_ok_iff.mp run
    obtain ⟨agent, found, rfl⟩ := edit_ok_iff.mp edited
    obtain ⟨blocks, table, nodup, nextBlock⟩ := releaseAgentBlk_frame released
    exact ⟨fun other different => (blocks other different).trans (blocks_put_of_ne different), table, nodup, nextBlock⟩

namespace Process

/-- The references that the listener and the senders hold. -/
def holders (s : Process) : List Nat := s.listener.holds ++ s.sends.map Send.block

def held (s : Process) (id : Nat) : Nat := s.holders.count id

/-- The block of which the next step of the listener releases the reference of the
table: a new connection that is given up, or one that was merged. -/
def tableRelease (s : Process) : Action → Option Nat
  | .proceed =>
    match s.listener with
    | .leaving .fresh id _ _ => some id
    | .duplicate _ id _ => some id
    | _ => none
  | _ => none

/-- The block that a step of a thread gives up as dead. -/
def ending (s : Process) : Action → Option Nat
  | .proceed =>
    match s.listener with
    | .leaving _ id true _ => some id
    | _ => none
  | .advance send _ => if send.stage = .leaving true then some send.block else none
  | _ => none

/-- The reference of the table is released when nobody holds the block. -/
def Exclusive (s : Process) (action : Action) : Prop := ∀ id ∈ s.tableRelease action, s.held id = 0

instance (s : Process) (action : Action) : Decidable (s.Exclusive action) :=
  inferInstanceAs (Decidable (∀ id ∈ s.tableRelease action, _))

/-- The references to the blocks that are tracked are counted. The block of a
connect thread has one, and nobody else knows it. -/
structure Accounts (tracked : Nat → Prop) (s : Process) : Prop where
  nodup : s.world.table.Nodup
  listed : ∀ id ∈ s.world.table, id < s.world.nextBlock
  unborn : ∀ id, s.world.nextBlock ≤ id → s.world.blocks id = none
  own : ∀ id ∈ s.dialled, id ∉ s.world.table ∧
    ∃ agent, s.world.blocks id = some agent ∧ agent.refCount = 1 ∧ agent.isDead = false
  dialled : s.dialled.Nodup
  known : ∀ id, 0 < s.held id → id < s.world.nextBlock ∧ id ∉ s.dialled
  counted : ∀ id, tracked id → id ∉ s.dialled → Counted (s.world.blocks id) (id ∈ s.world.table) (s.held id)
  shown : ∀ id ∈ s.listener.blocks, id < s.world.nextBlock ∧ id ∉ s.dialled

/-- Every reference is counted. -/
abbrev Accounted (s : Process) : Prop := s.Accounts fun _ => True

namespace Accounts

variable {tracked : Nat → Prop} {s s' : Process} (accounts : s.Accounts tracked)

include accounts

theorem born {id : Nat} {agent : Block} (found : s.world.blocks id = some agent) : id < s.world.nextBlock := by
  by_contra unborn
  rw [accounts.unborn id (by omega)] at found
  simp at found

theorem not_dialled_of_mem {id : Nat} (member : id ∈ s.world.table) : id ∉ s.dialled :=
  fun dialled => (accounts.own id dialled).1 member

theorem nextBlock_not_dialled : s.world.nextBlock ∉ s.dialled := by
  intro dialled
  obtain ⟨_, agent, found, _⟩ := accounts.own _ dialled
  exact absurd (accounts.born found) (lt_irrefl _)

theorem nextBlock_not_mem : s.world.nextBlock ∉ s.world.table :=
  fun member => absurd (accounts.listed _ member) (lt_irrefl _)

theorem held_nextBlock : s.held s.world.nextBlock = 0 := by
  by_contra some
  exact absurd (accounts.known _ (by omega)).1 (lt_irrefl _)

/-- Fewer blocks are tracked. -/
theorem mono {fewer : Nat → Prop} (less : ∀ id, fewer id → id ∉ s.dialled → tracked id) : s.Accounts fewer :=
  { accounts with counted := fun id follows free => accounts.counted id (less id follows free) free }

/-- A step on one block that is in nobody's hands but those it counts. -/
theorem touch (id : Nat) (frame : World.Frame s.world id s'.world) (same : s'.dialled = s.dialled)
    (holders : ∀ other, other ≠ id → s'.held other = s.held other) (public_ : id ∉ s.dialled)
    (given : id < s.world.nextBlock)
    (counted : tracked id → Counted (s'.world.blocks id) (id ∈ s'.world.table) (s'.held id))
    (listener : ∀ other ∈ s'.listener.blocks, other ∈ s.listener.blocks ∨ other = id) : s'.Accounts tracked where
  nodup := frame.nodup accounts.nodup
  listed := by
    intro other member
    rw [frame.nextBlock]
    by_cases equal : other = id
    · rw [equal]
      exact given
    · exact accounts.listed other ((frame.table_of_ne other equal).mp member)
  unborn := by
    intro other unborn
    rw [frame.nextBlock] at unborn
    rw [frame.blocks_of_ne other (by omega)]
    exact accounts.unborn other unborn
  own := by
    intro other dialled
    rw [same] at dialled
    have different : other ≠ id := fun equal => public_ (equal ▸ dialled)
    rw [frame.table_of_ne other different, frame.blocks_of_ne other different]
    exact accounts.own other dialled
  dialled := same ▸ accounts.dialled
  known := by
    intro other held
    rw [frame.nextBlock, same]
    by_cases equal : other = id
    · rw [equal]
      exact ⟨given, public_⟩
    · rw [holders other equal] at held
      exact accounts.known other held
  counted := by
    intro other follows free
    rw [same] at free
    by_cases equal : other = id
    · subst equal
      exact counted follows
    · rw [frame.blocks_of_ne other equal, frame.table_of_ne other equal, holders other equal]
      exact accounts.counted other follows free
  shown := by
    intro other member
    rw [frame.nextBlock, same]
    rcases listener other member with before | rfl
    · exact accounts.shown other before
    · exact ⟨given, public_⟩

/-- Other fields of a block change, and the references stay where they are. -/
theorem edit {id : Nat} {agent : Block} (found : s.world.blocks id = some agent) (after : Block)
    (refCount : after.refCount = agent.refCount) (isDead : after.isDead = agent.isDead)
    (blocks : s'.world.blocks = (s.world.put id after).blocks) (table : s'.world.table = s.world.table)
    (nextBlock : s'.world.nextBlock = s.world.nextBlock) (same : s'.dialled = s.dialled)
    (holders : ∀ other, s'.held other = s.held other) (listener : s'.listener.blocks ⊆ s.listener.blocks) :
    s'.Accounts tracked where
  nodup := table ▸ accounts.nodup
  listed := by
    rw [table, nextBlock]
    exact accounts.listed
  unborn := by
    intro other unborn
    rw [nextBlock] at unborn
    have different : other ≠ id := by
      have := accounts.born found
      omega
    rw [blocks, World.blocks_put_of_ne different]
    exact accounts.unborn other unborn
  own := by
    intro other dialled
    rw [same] at dialled
    rw [table, blocks]
    obtain ⟨absent, block, present, one, alive⟩ := accounts.own other dialled
    refine ⟨absent, ?_⟩
    by_cases equal : other = id
    · subst equal
      rw [found] at present
      cases present
      exact ⟨after, World.blocks_put_self, refCount.trans one, isDead.trans alive⟩
    · rw [World.blocks_put_of_ne equal]
      exact ⟨block, present, one, alive⟩
  dialled := same ▸ accounts.dialled
  known := by
    intro other held
    rw [holders] at held
    rw [nextBlock, same]
    exact accounts.known other held
  counted := by
    intro other follows free
    rw [same] at free
    rw [table, holders, blocks]
    have before := accounts.counted other follows free
    by_cases equal : other = id
    · subst equal
      rw [found] at before
      rw [World.blocks_put_self]
      exact before.edit refCount isDead
    · rw [World.blocks_put_of_ne equal]
      exact before
  shown := by
    intro other member
    rw [nextBlock, same]
    exact accounts.shown other (listener member)

/-- Nothing happens to the blocks. -/
theorem still (blocks : s'.world.blocks = s.world.blocks) (table : s'.world.table = s.world.table)
    (nextBlock : s'.world.nextBlock = s.world.nextBlock) (same : s'.dialled = s.dialled)
    (holders : ∀ other, s'.held other = s.held other) (listener : s'.listener.blocks ⊆ s.listener.blocks) :
    s'.Accounts tracked where
  nodup := table ▸ accounts.nodup
  listed := by
    rw [table, nextBlock]
    exact accounts.listed
  unborn := by
    rw [nextBlock, blocks]
    exact accounts.unborn
  own := by
    intro other dialled
    rw [table, blocks]
    exact accounts.own other (same ▸ dialled)
  dialled := same ▸ accounts.dialled
  known := by
    intro other held
    rw [holders] at held
    rw [nextBlock, same]
    exact accounts.known other held
  counted := by
    intro other follows free
    rw [table, holders, blocks]
    exact accounts.counted other follows (same ▸ free)
  shown := by
    intro other member
    rw [nextBlock, same]
    exact accounts.shown other (listener member)

end Accounts

variable {s s' : Process}

theorem held_eq (s : Process) (id : Nat) :
    s.held id = s.listener.holds.count id + (s.sends.map Send.block).count id := List.count_append

theorem held_congr (listener : s'.listener = s.listener) (sends : s'.sends = s.sends) (id : Nat) :
    s'.held id = s.held id := by
  rw [held_eq, held_eq, listener, sends]

/-- A sender goes on with the block that it holds. -/
theorem held_advance (s : Process) {send : Send} (member : send ∈ s.sends) (next : Stage) (w : World) (id : Nat) :
    held { s with world := w, sends := { send with stage := next } :: s.sends.erase send } id = s.held id := by
  have split := (List.perm_cons_erase member).map Send.block
  rw [held_eq, held_eq, split.count_eq]
  rfl

theorem held_release (s : Process) {send : Send} (member : send ∈ s.sends) (w : World) (id : Nat) :
    s.held id = held { s with world := w, sends := s.sends.erase send } id + if send.block = id then 1 else 0 := by
  have split := (List.perm_cons_erase member).map Send.block
  rw [held_eq, held_eq, split.count_eq, List.map_cons, List.count_cons]
  simp only [beq_iff_eq]
  omega

/-- A step of the listener that leaves the senders alone. -/
theorem held_listener (s : Process) (w : World) (next : Listener) (id : Nat) :
    held { s with world := w, listener := next } id + s.listener.holds.count id = s.held id + next.holds.count id := by
  rw [held_eq, held_eq]
  simp only []
  omega

theorem held_keep (s : Process) (w : World) {next : Listener} (holds : next.holds = s.listener.holds) (id : Nat) :
    held { s with world := w, listener := next } id = s.held id := by
  have balance := held_listener s w next id
  rw [holds] at balance
  omega

theorem held_take (s : Process) (w : World) {next : Listener} {id : Nat} (holds : next.holds = id :: s.listener.holds)
    (other : Nat) :
    held { s with world := w, listener := next } other = s.held other + if id = other then 1 else 0 := by
  have balance := held_listener s w next other
  rw [holds, List.count_cons] at balance
  simp only [beq_iff_eq] at balance
  omega

theorem held_give (s : Process) (w : World) {next : Listener} {id : Nat} (holds : s.listener.holds = id :: next.holds)
    (other : Nat) :
    s.held other = held { s with world := w, listener := next } other + if id = other then 1 else 0 := by
  have balance := held_listener s w next other
  rw [holds, List.count_cons] at balance
  simp only [beq_iff_eq] at balance
  omega

theorem held_send (s : Process) (w : World) (id : Nat) (stage : Stage) (other : Nat) :
    held { s with world := w, sends := ⟨id, stage⟩ :: s.sends } other =
      s.held other + if id = other then 1 else 0 := by
  rw [held_eq, held_eq, List.map_cons, List.count_cons]
  simp only [beq_iff_eq]
  omega

namespace Accounts

variable {tracked : Nat → Prop} (accounts : s.Accounts tracked)

include accounts

/-- A party acquires a block. -/
theorem acquire {id : Nat} {agent touched : Block} (found : s.world.blocks id = some agent)
    (refCount : touched.refCount = agent.refCount) (isDead : touched.isDead = agent.isDead) (public_ : id ∉ s.dialled)
    (blocks : s'.world.blocks = (s.world.put id touched.acquired).blocks) (table : s'.world.table = s.world.table)
    (nextBlock : s'.world.nextBlock = s.world.nextBlock) (same : s'.dialled = s.dialled)
    (held : ∀ other, s'.held other = s.held other + if id = other then 1 else 0)
    (mentions : ∀ other ∈ s'.listener.blocks, other ∈ s.listener.blocks ∨ other = id) : s'.Accounts tracked := by
  refine accounts.touch id (.of_put _ blocks table nextBlock) same (fun other different => ?_) public_
    (accounts.born found) ?_ mentions
  · rw [held, if_neg (fun same => different same.symm)]
    rfl
  · intro follows
    have before := accounts.counted id follows public_
    rw [found] at before
    have after : s'.world.blocks id = some touched.acquired := by rw [blocks, World.blocks_put_self]
    rw [held, if_pos rfl, after, table]
    refine before.more ?_ isDead
    change touched.refCount + 1 = agent.refCount + 1
    rw [refCount]

/-- A party releases a reference of its own. -/
theorem release {id : Nat} (frame : World.Frame s.world id s'.world) (same : s'.dialled = s.dialled)
    (held : ∀ other, s.held other = s'.held other + if id = other then 1 else 0)
    (counted : ∀ held, Counted (s.world.blocks id) (id ∈ s.world.table) (held + 1) →
      Counted (s'.world.blocks id) (id ∈ s'.world.table) held)
    (mentions : s'.listener.blocks ⊆ s.listener.blocks) : s'.Accounts tracked := by
  have own : s.held id = s'.held id + 1 := by rw [held, if_pos rfl]
  obtain ⟨given, public_⟩ := accounts.known id (by omega)
  refine accounts.touch id frame same (fun other different => ?_) public_ given (fun follows => ?_)
    fun other member => .inl (mentions member)
  · rw [held, if_neg (fun same => different same.symm)]
    rfl
  · have before := accounts.counted id follows public_
    rw [own] at before
    exact counted _ before

/-- The listener releases the reference of the table. -/
theorem releaseTable (id : Nat) (member : id ∈ s.listener.blocks) (unheld : tracked id → s.held id = 0)
    (frame : World.Frame s.world id s'.world) (same : s'.dialled = s.dialled)
    (held : ∀ other, s'.held other = s.held other)
    (counted : Counted (s.world.blocks id) (id ∈ s.world.table) 0 → Counted (s'.world.blocks id) (id ∈ s'.world.table) 0)
    (mentions : s'.listener.blocks ⊆ s.listener.blocks) : s'.Accounts tracked := by
  obtain ⟨given, public_⟩ := accounts.shown id member
  refine accounts.touch id frame same (fun other _ => held other) public_ given (fun follows => ?_)
    fun other inside => .inl (mentions inside)
  have before := accounts.counted id follows public_
  rw [unheld follows] at before
  rw [held, unheld follows]
  exact counted before

/-- An accepted connection gets a block of its own. -/
theorem accept (agent : Block) (alive : agent.isDead = false) (one : agent.refCount = 1)
    (blocks : s'.world.blocks = (s.world.put s.world.nextBlock agent).blocks)
    (table : s'.world.table = s.world.table ++ [s.world.nextBlock]) (nextBlock : s'.world.nextBlock = s.world.nextBlock + 1)
    (same : s'.dialled = s.dialled) (held : ∀ other, s'.held other = s.held other)
    (mentions : s'.listener.blocks = s.listener.blocks) : s'.Accounts tracked where
  nodup := by
    rw [table, ← List.concat_eq_append]
    exact accounts.nodup.concat accounts.nextBlock_not_mem
  listed := by
    intro other member
    rw [table] at member
    rw [nextBlock]
    rcases List.mem_append.mp member with before | last
    · exact (accounts.listed other before).trans (Nat.lt_succ_self _)
    · rw [List.mem_singleton.mp last]
      exact Nat.lt_succ_self _
  unborn := by
    intro other unborn
    rw [nextBlock] at unborn
    rw [blocks, World.blocks_put_of_ne (by omega)]
    exact accounts.unborn other (by omega)
  own := by
    intro other dialled
    rw [same] at dialled
    have different : other ≠ s.world.nextBlock := fun equal => accounts.nextBlock_not_dialled (equal ▸ dialled)
    obtain ⟨absent, rest⟩ := accounts.own other dialled
    rw [table, blocks, World.blocks_put_of_ne different]
    exact ⟨by simp [absent, different], rest⟩
  dialled := same ▸ accounts.dialled
  known := by
    intro other held'
    rw [held] at held'
    obtain ⟨given, free⟩ := accounts.known other held'
    rw [nextBlock, same]
    exact ⟨by omega, free⟩
  counted := by
    intro other follows free
    rw [same] at free
    rw [table, held, blocks]
    by_cases equal : other = s.world.nextBlock
    · subst equal
      rw [World.blocks_put_self, accounts.held_nextBlock]
      exact .of_listed (by simp) alive one
    · rw [World.blocks_put_of_ne equal]
      simpa [equal] using accounts.counted other follows free
  shown := by
    intro other member
    rw [mentions] at member
    rw [nextBlock, same]
    obtain ⟨given, free⟩ := accounts.shown other member
    exact ⟨by omega, free⟩

/-- A connect thread has its block ready. -/
theorem dial (agent : Block) (alive : agent.isDead = false) (one : agent.refCount = 1)
    (blocks : s'.world.blocks = (s.world.put s.world.nextBlock agent).blocks) (table : s'.world.table = s.world.table)
    (nextBlock : s'.world.nextBlock = s.world.nextBlock + 1) (more : s'.dialled = s.world.nextBlock :: s.dialled)
    (held : ∀ other, s'.held other = s.held other) (mentions : s'.listener.blocks = s.listener.blocks) : s'.Accounts tracked where
  nodup := table ▸ accounts.nodup
  listed := by
    intro other member
    rw [table] at member
    rw [nextBlock]
    exact (accounts.listed other member).trans (Nat.lt_succ_self _)
  unborn := by
    intro other unborn
    rw [nextBlock] at unborn
    rw [blocks, World.blocks_put_of_ne (by omega)]
    exact accounts.unborn other (by omega)
  own := by
    intro other dialled
    rw [table, blocks]
    rw [more, List.mem_cons] at dialled
    by_cases equal : other = s.world.nextBlock
    · subst equal
      exact ⟨accounts.nextBlock_not_mem, agent, World.blocks_put_self, one, alive⟩
    · rw [World.blocks_put_of_ne equal]
      exact accounts.own other (dialled.resolve_left equal)
  dialled := by
    rw [more]
    exact accounts.dialled.cons accounts.nextBlock_not_dialled
  known := by
    intro other held'
    rw [held] at held'
    obtain ⟨given, free⟩ := accounts.known other held'
    rw [nextBlock, more, List.mem_cons, not_or]
    exact ⟨by omega, by omega, free⟩
  counted := by
    intro other follows free
    rw [more, List.mem_cons, not_or] at free
    rw [table, held, blocks, World.blocks_put_of_ne free.1]
    exact accounts.counted other follows free.2
  shown := by
    intro other member
    rw [mentions] at member
    obtain ⟨given, free⟩ := accounts.shown other member
    rw [nextBlock, more, List.mem_cons, not_or]
    exact ⟨by omega, by omega, free⟩

/-- A connect thread has freed its block. -/
theorem giveUp (blocks : ∀ id, s'.world.blocks id = if id = s.world.nextBlock then none else s.world.blocks id)
    (table : s'.world.table = s.world.table) (nextBlock : s'.world.nextBlock = s.world.nextBlock + 1)
    (same : s'.dialled = s.dialled) (held : ∀ other, s'.held other = s.held other)
    (mentions : s'.listener.blocks = s.listener.blocks) : s'.Accounts tracked := by
  have unchanged (id : Nat) : s'.world.blocks id = s.world.blocks id := by
    rw [blocks]
    split
    · next equal => rw [equal, accounts.unborn _ le_rfl]
    · rfl
  refine ⟨table ▸ accounts.nodup, fun other member => ?_, fun other unborn => ?_, fun other dialled => ?_,
    same ▸ accounts.dialled, fun other held' => ?_, fun other follows free => ?_, fun other member => ?_⟩
  · rw [table] at member
    rw [nextBlock]
    exact (accounts.listed other member).trans (Nat.lt_succ_self _)
  · rw [unchanged]
    exact accounts.unborn other (by omega)
  · rw [table, unchanged]
    exact accounts.own other (same ▸ dialled)
  · rw [held] at held'
    obtain ⟨given, free⟩ := accounts.known other held'
    exact ⟨by omega, same ▸ free⟩
  · rw [table, held, unchanged]
    exact accounts.counted other follows (same ▸ free)
  · rw [mentions] at member
    obtain ⟨given, free⟩ := accounts.shown other member
    exact ⟨by omega, same ▸ free⟩

/-- The block of a connect thread goes in the table. -/
theorem publish {id : Nat} {agent : Block} (member : id ∈ s.dialled) (found : s.world.blocks id = some agent)
    {after : Block} (refCount : after.refCount = agent.refCount) (isDead : after.isDead = agent.isDead)
    (blocks : s'.world.blocks = (s.world.put id after).blocks) (table : s'.world.table = s.world.table ++ [id])
    (nextBlock : s'.world.nextBlock = s.world.nextBlock) (fewer : s'.dialled = s.dialled.erase id)
    (held : ∀ other, s'.held other = s.held other) (mentions : s'.listener.blocks = s.listener.blocks) : s'.Accounts tracked := by
  obtain ⟨absent, block, present, one, alive⟩ := accounts.own id member
  rw [found] at present
  cases present
  have unheld : s.held id = 0 := by
    by_contra some
    exact (accounts.known id (by omega)).2 member
  refine ⟨?_, fun other inside => ?_, fun other unborn => ?_, fun other dialled => ?_, ?_, fun other held' => ?_,
    fun other follows free => ?_, fun other inside => ?_⟩
  · rw [table, ← List.concat_eq_append]
    exact accounts.nodup.concat absent
  · rw [table] at inside
    rw [nextBlock]
    rcases List.mem_append.mp inside with before | last
    · exact accounts.listed other before
    · rw [List.mem_singleton.mp last]
      exact accounts.born found
  · have := accounts.born found
    rw [nextBlock] at unborn
    rw [blocks, World.blocks_put_of_ne (by omega)]
    exact accounts.unborn other unborn
  · rw [fewer] at dialled
    have different : other ≠ id := fun equal => accounts.dialled.not_mem_erase (equal ▸ dialled)
    obtain ⟨outside, rest⟩ := accounts.own other (List.mem_of_mem_erase dialled)
    rw [table, blocks, World.blocks_put_of_ne different]
    exact ⟨by simp [outside, different], rest⟩
  · rw [fewer]
    exact accounts.dialled.erase id
  · rw [held] at held'
    obtain ⟨given, free⟩ := accounts.known other held'
    rw [nextBlock, fewer]
    exact ⟨given, fun dialled => free (List.mem_of_mem_erase dialled)⟩
  · rw [fewer] at free
    rw [table, held, blocks]
    by_cases equal : other = id
    · subst equal
      rw [World.blocks_put_self, unheld]
      exact .of_listed (by simp) (isDead.trans alive) (refCount.trans one)
    · rw [World.blocks_put_of_ne equal]
      have before := accounts.counted other follows fun dialled => free ((List.mem_erase_of_ne equal).mpr dialled)
      simpa [equal] using before
  · rw [mentions] at inside
    obtain ⟨given, free⟩ := accounts.shown other inside
    rw [nextBlock, fewer]
    exact ⟨given, fun dialled => free (List.mem_of_mem_erase dialled)⟩

/-- Other fields of a block change while the listener goes on from a message. -/
theorem processed {task : Task} {id : Nat} {incoming : Incoming} (place : s.listener = .reading task id incoming)
    {agent : Block} (found : s.world.blocks id = some agent) (after : Block) (refCount : after.refCount = agent.refCount)
    (isDead : after.isDead = agent.isDead) {w : World} (blocks : w.blocks = (s.world.put id after).blocks)
    (table : w.table = s.world.table) (nextBlock : w.nextBlock = s.world.nextBlock) (rc : DefwRc) :
    Accounts tracked { s with world := w, listener := .after task id rc } := by
  refine accounts.edit found after refCount isDead blocks table nextBlock rfl (held_keep s _ ?_) ?_
  · rw [place, Listener.holds_after]
    rfl
  · rw [place]
    exact Listener.blocks_after task id rc

/-- What a connect thread does before its block is in the table. -/
theorem connected {dial : Dial} {req : ConnectReq} {w : World} {result : Option Nat} {requests : Nat}
    (dialled : s.world.Dialled req dial (w, result)) :
    Accounts tracked { s with world := w, dialled := result.toList ++ s.dialled, requests := requests } := by
  cases dialled with
  | refused rc => exact accounts.still rfl rfl rfl rfl (held_congr rfl rfl) (List.Subset.refl _)
  | ended addr fds rc known untrue fails highest =>
    have blocks (id : Nat) : (((((s.world.calling addr dial req).opening fds).shed fds highest).freeAgentBlk
        s.world.nextBlock).failConnect req rc).blocks id =
        if id = s.world.nextBlock then none else s.world.blocks id := by
      by_cases equal : id = s.world.nextBlock
      · rw [if_pos equal]
        exact if_pos equal
      · rw [if_neg equal]
        exact (if_neg equal).trans (World.blocks_calling_of_ne addr equal)
    refine accounts.giveUp ?_ ?_ ?_ ?_ ?_ ?_
    · exact blocks
    · simp only [World.failConnect, World.notify, World.freeAgentBlk, World.shed, World.opening, World.table_calling]
    · simp only [World.failConnect, World.notify, World.freeAgentBlk, World.shed, World.opening, World.nextBlock_calling]
    · rfl
    · exact held_congr rfl rfl
    · rfl
  | up addr control rpc =>
    refine accounts.dial ((((Block.dialling addr s.world.clock dial req).plugControl
      (some control)).controlUp.plugRpc (some rpc)).rpcUp dial) ?_ ?_ ?_ ?_ ?_ ?_ ?_ ?_
    · rfl
    · rfl
    · funext id
      by_cases equal : id = s.world.nextBlock
      · rw [equal, World.blocks_put_self, World.blocks_put_self]
      · rw [World.blocks_put_of_ne equal, World.blocks_put_of_ne equal]
        exact World.blocks_calling_of_ne addr equal
    · simp only [World.put, World.opening, World.table_calling]
    · simp only [World.put, World.opening, World.nextBlock_calling]
    · rfl
    · exact held_congr rfl rfl
    · rfl

/-- One step, with no release of a reference to a tracked block that others count on. -/
theorem step {action : Action} (enabled : s.Enabled action)
    (exclusive : ∀ id ∈ s.tableRelease action, tracked id → s.held id = 0)
    (took : Took s action s') : s'.Accounts tracked := by
  cases took with
  | tick seconds => exact accounts.still rfl rfl rfl rfl (held_congr rfl rfl) (List.Subset.refl _)
  | selectFails => exact accounts.still rfl rfl rfl rfl (held_congr rfl rfl) (List.Subset.refl _)
  | acceptNew fd addr =>
    exact accounts.accept ((Block.fresh addr s.world.clock).plugControl (some fd)) rfl rfl
      (s.world.blocks_acceptedNew fd addr) rfl rfl rfl (held_congr rfl rfl) rfl
  | acceptKnown fd addr id agent known found =>
    have place : s.listener = .idle := enabled.1
    have member : id ∈ s.world.table := (World.findAgent_mem known).1
    refine accounts.acquire found rfl rfl (accounts.not_dialled_of_mem member) rfl rfl rfl rfl (held_take s _ ?_) ?_
    · rw [place]
      rfl
    · intro other inside
      simp only [Listener.blocks, List.mem_singleton] at inside
      exact .inr inside
  | visited _ id agent touched found touch next begins guard =>
    obtain ⟨place, member⟩ := guard enabled
    have same : touched.refCount = agent.refCount ∧ touched.isDead = agent.isDead := by
      rcases touch with rfl | rfl <;> exact ⟨rfl, rfl⟩
    refine accounts.acquire found same.1 same.2 (accounts.not_dialled_of_mem member) rfl rfl rfl rfl (held_take s _ ?_) ?_
    · rw [place, begins.holds]
      rfl
    · intro other inside
      simp only [begins.blocks, List.mem_singleton] at inside
      exact .inr inside
  | rested => exact accounts
  | returned id fd place w' run =>
    refine accounts.release (World.releaseAgentBlk_frame run) rfl (held_give s _ ?_)
      (fun _ before => before.release accounts.nodup run) ?_
    · rw [place]
      rfl
    · rw [place]
      exact List.Subset.refl _
  | adopted id fd place agent found =>
    refine accounts.edit found (agent.plugControl (some fd)) rfl rfl rfl rfl rfl rfl (held_keep s _ ?_) ?_
    · rw [place]
      rfl
    · exact List.nil_subset _
  | greeted id hb rpcReady place w' run next greets =>
    refine accounts.release (World.releaseAgentConn_frame run) rfl (held_give s _ ?_) (fun _ before => before.releaseConn run) ?_
    · rw [place, greets.holds]
      rfl
    · rw [place]
      exact greets.blocks
  | refused task id incoming place rc =>
    refine accounts.still rfl rfl rfl rfl (held_keep s _ ?_) ?_
    · rw [place, Listener.holds_after]
      rfl
    · rw [place]
      exact Listener.blocks_after task id rc
  | heard task id incoming place agent found hb =>
    have alike := s.world.alike_heardBy id agent hb
    refine accounts.processed place found _ alike.refCount alike.isDead ?_ ?_ ?_ .ok <;> rfl
  | identified task id incoming place agent message delivered =>
    obtain ⟨_, _, _, _, found, _⟩ := delivery_eq_some_iff.mp delivered
    rcases s.world.identified_cases id agent (Session.read message.body) with ⟨_, result⟩ | ⟨_, result⟩
    · obtain ⟨_, _, _, suspended⟩ := World.listenerSuspendFd_eq
        (s.world.put id (agent.learn (Session.read message.body) s.world.clock).becomeRpc) agent.iFileDesc
      rw [result, suspended]
      refine accounts.processed place found ((agent.learn (Session.read message.body) s.world.clock).becomeRpc)
        ?_ ?_ ?_ ?_ ?_ .ok <;> rfl
    · rw [result]
      exact accounts.processed place found ((agent.learn (Session.read message.body) s.world.clock).becomeControl)
        rfl rfl rfl rfl rfl .ok
  | matched task id incoming place agent message delivered isSession valid existing known matching there =>
    have member : existing ∈ s.world.table := (World.findAgentByUuidPassive_mem matching).1
    refine accounts.acquire there rfl rfl (accounts.not_dialled_of_mem member) rfl rfl rfl rfl (held_take s _ ?_) ?_
    · rw [place]
      rfl
    · intro other inside
      rw [place]
      simp only [Listener.blocks, List.mem_cons, List.not_mem_nil, or_false] at inside ⊢
      exact inside
  | served task id incoming place agent found message rc =>
    have same : (if message.header.type = .rmaAck then agent else agent.working false).refCount = agent.refCount ∧
        (if message.header.type = .rmaAck then agent else agent.working false).isDead = agent.isDead := by
      split <;> exact ⟨rfl, rfl⟩
    refine accounts.processed place found _ same.1 same.2 ?_ ?_ ?_ rc <;> rfl
  | merged task id existing ses place agent known found there =>
    have alike := s.world.alike_mergedWith existing known agent ses
    have kept : (s.world.attached known agent ses).refCount = known.refCount ∧
        (s.world.attached known agent ses).isDead = known.isDead := by
      unfold World.attached
      split <;> exact ⟨rfl, rfl⟩
    obtain ⟨_, _, _, resumed⟩ := s.world.listenerResumeFd_eq (World.resumed known ses)
    rw [World.mergedInto, resumed]
    refine accounts.edit there _ (alike.refCount.trans kept.1) (alike.isDead.trans kept.2) rfl rfl rfl rfl (held_keep s _ ?_) ?_
    · rw [place]
      rfl
    · rw [place]
      exact List.Subset.refl _
  | matchReturned task id existing place w' run =>
    refine accounts.release (World.releaseAgentBlk_frame run) rfl (held_give s _ ?_)
      (fun _ before => before.release accounts.nodup run) ?_
    · rw [place]
      rfl
    · rw [place]
      exact List.Subset.refl _
  | dropped task id existing place apart w' run =>
    have unheld : tracked id → s.held id = 0 := exclusive id (by simp [tableRelease, place])
    have ended : s.world.leave id false none = .ok w' := run
    refine accounts.releaseTable id ?_ unheld (World.releaseAgentBlk_frame run) rfl (held_keep s _ ?_) ?_ ?_
    · simp [place, Listener.blocks]
    · rw [place, Listener.holds_after]
      rfl
    · exact fun before => before.leaveTable accounts.nodup ended
    · rw [place]
      exact List.Subset.trans (Listener.blocks_after task id .ok) (by simp [Listener.blocks])
  | left task id dead reason place w' run =>
    cases task with
    | fresh =>
      have unheld : tracked id → s.held id = 0 := exclusive id (by simp [tableRelease, place])
      refine accounts.releaseTable id ?_ unheld (World.leave_frame run) rfl (held_keep s _ ?_) ?_ (List.nil_subset _)
      · simp [place, Listener.blocks]
      · rw [place]
        rfl
      · exact fun before => before.leaveTable accounts.nodup run
    | established rest =>
      refine accounts.release (World.leave_frame run) rfl (held_give s _ ?_)
        (fun _ before => before.leave accounts.nodup run) (List.nil_subset _)
      rw [place]
      rfl
  | dialled dial w' result dialled => exact accounts.connected dialled
  | published id agent found reported report =>
    subst report
    have alike := agent.alike_reportPeerReady s.world.uuid s.world.clock id "outbound-rpc-ready"
    exact accounts.publish enabled found alike.refCount alike.isDead rfl rfl rfl rfl (held_congr rfl rfl) rfl
  | missed => exact accounts
  | acquired action id lookup agent found stage =>
    exact accounts.acquire found rfl rfl (accounts.not_dialled_of_mem (lookup_mem lookup)) rfl rfl rfl rfl (held_send s _ id stage)
      fun _ => .inl
  | sent send net next => exact accounts.still rfl rfl rfl rfl (held_advance s enabled.1 next _) (List.Subset.refl _)
  | unplugged send net _ agent found _ _ next =>
    exact accounts.edit found (agent.plugRpc none) rfl rfl rfl rfl rfl rfl (held_advance s enabled.1 next _)
      (List.Subset.refl _)
  | opened send net _ agent found _ fd _ flag next =>
    exact accounts.edit found ((agent.plugRpc (some fd)).rpcFlagged flag) rfl rfl rfl rfl rfl rfl
      (held_advance s enabled.1 next _) (List.Subset.refl _)
  | worked send net agent found flag next =>
    exact accounts.edit found (agent.working flag) rfl rfl rfl rfl rfl rfl (held_advance s enabled.1 next _)
      (List.Subset.refl _)
  | released send net dead _ w' run =>
    exact accounts.release (World.releaseAgentBlk_frame run) rfl (held_release s enabled.1 _)
      (fun _ before => before.release accounts.nodup run) (List.Subset.refl _)

end Accounts

theorem accounts_start (tracked : Nat → Prop) (uuid : Uuid) (clock listenFd : Nat) :
    (start uuid clock listenFd).Accounts tracked where
  nodup := List.nodup_nil
  listed := nofun
  unborn := fun _ _ => rfl
  own := nofun
  dialled := List.nodup_nil
  known := nofun
  counted := fun _ _ _ => .of_none List.not_mem_nil
  shown := nofun

theorem accounted_run {uuid : Uuid} {clock listenFd : Nat} {actions : List Action} {s : Process}
    (admits : machine.Admits (fun s action => s.Enabled action ∧ s.Exclusive action) (start uuid clock listenFd) actions)
    (run : machine.run (start uuid clock listenFd) actions = .ok s) : s.Accounted := by
  refine Faulting.run_invariant Accounted (fun s action s' accounted allowed step => ?_)
    (accounts_start _ uuid clock listenFd) admits run
  exact accounted.step allowed.1 (fun id release _ => allowed.2 id release) (step_took accounted.nextBlock_not_mem step)

/-- A sender holds the block of a process while its second connection is merged. -/
def heldMerge : List Action :=
  introduction ++
    [.send (Uuid.filled 2) none, .accept 6 ⟨0x7f000001, 40002⟩,
      .newAgent 1 (some ((Session.plain (Uuid.filled 2) true).incoming (Uuid.filled 2) .sessionInfo)) false,
      .proceed, .proceed, .proceed, .proceed, .proceed]

/-- A sender finds a connection that has not introduced itself by the null uuid, and
the peer closes it. -/
def heldNew : List Action :=
  [.accept 5 ⟨0x7f000001, 40001⟩, .send (Uuid.filled 0) none, .newAgent 0 (some (.noHeader .clientClosed)) false,
    .proceed, .proceed, .proceed]

end Process

open Process in
/-- As long as the listener releases the reference of the table only when nobody
holds the block, no block is freed while somebody does. -/
theorem held_block_not_freed (uuid : Uuid) (clock listenFd : Nat) (actions : List Action) (s : Process)
    (admits : machine.Admits (fun s action => s.Enabled action ∧ s.Exclusive action) (start uuid clock listenFd) actions)
    (run : machine.run (start uuid clock listenFd) actions = .ok s) :
    ∀ id, 0 < s.held id → ∃ agent, s.world.blocks id = some agent := by
  intro id held
  have accounted := accounted_run admits run
  have counted := accounted.counted id trivial (accounted.known id held).2
  cases found : s.world.blocks id with
  | none =>
    have := (counted.gone found).2
    omega
  | some agent => exact ⟨agent, rfl⟩

open Process in
theorem held_block_not_freed_merge : ∃ s, machine.run (start (Uuid.filled 1) 100 3) heldMerge = .ok s ∧ s.held 0 = 1 ∧
    s.world.blocks 1 = none ∧ ∃ agent, s.world.blocks 0 = some agent := by
  have evaluated : (machine.run (start (Uuid.filled 1) 100 3) heldMerge).toOption.map
      (fun s => (s.held 0, s.world.blocks 1)) = some (1, none) := by decide +kernel
  obtain ⟨s, run, shape⟩ := Except.exists_ok_of_map evaluated
  obtain ⟨held, dropped⟩ := Prod.mk.inj shape
  exact ⟨s, run, held, dropped, held_block_not_freed _ _ _ heldMerge s (by decide +kernel) run 0 (by omega)⟩

open Process in
/-- A block is freed that a sender holds. -/
theorem held_block_freed : machine.Admits Enabled (start (Uuid.filled 1) 100 3) heldNew ∧
    ∃ s, machine.run (start (Uuid.filled 1) 100 3) heldNew = .ok s ∧ s.held 0 = 1 ∧ s.world.blocks 0 = none := by
  have evaluated : (machine.run (start (Uuid.filled 1) 100 3) heldNew).toOption.map
      (fun s => (s.held 0, s.world.blocks 0)) = some (1, none) := by decide +kernel
  obtain ⟨s, run, shape⟩ := Except.exists_ok_of_map evaluated
  obtain ⟨held, freed⟩ := Prod.mk.inj shape
  exact ⟨by decide +kernel, s, run, held, freed⟩

end DEFw.Agents
