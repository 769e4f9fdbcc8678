import DEFw.Agents.Release

namespace DEFw.Agents
open Transport (Uuid)

/-- Who has the references to a block, as its count has them: the table one, as
long as the block is in it, and other parties `held`. A block outside the table
was found dead and lives for those who hold it. -/
structure Counted (block : Option Block) (inTable : Prop) (held : Nat) : Prop where
  gone : block = none → ¬inTable ∧ held = 0
  listed : inTable → ∀ agent, block = some agent → agent.isDead = false ∧ agent.refCount = held + 1
  unlisted : ¬inTable → ∀ agent, block = some agent → agent.isDead = true ∧ agent.refCount = held ∧ 0 < held

namespace Counted

variable {w w' : World} {id : Nat} {held : Nat}

theorem of_none {inTable : Prop} (absent : ¬inTable) : Counted none inTable 0 where
  gone := fun _ => ⟨absent, rfl⟩
  listed := fun present => absurd present absent
  unlisted := by simp

theorem of_listed {agent : Block} {inTable : Prop} (present : inTable) (alive : agent.isDead = false)
    (count : agent.refCount = held + 1) : Counted (some agent) inTable held where
  gone := by simp
  listed := by
    rintro _ _ ⟨⟩
    exact ⟨alive, count⟩
  unlisted := fun absent => absurd present absent

theorem of_unlisted {agent : Block} {inTable : Prop} (absent : ¬inTable) (dead : agent.isDead = true)
    (count : agent.refCount = held) (positive : 0 < held) : Counted (some agent) inTable held where
  gone := by simp
  listed := fun present => absurd present absent
  unlisted := by
    rintro _ _ ⟨⟩
    exact ⟨dead, count, positive⟩

theorem acquire (counted : Counted (w.blocks id) (id ∈ w.table) held) (run : w.acquireAgentBlk id = .ok w') :
    Counted (w'.blocks id) (id ∈ w'.table) (held + 1) := by
  obtain ⟨agent, found, rfl⟩ := World.edit_ok_iff.mp run
  rw [World.blocks_put_self]
  by_cases listed : id ∈ w.table
  · obtain ⟨alive, count⟩ := counted.listed listed agent found
    exact of_listed listed alive (by simp only [Block.acquired, count])
  · obtain ⟨dead, count, _⟩ := counted.unlisted listed agent found
    exact of_unlisted listed dead (by simp only [Block.acquired, count]) (by omega)

/-- A party gives back a reference of its own. -/
theorem release {dead : Bool} (nodup : w.table.Nodup) (counted : Counted (w.blocks id) (id ∈ w.table) (held + 1))
    (run : w.releaseAgentBlk id dead = .ok w') : Counted (w'.blocks id) (id ∈ w'.table) held := by
  obtain ⟨agent, found, released⟩ := World.releaseAgentBlk_released run
  have erased : id ∉ w.table.erase id := nodup.not_mem_erase
  by_cases listed : id ∈ w.table
  · obtain ⟨alive, count⟩ := counted.listed listed agent found
    cases released with
    | kept =>
      rw [World.blocks_put_self]
      exact of_listed listed alive (by simp only [Block.released]; omega)
    | removed last isDead => simp [isDead] at alive
    | dropped last => omega
    | retired last => omega
    | buried shared =>
      rw [World.blocks_put_self]
      exact of_unlisted erased (w.isDead_remains id agent) (by rw [World.refCount_remains]; omega) (by omega)
    | buriedFreed last =>
      obtain rfl : held = 0 := by omega
      rw [World.blocks_free_self]
      exact of_none erased
  · obtain ⟨dead, count, _⟩ := counted.unlisted listed agent found
    cases released with
    | kept =>
      rw [World.blocks_put_self]
      exact of_unlisted listed dead (by simp only [Block.released]; omega) (by omega)
    | removed last =>
      obtain rfl : held = 0 := by omega
      rw [World.blocks_free_self]
      exact of_none listed
    | dropped last notDead => simp [notDead] at dead
    | retired last notDead => simp [notDead] at dead
    | buried shared notDead => simp [notDead] at dead
    | buriedFreed last notDead => simp [notDead] at dead

/-- The reference of the table is given back directly, when it is the only one. -/
theorem releaseTable {dead : Bool} (nodup : w.table.Nodup) (counted : Counted (w.blocks id) (id ∈ w.table) 0)
    (listed : id ∈ w.table) (run : w.releaseAgentBlk id dead = .ok w') :
    w'.blocks id = none ∧ Counted (w'.blocks id) (id ∈ w'.table) 0 := by
  obtain ⟨agent, found, released⟩ := World.releaseAgentBlk_released run
  obtain ⟨alive, count⟩ := counted.listed listed agent found
  have erased : id ∉ w.table.erase id := nodup.not_mem_erase
  cases released with
  | kept shared => omega
  | removed last isDead => simp [isDead] at alive
  | dropped =>
    rw [World.blocks_free_self]
    exact ⟨rfl, of_none erased⟩
  | retired =>
    rw [World.blocks_free_self]
    exact ⟨rfl, of_none erased⟩
  | buried shared => omega
  | buriedFreed last => omega

theorem releaseConn (counted : Counted (w.blocks id) (id ∈ w.table) (held + 1))
    (run : w.releaseAgentConn id = .ok w') : Counted (w'.blocks id) (id ∈ w'.table) held := by
  obtain ⟨agent, found, _, result⟩ := World.releaseAgentConn_ok_iff.mp run
  have count : agent.released.refCount = agent.refCount - 1 := rfl
  by_cases listed : id ∈ w.table
  · obtain ⟨alive, references⟩ := counted.listed listed agent found
    rcases result with ⟨_, rfl⟩ | ⟨last, _⟩
    · rw [World.blocks_put_self]
      exact of_listed listed alive (by omega)
    · omega
  · obtain ⟨dead, references, _⟩ := counted.unlisted listed agent found
    rcases result with ⟨_, rfl⟩ | ⟨last, rfl⟩
    · rw [World.blocks_put_self]
      exact of_unlisted listed dead (by omega) (by omega)
    · obtain rfl : held = 0 := by omega
      rw [World.blocks_free_self]
      exact of_none (fun present => listed (List.mem_of_mem_erase present))

theorem releaseConnTable (nodup : w.table.Nodup) (counted : Counted (w.blocks id) (id ∈ w.table) 0)
    (listed : id ∈ w.table) (run : w.releaseAgentConn id = .ok w') :
    w'.blocks id = none ∧ Counted (w'.blocks id) (id ∈ w'.table) 0 := by
  obtain ⟨agent, found, _, result⟩ := World.releaseAgentConn_ok_iff.mp run
  obtain ⟨_, references⟩ := counted.listed listed agent found
  rcases result with ⟨shared, _⟩ | ⟨_, rfl⟩
  · omega
  · rw [World.blocks_free_self]
    exact ⟨rfl, of_none nodup.not_mem_erase⟩

end Counted

/-- The two functions that give a reference back. -/
inductive How
  | blk (dead : Bool)
  | conn

def World.releaseBy (w : World) (id : Nat) : How → Except Fault World
  | .blk dead => w.releaseAgentBlk id dead
  | .conn => w.releaseAgentConn id

/-- What happens to the blocks of the table: one is allocated, a lookup acquires
one, a party releases a reference it acquired, the reference of the table itself
is released, or other fields of a block change. -/
inductive RefOp
  | alloc (addr : Addr)
  | acquire (id : Nat)
  | release (id : Nat) (how : How)
  | releaseTable (id : Nat) (how : How)
  | change (id : Nat) (fields : Block → Block)
      (keeps : ∀ agent, (fields agent).refCount = agent.refCount ∧ (fields agent).isDead = agent.isDead ∧
        (fields agent).workInProgress = agent.workInProgress)

/-- The process with the references that are outstanding, block by block. -/
structure Refs where
  world : World
  held : Nat → Nat

namespace Refs

def start (uuid : Uuid) (clock : Nat) (listenFd : Nat) : Refs := ⟨World.init uuid clock listenFd, fun _ => 0⟩

def setHeld (s : Refs) (id : Nat) (count : Nat) : Nat → Nat := fun other => if other = id then count else s.held other

def step (s : Refs) : RefOp → Except Fault Refs
  | .alloc addr => .ok { s with world := s.world.allocAgentBlk addr true }
  | .acquire id => do
    let w ← s.world.acquireAgentBlk id
    return ⟨w, s.setHeld id (s.held id + 1)⟩
  | .release id how => do
    let w ← s.world.releaseBy id how
    return ⟨w, s.setHeld id (s.held id - 1)⟩
  | .releaseTable id how => do
    let w ← s.world.releaseBy id how
    return { s with world := w }
  | .change id fields _ => do
    let w ← s.world.edit id fields
    return { s with world := w }

def machine : Faulting Refs RefOp Fault := ⟨step⟩

/-- `defw_release_agent_conn` is for connections that are still new. -/
def Suits (s : Refs) (id : Nat) : How → Prop
  | .blk _ => True
  | .conn => (s.world.blocks id).any Block.isNew

instance (s : Refs) (id : Nat) : (how : How) → Decidable (s.Suits id how)
  | .blk _ => isTrue trivial
  | .conn => inferInstanceAs (Decidable (_ = true))

/-- Lookups find what is in the table, a release returns a reference that was
acquired, and that of the table is released when no other is outstanding. -/
def Allowed (s : Refs) : RefOp → Prop
  | .alloc _ => True
  | .acquire id => id ∈ s.world.table
  | .release id how => 0 < s.held id ∧ s.Suits id how
  | .releaseTable id how => id ∈ s.world.table ∧ s.held id = 0 ∧ s.Suits id how
  | .change id _ _ => (s.world.blocks id).isSome

instance (s : Refs) : (op : RefOp) → Decidable (s.Allowed op)
  | .alloc _ => isTrue trivial
  | .acquire _ => inferInstanceAs (Decidable (_ ∈ _))
  | .release _ _ => inferInstanceAs (Decidable (_ ∧ _))
  | .releaseTable _ _ => inferInstanceAs (Decidable (_ ∧ _))
  | .change _ _ _ => inferInstanceAs (Decidable (_ = true))

end Refs

namespace World

variable {w w' : World} {id : Nat}

/-- The reports of a release free nothing. -/
theorem count_freed_reports (w : World) (id freed : Nat) (agent : Block) :
    (w.reportLoss id agent).2.count (.freed freed) = 0 ∧ (w.reportRemoval id agent).count (.freed freed) = 0 := by
  constructor
  · simp only [reportLoss, Block.reportPeerLost]
    split <;> simp
  · simp only [reportRemoval, Block.reportPeerRemoved]
    split <;> simp

theorem count_freed_lossIf (w : World) (dead : Bool) (id freed : Nat) (agent : Block) :
    (w.lossIf dead id agent).2.count (.freed freed) = 0 := by
  unfold lossIf
  split
  · exact (w.count_freed_reports id freed agent).1
  · rfl

theorem count_freed_concat (before : List Notice) {said : List Notice} (id freed : Nat)
    (quiet : said.count (.freed freed) = 0) :
    (before ++ said ++ [Notice.freed id]).count (.freed freed) =
      before.count (.freed freed) + if freed = id then 1 else 0 := by
  by_cases same : freed = id
  · subst same
    simp [quiet]
  · have other : id ≠ freed := fun equal => same equal.symm
    simp [quiet, same, other]

theorem Released.count_freed {agent : Block} {dead : Bool} (released : Released w id agent dead w') (freed : Nat) :
    w'.notices.count (.freed freed) =
      w.notices.count (.freed freed) + if freed = id ∧ w'.blocks id = none then 1 else 0 := by
  cases released with
  | kept => simp [put]
  | removed =>
    simp only [blocks_free_self, and_true]
    exact count_freed_concat w.notices id freed (w.count_freed_reports id freed agent.released).2
  | dropped =>
    simp only [blocks_free_self, and_true]
    have told := count_freed_concat w.notices id freed List.count_nil
    rwa [List.append_nil] at told
  | retired =>
    simp only [blocks_free_self, and_true]
    have quiet := w.count_freed_lossIf dead id freed agent.released
    have silent := (w.count_freed_reports id freed (w.lossIf dead id agent.released).1.unplugged).2
    have none : ((w.lossIf dead id agent.released).2 ++
        w.reportRemoval id (w.lossIf dead id agent.released).1.unplugged).count (.freed freed) = 0 := by
      rw [List.count_append, quiet, silent]
    exact count_freed_concat w.notices id freed none
  | buried =>
    have quiet := (w.count_freed_reports id freed agent.released.dying).1
    have told : (w.notices ++ (w.reportLoss id agent.released.dying).2).count (.freed freed) =
        w.notices.count (.freed freed) := by
      rw [List.count_append, quiet, Nat.add_zero]
    simp only [blocks_put_self, reduceCtorEq, and_false, if_false]
    exact told
  | buriedFreed =>
    simp only [blocks_free_self, and_true]
    have quiet := (w.count_freed_reports id freed agent.released.dying).1
    have silent := (w.count_freed_reports id freed (w.remains id agent)).2
    have none : ((w.reportLoss id agent.released.dying).2 ++ w.reportRemoval id (w.remains id agent)).count
        (.freed freed) = 0 := by
      rw [List.count_append, quiet, silent]
    exact count_freed_concat w.notices id freed none

theorem Released.workInProgress_eq {agent after : Block} {dead : Bool} (released : Released w id agent dead w')
    (found : w'.blocks id = some after) : after.workInProgress = agent.workInProgress := by
  rcases released.found_cases found with rfl | rfl
  · rfl
  · obtain ⟨_, _, _, _, same⟩ := w.remains_eq id agent
    rw [same]
    rfl

/-- A step on the references of one block frees that block or none. -/
structure Touches (w : World) (id : Nat) (w' : World) : Prop extends Frame w id w' where
  workInProgress : ∀ after, w'.blocks id = some after →
    ∃ agent, w.blocks id = some agent ∧ after.workInProgress = agent.workInProgress
  count_freed : ∀ freed, w'.notices.count (.freed freed) =
    w.notices.count (.freed freed) + if freed = id ∧ w'.blocks id = none then 1 else 0

theorem put_touches {agent after : Block} (found : w.blocks id = some agent)
    (work : after.workInProgress = agent.workInProgress) : Touches w id (w.put id after) where
  toFrame := .of_put after rfl rfl rfl
  workInProgress := by
    intro other there
    rw [blocks_put_self] at there
    cases there
    exact ⟨agent, found, work⟩
  count_freed := by simp [put]

theorem releaseBy_touches {how : How} (run : w.releaseBy id how = .ok w') : Touches w id w' := by
  cases how with
  | blk dead =>
    obtain ⟨agent, found, released⟩ := releaseAgentBlk_released run
    exact {
      toFrame := releaseAgentBlk_frame run
      workInProgress := fun after there => ⟨agent, found, released.workInProgress_eq there⟩
      count_freed := released.count_freed }
  | conn =>
    have frame := releaseAgentConn_frame run
    obtain ⟨agent, found, _, ⟨_, rfl⟩ | ⟨_, rfl⟩⟩ := releaseAgentConn_ok_iff.mp run
    · exact put_touches found rfl
    · exact {
        toFrame := frame
        workInProgress := by simp
        count_freed := by
          intro freed
          simp only [blocks_free_self, and_true]
          have told := count_freed_concat w.notices id freed List.count_nil
          rwa [List.append_nil] at told }

end World

/-- The count of a block, zero once it is freed. -/
def World.refCountOf (w : World) (id : Nat) : Nat := (w.blocks id).elim 0 Block.refCount

theorem Counted.refCountOf_eq {w : World} {id held : Nat} (counted : Counted (w.blocks id) (id ∈ w.table) held) :
    w.refCountOf id = held + if id ∈ w.table then 1 else 0 := by
  unfold World.refCountOf
  cases found : w.blocks id with
  | none =>
    obtain ⟨absent, unheld⟩ := counted.gone found
    simp [absent, unheld]
  | some agent =>
    by_cases listed : id ∈ w.table
    · simp [listed, (counted.listed listed agent found).2]
    · simp [listed, (counted.unlisted listed agent found).2.1]

/-- After a dead release the block is out of the table. -/
theorem Counted.not_mem_of_dead {w w' : World} {id held : Nat} (nodup : w.table.Nodup)
    (counted : Counted (w.blocks id) (id ∈ w.table) held) (run : w.releaseAgentBlk id true = .ok w') :
    id ∉ w'.table := by
  obtain ⟨agent, found, released⟩ := World.releaseAgentBlk_released run
  by_cases listed : id ∈ w.table
  · obtain ⟨alive, _⟩ := counted.listed listed agent found
    cases released with
    | kept _ calm => simp [alive] at calm
    | removed _ isDead => simp [alive] at isDead
    | dropped _ _ _ _ calm => simp at calm
    | retired => exact nodup.not_mem_erase
    | buried => exact nodup.not_mem_erase
    | buriedFreed => exact nodup.not_mem_erase
  · rcases released.table_eq with same | erased
    · rwa [same]
    · rw [erased]
      exact fun member => listed (List.mem_of_mem_erase member)

namespace Refs

/-- Every reference is counted, and a block is freed when the last one goes. -/
structure Balanced (s : Refs) : Prop where
  nodup : s.world.table.Nodup
  fresh : ∀ id, s.world.nextBlock ≤ id → s.world.blocks id = none
  counted : ∀ id, Counted (s.world.blocks id) (id ∈ s.world.table) (s.held id)
  idle : ∀ id agent, s.world.blocks id = some agent → agent.workInProgress = false
  freed : ∀ id, s.world.notices.count (.freed id) =
    if id < s.world.nextBlock ∧ s.world.blocks id = none then 1 else 0

theorem balanced_start (uuid : Uuid) (clock : Nat) (listenFd : Nat) : (start uuid clock listenFd).Balanced where
  nodup := List.nodup_nil
  fresh := fun _ _ => rfl
  counted := fun _ => Counted.of_none List.not_mem_nil
  idle := by simp [start, World.init]
  freed := by simp [start, World.init]

namespace Balanced

variable {s : Refs} (balanced : s.Balanced) {id : Nat}

include balanced

theorem alloc (addr : Addr) : Balanced { s with world := s.world.allocAgentBlk addr true } := by
  have absent := (balanced.counted s.world.nextBlock).gone (balanced.fresh _ le_rfl)
  have others {other : Nat} (different : other ≠ s.world.nextBlock) :
      (s.world.allocAgentBlk addr true).blocks other = s.world.blocks other := if_neg different
  have here : (s.world.allocAgentBlk addr true).blocks s.world.nextBlock = some (Block.fresh addr s.world.clock) :=
    if_pos rfl
  have mem {other : Nat} : other ∈ (s.world.allocAgentBlk addr true).table ↔
      other ∈ s.world.table ∨ other = s.world.nextBlock := by
    simp [World.allocAgentBlk, World.link, World.put]
  have next : (s.world.allocAgentBlk addr true).nextBlock = s.world.nextBlock + 1 := rfl
  constructor
  · have disjoint : ∀ other ∈ s.world.table, other ≠ s.world.nextBlock := by
      rintro _ member rfl
      exact absent.1 member
    refine List.nodup_append.mpr ⟨balanced.nodup, List.nodup_singleton _, fun other member last there => ?_⟩
    rw [List.mem_singleton.mp there]
    exact disjoint other member
  · intro other above
    dsimp only at above ⊢
    rw [next] at above
    rw [others (by omega)]
    exact balanced.fresh other (by omega)
  · intro other
    by_cases same : other = s.world.nextBlock
    · subst same
      dsimp only
      rw [here, absent.2]
      exact Counted.of_listed (mem.mpr (.inr rfl)) rfl rfl
    · have account := balanced.counted other
      dsimp only
      rwa [others same, propext (mem.trans (or_iff_left same))]
  · intro other agent found
    by_cases same : other = s.world.nextBlock
    · subst same
      rw [here] at found
      cases found
      rfl
    · rw [others same] at found
      exact balanced.idle other agent found
  · intro other
    have before := balanced.freed other
    have same : (s.world.allocAgentBlk addr true).notices = s.world.notices := rfl
    dsimp only
    rw [same, before, next]
    by_cases isNext : other = s.world.nextBlock
    · subst isNext
      simp [here]
    · have bound : other < s.world.nextBlock + 1 ↔ other < s.world.nextBlock := by omega
      simp only [others isNext, bound]

theorem touch {w' : World} {left : Nat} (touches : World.Touches s.world id w')
    (listed : (s.world.blocks id).isSome) (counted : Counted (w'.blocks id) (id ∈ w'.table) left) :
    Balanced ⟨w', s.setHeld id left⟩ := by
  have below : id < s.world.nextBlock := by
    by_contra above
    simp [balanced.fresh id (by omega)] at listed
  constructor
  · exact touches.nodup balanced.nodup
  · intro other above
    rw [touches.nextBlock] at above
    rw [touches.blocks_of_ne other (by omega)]
    exact balanced.fresh other above
  · intro other
    by_cases same : other = id
    · subst same
      simpa [setHeld] using counted
    · have account := balanced.counted other
      dsimp only
      rwa [touches.blocks_of_ne other same, propext (touches.table_of_ne other same), setHeld, if_neg same]
  · intro other agent found
    by_cases same : other = id
    · subst same
      obtain ⟨before, there, unchanged⟩ := touches.workInProgress agent found
      rw [unchanged]
      exact balanced.idle other before there
    · rw [touches.blocks_of_ne other same] at found
      exact balanced.idle other agent found
  · intro other
    rw [touches.count_freed, touches.nextBlock, balanced.freed]
    by_cases same : other = id
    · subst same
      obtain ⟨agent, found⟩ := Option.isSome_iff_exists.mp listed
      simp [found, below]
    · simp [same, touches.blocks_of_ne other same]

theorem exists_agent (referenced : id ∈ s.world.table ∨ 0 < s.held id) :
    ∃ agent, s.world.blocks id = some agent ∧ 0 < agent.refCount := by
  have account := balanced.counted id
  cases found : s.world.blocks id with
  | none =>
    obtain ⟨absent, unheld⟩ := account.gone found
    rcases referenced with listed | held
    · exact absurd listed absent
    · omega
  | some agent =>
    refine ⟨agent, rfl, ?_⟩
    by_cases listed : id ∈ s.world.table
    · have := (account.listed listed agent found).2
      omega
    · have := (account.unlisted listed agent found).2
      omega

theorem exists_releaseBy {how : How} (referenced : id ∈ s.world.table ∨ 0 < s.held id) (suits : s.Suits id how) :
    ∃ w', s.world.releaseBy id how = .ok w' := by
  obtain ⟨agent, found, positive⟩ := balanced.exists_agent referenced
  cases how with
  | blk dead => exact World.exists_releaseAgentBlk found positive (balanced.idle id agent found) dead
  | conn =>
    have isNew : agent.isNew = true := by simpa [Suits, found] using suits
    by_cases last : agent.refCount = 1
    · exact ⟨_, World.releaseAgentConn_ok_iff.mpr ⟨agent, found, isNew, .inr ⟨last, rfl⟩⟩⟩
    · exact ⟨_, World.releaseAgentConn_ok_iff.mpr ⟨agent, found, isNew, .inl ⟨by omega, rfl⟩⟩⟩

theorem acquire (listed : id ∈ s.world.table) : ∃ next, s.step (.acquire id) = .ok next ∧ next.Balanced := by
  obtain ⟨agent, found, _⟩ := balanced.exists_agent (.inl listed)
  have run : s.world.acquireAgentBlk id = .ok (s.world.put id agent.acquired) :=
    World.edit_ok_iff.mpr ⟨agent, found, rfl⟩
  refine ⟨_, Except.bind_ok_iff.mpr ⟨_, run, rfl⟩, ?_⟩
  refine balanced.touch (World.put_touches found rfl) (by simp [found]) ?_
  exact (balanced.counted id).acquire run

theorem release (how : How) (held : 0 < s.held id) (suits : s.Suits id how) :
    ∃ next, s.step (.release id how) = .ok next ∧ next.Balanced := by
  obtain ⟨w', run⟩ := balanced.exists_releaseBy (.inr held) suits
  obtain ⟨agent, found, _⟩ := balanced.exists_agent (.inr held)
  refine ⟨_, Except.bind_ok_iff.mpr ⟨w', run, rfl⟩, ?_⟩
  refine balanced.touch (World.releaseBy_touches run) (by simp [found]) ?_
  have account := balanced.counted id
  rw [show s.held id = s.held id - 1 + 1 by omega] at account
  cases how with
  | blk dead => exact account.release balanced.nodup run
  | conn => exact account.releaseConn run

theorem releaseTable {how : How} (listed : id ∈ s.world.table) (unheld : s.held id = 0) (suits : s.Suits id how) :
    ∃ next, s.step (.releaseTable id how) = .ok next ∧ next.Balanced := by
  obtain ⟨w', run⟩ := balanced.exists_releaseBy (.inl listed) suits
  obtain ⟨agent, found, _⟩ := balanced.exists_agent (.inl listed)
  refine ⟨_, Except.bind_ok_iff.mpr ⟨w', run, rfl⟩, ?_⟩
  have account := balanced.counted id
  rw [unheld] at account
  have ended : Counted (w'.blocks id) (id ∈ w'.table) 0 := by
    cases how with
    | blk dead => exact (account.releaseTable balanced.nodup listed run).2
    | conn => exact (account.releaseConnTable balanced.nodup listed run).2
  have same : s.setHeld id 0 = s.held := by
    funext other
    by_cases equal : other = id
    · simp [setHeld, equal, unheld]
    · simp [setHeld, equal]
  have after := balanced.touch (World.releaseBy_touches run) (by simp [found]) ended
  rwa [same] at after

theorem change {fields : Block → Block} (present : (s.world.blocks id).isSome)
    (keeps : ∀ agent, (fields agent).refCount = agent.refCount ∧ (fields agent).isDead = agent.isDead ∧
      (fields agent).workInProgress = agent.workInProgress) :
    ∃ next, s.step (.change id fields keeps) = .ok next ∧ next.Balanced := by
  obtain ⟨agent, found⟩ := Option.isSome_iff_exists.mp present
  obtain ⟨count, dead, work⟩ := keeps agent
  refine ⟨_, Except.bind_ok_iff.mpr ⟨_, World.edit_ok_iff.mpr ⟨agent, found, rfl⟩, rfl⟩, ?_⟩
  have account := balanced.counted id
  have same : s.setHeld id (s.held id) = s.held := by
    funext other
    by_cases equal : other = id <;> simp [setHeld, equal]
  have kept : Counted (some (fields agent)) (id ∈ s.world.table) (s.held id) := by
    by_cases listed : id ∈ s.world.table
    · obtain ⟨alive, references⟩ := account.listed listed agent found
      exact Counted.of_listed listed (dead.trans alive) (count.trans references)
    · obtain ⟨isDead, references, positive⟩ := account.unlisted listed agent found
      exact Counted.of_unlisted listed (dead.trans isDead) (count.trans references) positive
  have after := balanced.touch (World.put_touches found work) present
    (by rw [World.blocks_put_self]; exact kept)
  rwa [same] at after

theorem step {op : RefOp} (allowed : s.Allowed op) : ∃ next, s.step op = .ok next ∧ next.Balanced := by
  cases op with
  | alloc addr => exact ⟨_, rfl, balanced.alloc addr⟩
  | acquire id => exact balanced.acquire allowed
  | release id how => exact balanced.release how allowed.1 allowed.2
  | releaseTable id how => exact balanced.releaseTable allowed.1 allowed.2.1 allowed.2.2
  | change id fields keeps => exact balanced.change allowed keeps

end Balanced

theorem balanced_run {uuid : Uuid} {clock : Nat} {listenFd : Nat} {ops : List RefOp}
    (admits : machine.Admits Allowed (start uuid clock listenFd) ops) :
    ∃ s, machine.run (start uuid clock listenFd) ops = .ok s ∧ s.Balanced :=
  Faulting.run_safe Balanced (fun _ _ balanced allowed => balanced.step allowed) (balanced_start uuid clock listenFd)
    admits

end Refs

open Refs in
/-- The count of a block is the references outstanding and, while it is in the
table, one more. A dead release takes it out of the table, if it is there, with
the reference of the table; a block is freed once, with its last reference; and
no assertion fails. -/
theorem agent_references_counted {uuid : Uuid} {clock : Nat} {listenFd : Nat} {ops : List RefOp}
    (admits : machine.Admits Allowed (start uuid clock listenFd) ops) :
    ∃ s, machine.run (start uuid clock listenFd) ops = .ok s ∧ ∀ id < s.world.nextBlock,
      (∀ agent, s.world.blocks id = some agent →
        agent.refCount = s.held id + if id ∈ s.world.table then 1 else 0) ∧
      (s.world.blocks id = none ↔ s.held id = 0 ∧ id ∉ s.world.table) ∧
      s.world.notices.count (.freed id) = (if s.world.blocks id = none then 1 else 0) ∧
      (0 < s.held id → ∃ next, s.step (.release id (.blk true)) = .ok next ∧ id ∉ next.world.table ∧
        next.world.refCountOf id + (if id ∈ s.world.table then 2 else 1) = s.world.refCountOf id) := by
  obtain ⟨s, run, balanced⟩ := balanced_run admits
  refine ⟨s, run, fun id allocated => ?_⟩
  have account := balanced.counted id
  have total := account.refCountOf_eq
  refine ⟨fun agent found => ?_, ⟨fun gone => (account.gone gone).symm, ?_⟩, ?_, fun held => ?_⟩
  · simpa [World.refCountOf, found] using total
  · rintro ⟨unheld, absent⟩
    cases found : s.world.blocks id with
    | none => rfl
    | some agent => 
      have positive := (account.unlisted absent agent found).2.2
      omega
  · rw [balanced.freed]
    simp [allocated]
  · obtain ⟨next, step, after⟩ := balanced.release (.blk true) held trivial
    obtain ⟨w', released, result⟩ := Except.bind_ok_iff.mp step
    cases result
    have gone := account.not_mem_of_dead balanced.nodup released
    have left := (after.counted id).refCountOf_eq
    refine ⟨_, step, gone, ?_⟩
    simp only [gone, if_false, setHeld, if_true] at left
    rw [left, total]
    split <;> omega

open Refs in
/-- Two users of one block; the first one finds the peer gone. -/
theorem agent_references_counted_two_users :
    ∃ s, machine.run (start (Uuid.filled 1) 0 3)
        [.alloc ⟨0x7f000001, 41004⟩, .acquire 0, .acquire 0, .release 0 (.blk true), .release 0 (.blk false)] = .ok s ∧
      ∀ id < s.world.nextBlock,
        (∀ agent, s.world.blocks id = some agent →
          agent.refCount = s.held id + if id ∈ s.world.table then 1 else 0) ∧
        (s.world.blocks id = none ↔ s.held id = 0 ∧ id ∉ s.world.table) ∧
        s.world.notices.count (.freed id) = (if s.world.blocks id = none then 1 else 0) ∧
        (0 < s.held id → ∃ next, s.step (.release id (.blk true)) = .ok next ∧ id ∉ next.world.table ∧
          next.world.refCountOf id + (if id ∈ s.world.table then 2 else 1) = s.world.refCountOf id) :=
  agent_references_counted (by decide)

end DEFw.Agents
