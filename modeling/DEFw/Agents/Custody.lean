import DEFw.Agents.Newcomers
import DEFw.Lib.Ownership

namespace DEFw.Agents
open Transport (Uuid)

theorem Block.mem_fds_iff_slot {agent : Block} {fd : Nat} : fd ∈ agent.fds ↔ ∃ channel, agent.slot channel = some fd := by
  rw [mem_fds]
  constructor
  · rintro (control | rpc)
    · exact ⟨.control, control⟩
    · exact ⟨.rpc, rpc⟩
  · rintro ⟨_ | _, stored⟩
    · exact .inl stored
    · exact .inr stored

theorem Block.slot_eq_none_of_fds {agent : Block} (none : agent.fds = ∅) (channel : Channel) : agent.slot channel = .none := by
  rw [Option.eq_none_iff_forall_ne_some]
  intro fd stored
  have member := mem_fds_iff_slot.mpr ⟨channel, stored⟩
  simp [none] at member

theorem Block.slot_congr {agent after : Block} (iFileDesc : after.iFileDesc = agent.iFileDesc)
    (iRpcFd : after.iRpcFd = agent.iRpcFd) (channel : Channel) : after.slot channel = agent.slot channel := by
  cases channel with
  | control => exact iFileDesc
  | rpc => exact iRpcFd

theorem Block.Alike.slot {agent after : Block} (alike : agent.Alike after) (channel : Channel) :
    after.slot channel = agent.slot channel := slot_congr alike.iFileDesc alike.iRpcFd channel

namespace World

/-- Session information brings the connection in its own channel. -/
theorem slot_attached (w : World) (known agent : Block) (ses : Session) :
    (w.attached known agent ses).slot ses.channel = agent.iFileDesc := by
  unfold attached Session.channel
  split <;> rfl

theorem slot_attached_of_ne (w : World) (known agent : Block) {ses : Session} {channel : Channel}
    (different : channel ≠ ses.channel) : (w.attached known agent ses).slot channel = known.slot channel := by
  unfold Session.channel at different
  unfold attached
  split at different
  · next isRpc =>
    rw [if_pos isRpc]
    cases channel with
    | control => rfl
    | rpc => exact absurd rfl different
  · next isControl =>
    rw [if_neg isControl]
    cases channel with
    | control => exact absurd rfl different
    | rpc => rfl

theorem isDead_attached (w : World) (known agent : Block) (ses : Session) :
    (w.attached known agent ses).isDead = known.isDead := by
  unfold attached
  split <;> rfl

end World

/-- What a block has in a slot. -/
def World.slots (w : World) (place : Nat × Channel) : Option Nat :=
  (w.blocks place.1).bind fun agent => agent.slot place.2

/-- The block whose connection was moved to another and that is about to go. -/
def Listener.giving : Listener → Option Nat
  | merged _ id _ => some id
  | duplicate _ id _ => some id
  | _ => none

namespace Process

/-- The slots, where those of a block that is about to go do not count. -/
def slots (s : Process) (place : Nat × Channel) : Option Nat :=
  if s.listener.giving = some place.1 then none else s.world.slots place

variable {s s' : Process}

theorem slots_of_blocks {place : Nat × Channel} (giving : s'.listener.giving = s.listener.giving)
    (same : s'.world.blocks place.1 = s.world.blocks place.1) : s'.slots place = s.slots place := by
  rw [slots, slots, giving, World.slots, World.slots, same]

theorem slots_of_found {id : Nat} {agent : Block} (kept : s.listener.giving ≠ some id)
    (found : s.world.blocks id = some agent) (channel : Channel) : s.slots (id, channel) = agent.slot channel := by
  rw [slots, if_neg kept, World.slots, found]
  rfl

theorem slots_of_gone {id : Nat} (gone : s.world.blocks id = none) (channel : Channel) : s.slots (id, channel) = none := by
  rw [slots, World.slots, gone]
  split <;> rfl

/-- A block changes and has the same descriptors. -/
theorem slots_edit {id : Nat} {agent : Block} (found : s.world.blocks id = some agent) (after : Block)
    (same : ∀ channel, after.slot channel = agent.slot channel) (blocks : s'.world.blocks = (s.world.put id after).blocks)
    (giving : s'.listener.giving = s.listener.giving) (place : Nat × Channel) : s'.slots place = s.slots place := by
  by_cases here : place.1 = id
  · rw [slots, slots, giving, World.slots, World.slots, blocks, here, World.blocks_put_self, found, Option.bind_some,
      Option.bind_some, same]
  · exact slots_of_blocks giving (by rw [blocks, World.blocks_put_of_ne here])

/-- What one slot has is moved to another. -/
structure Moves (s s' : Process) (source target : Nat × Channel) : Prop where
  empty : s.slots target = none
  left : s'.slots source = none
  moved : s'.slots target = s.slots source
  others : ∀ other, other ≠ source → other ≠ target → s'.slots other = s.slots other

/-- The first connection of a process is its RPC channel. -/
theorem moves_becomeRpc {id : Nat} {agent : Block} (after : Block) (nothing : s.listener.giving = none)
    (still : s'.listener.giving = none) (found : s.world.blocks id = some agent) (empty : agent.iRpcFd = none)
    (iFileDesc : after.iFileDesc = none) (iRpcFd : after.iRpcFd = agent.iFileDesc)
    (blocks : s'.world.blocks = (s.world.put id after).blocks) : Moves s s' (id, .control) (id, .rpc) := by
  have here := slots_of_found (s := s) (by simp [nothing]) found
  have replaced : s'.world.blocks id = some after := by rw [blocks, World.blocks_put_self]
  have there := slots_of_found (by simp [still]) replaced
  refine ⟨(here .rpc).trans empty, (there .control).trans iFileDesc, (there .rpc).trans (iRpcFd.trans (here .control).symm), ?_⟩
  rintro ⟨block, channel⟩ first second
  have different : block ≠ id := by
    rintro rfl
    cases channel
    · exact first rfl
    · exact second rfl
  exact slots_of_blocks (still.trans nothing.symm) (by rw [blocks, World.blocks_put_of_ne different])

/-- A connection is moved to the block of its process. -/
theorem moves_merge {id existing : Nat} {ses : Session} {agent known after : Block} (nothing : s.listener.giving = none)
    (giving : s'.listener.giving = some id) (found : s.world.blocks id = some agent)
    (there : s.world.blocks existing = some known) (joins : s.world.Joins id existing ses)
    (alike : (s.world.attached known agent ses).Alike after)
    (blocks : s'.world.blocks = (s.world.put existing after).blocks) :
    Moves s s' (id, .control) (existing, ses.channel) := by
  obtain ⟨apart, bare, vacant⟩ := joins
  rw [found] at bare
  rw [there] at vacant
  simp only [Option.any_some, Bool.and_eq_true, Bool.not_eq_true', Option.isNone_iff_eq_none] at bare vacant
  have source := slots_of_found (s := s) (by simp [nothing]) found
  have target := slots_of_found (s := s) (by simp [nothing]) there
  have replaced : s'.world.blocks existing = some after := by rw [blocks, World.blocks_put_self]
  have result := slots_of_found (by simp [giving, apart]) replaced
  have given (channel : Channel) : s'.slots (id, channel) = none := by
    rw [slots, if_pos giving]
  have moved : after.slot ses.channel = agent.iFileDesc :=
    (alike.slot ses.channel).trans (s.world.slot_attached known agent ses)
  refine ⟨(target ses.channel).trans vacant.2, given .control, (result ses.channel).trans (moved.trans (source .control).symm), ?_⟩
  rintro ⟨block, channel⟩ first second
  by_cases atId : block = id
  · subst atId
    cases channel with
    | control => exact absurd rfl first
    | rpc => exact (given .rpc).trans ((source .rpc).trans bare.2).symm
  · by_cases atExisting : block = existing
    · subst atExisting
      have different : channel ≠ ses.channel := fun same => second (by rw [same])
      have other := (alike.slot channel).trans (s.world.slot_attached_of_ne known agent different)
      exact (result channel).trans (other.trans (target channel).symm)
    · rw [slots, slots, giving, nothing, if_neg (by simpa [eq_comm] using atId), if_neg nofun, World.slots, World.slots,
        blocks, World.blocks_put_of_ne atExisting]

/-- Every descriptor has one place, and dead blocks have none. -/
structure Custody (s : Process) : Prop where
  owned : Owned s.slots s.world.opened
  dead : ∀ id agent, s.world.blocks id = some agent → agent.isDead = true → agent.fds = ∅

namespace Custody

variable (custody : s.Custody)

include custody

theorem dead_touch (id : Nat) (others : ∀ other, other ≠ id → s'.world.blocks other = s.world.blocks other)
    (touched : ∀ after, s'.world.blocks id = some after → after.isDead = true → after.fds = ∅) :
    ∀ other agent, s'.world.blocks other = some agent → agent.isDead = true → agent.fds = ∅ := by
  intro other agent found isDead
  by_cases same : other = id
  · subst same
    exact touched agent found isDead
  · rw [others other same] at found
    exact custody.dead other agent found isDead

/-- Nothing happens to the descriptors. -/
theorem still (blocks : s'.world.blocks = s.world.blocks) (opened : s'.world.opened = s.world.opened)
    (giving : s'.listener.giving = s.listener.giving) : s'.Custody where
  owned := by
    rw [opened]
    exact custody.owned.congr fun place => slots_of_blocks giving (congrFun blocks place.1)
  dead := by
    rw [blocks]
    exact custody.dead

theorem edit {id : Nat} {agent : Block} (found : s.world.blocks id = some agent) (after : Block)
    (iFileDesc : after.iFileDesc = agent.iFileDesc) (iRpcFd : after.iRpcFd = agent.iRpcFd)
    (isDead : after.isDead = agent.isDead) (blocks : s'.world.blocks = (s.world.put id after).blocks)
    (opened : s'.world.opened = s.world.opened) (giving : s'.listener.giving = s.listener.giving) : s'.Custody where
  owned := by
    rw [opened]
    exact custody.owned.congr (slots_edit found after (Block.slot_congr iFileDesc iRpcFd) blocks giving)
  dead := by
    refine custody.dead_touch id (fun other different => by rw [blocks, World.blocks_put_of_ne different]) ?_
    intro block there nowDead
    rw [blocks, World.blocks_put_self] at there
    cases there
    have before := custody.dead id agent found (isDead ▸ nowDead)
    rw [Block.fds, iFileDesc, iRpcFd]
    exact before

/-- A descriptor is opened and stored in an empty slot. -/
theorem store {id fd : Nat} (channel : Channel) (fresh : fd ∉ s.world.opened) (empty : s.slots (id, channel) = none)
    (after : Block) (blocks : s'.world.blocks = (s.world.put id after).blocks) (opened : s'.world.opened = insert fd s.world.opened)
    (giving : s'.listener.giving = s.listener.giving) (kept : s.listener.giving ≠ some id)
    (stored : after.slot channel = some fd) (other : ∀ second, second ≠ channel → after.slot second = s.slots (id, second))
    (alive : after.isDead = false) : s'.Custody where
  owned := by
    have there : s'.world.blocks id = some after := by rw [blocks, World.blocks_put_self]
    have here := slots_of_found (giving ▸ kept) there
    rw [opened]
    refine custody.owned.store fresh empty ((here channel).trans stored) fun ⟨block, second⟩ different => ?_
    by_cases same : block = id
    · subst same
      rw [here]
      exact other second fun equal => different (by rw [equal])
    · exact slots_of_blocks giving (by rw [blocks, World.blocks_put_of_ne same])
  dead := by
    refine custody.dead_touch id (fun other different => by rw [blocks, World.blocks_put_of_ne different]) ?_
    intro block there nowDead
    rw [blocks, World.blocks_put_self] at there
    cases there
    simp [alive] at nowDead

/-- The descriptors of a block are closed. -/
theorem close {id : Nat} {agent : Block} (found : s.world.blocks id = some agent) (kept : s.listener.giving ≠ some id)
    (others : ∀ other, other ≠ id → s'.world.blocks other = s.world.blocks other)
    (opened : s'.world.opened = s.world.opened \ agent.fds) (giving : s'.listener.giving = s.listener.giving)
    (empty : ∀ after, s'.world.blocks id = some after → after.fds = ∅) : s'.Custody where
  owned := by
    rw [opened]
    refine custody.owned.close (fun place => place.1 = id) (fun fd => ?_) (fun ⟨block, channel⟩ same => ?_) ?_
    · rw [Block.mem_fds_iff_slot]
      constructor
      · rintro ⟨channel, stored⟩
        exact ⟨(id, channel), rfl, (slots_of_found kept found channel).trans stored⟩
      · rintro ⟨⟨block, channel⟩, rfl, stored⟩
        exact ⟨channel, (slots_of_found kept found channel).symm.trans stored⟩
    · change block = id at same
      subst same
      cases there : s'.world.blocks block with
      | none => exact slots_of_gone there channel
      | some after =>
        rw [slots_of_found (giving ▸ kept) there]
        exact Block.slot_eq_none_of_fds (empty after there) channel
    · exact fun place different => slots_of_blocks giving (others place.1 different)
  dead := custody.dead_touch id others fun after there _ => empty after there

/-- A block without descriptors is freed. -/
theorem free (id : Nat) (empty : ∀ channel, s.slots (id, channel) = none)
    (others : ∀ other, other ≠ id → s'.world.blocks other = s.world.blocks other) (gone : s'.world.blocks id = none)
    (opened : s'.world.opened = s.world.opened)
    (giving : ∀ other, other ≠ id → (s'.listener.giving = some other ↔ s.listener.giving = some other)) : s'.Custody where
  owned := by
    rw [opened]
    refine custody.owned.congr fun ⟨block, channel⟩ => ?_
    by_cases same : block = id
    · subst same
      rw [slots_of_gone gone, empty]
    · simp only [slots, World.slots, others block same, giving block same]
  dead := custody.dead_touch id others fun after there => by simp [gone] at there

/-- A block is released, unless it is new and goes without being closed. -/
theorem release {id : Nat} {dead : Bool} {w : World} (run : s.world.releaseAgentBlk id dead = .ok w) (world : s'.world = w)
    (kept : s.listener.giving ≠ some id) (giving : s'.listener.giving = s.listener.giving)
    (closes : ∀ agent, s.world.blocks id = some agent → agent.refCount = 1 → agent.isDead = false → agent.isNew = true →
      dead = true) : s'.Custody := by
  obtain ⟨agent, found, released⟩ := World.releaseAgentBlk_released run
  have others : ∀ other, other ≠ id → s'.world.blocks other = s.world.blocks other := by
    rw [world]
    exact fun other => released.blocks_of_ne
  cases released with
  | kept =>
    refine custody.edit found agent.released rfl rfl rfl ?_ ?_ giving
    · rw [world]
    · rw [world]
      rfl
  | removed last isDead =>
    refine custody.free id (fun channel => ?_) others ?_ ?_ fun _ _ => by rw [giving]
    · rw [slots_of_found kept found]
      exact Block.slot_eq_none_of_fds (custody.dead id agent found isDead) channel
    · rw [world]
      exact World.blocks_free_self
    · rw [world]
      rfl
  | dropped last notDead _ isNew calm =>
    have isGone := closes agent found last notDead isNew
    simp [calm] at isGone
  | retired =>
    refine custody.close found kept others ?_ giving fun after there => ?_
    · rw [world]
      rfl
    · rw [world, World.blocks_free_self] at there
      cases there
  | buried =>
    refine custody.close found kept others ?_ giving fun after there => ?_
    · rw [world]
      rfl
    · rw [world, World.blocks_put_self] at there
      cases there
      obtain ⟨_, _, _, _, same⟩ := s.world.remains_eq id agent
      rw [same]
      rfl
  | buriedFreed =>
    refine custody.close found kept others ?_ giving fun after there => ?_
    · rw [world]
      rfl
    · rw [world, World.blocks_free_self] at there
      cases there

theorem leave {id : Nat} {dead : Bool} {reason : Option String} {w : World} (run : s.world.leave id dead reason = .ok w)
    (world : s'.world = w) (kept : s.listener.giving ≠ some id) (giving : s'.listener.giving = s.listener.giving)
    (closes : ∀ agent, s.world.blocks id = some agent → agent.refCount = 1 → agent.isDead = false → agent.isNew = true →
      dead = true) : s'.Custody := by
  cases reason with
  | none => exact custody.release run world kept giving closes
  | some reason =>
    obtain ⟨marked, edited, released⟩ := Except.bind_ok_iff.mp run
    obtain ⟨agent, found, rfl⟩ := World.edit_ok_iff.mp edited
    have failing : Custody { s with world := s.world.put id (agent.failing reason) } :=
      custody.edit found (agent.failing reason) rfl rfl rfl rfl rfl rfl
    refine failing.release released world kept giving fun block there => ?_
    rw [World.blocks_put_self] at there
    cases there
    exact closes agent found

end Custody

theorem Accounted.shared_of_listed (accounted : s.Accounted) {id : Nat} {agent : Block} (held : 0 < s.held id)
    (listed : id ∈ s.world.table) (found : s.world.blocks id = some agent) : 2 ≤ agent.refCount := by
  have count := ((accounted.counted id trivial (accounted.not_dialled_of_mem listed)).listed listed agent found).2
  omega

/-- The last reference to a block that is not dead is not one that a party holds. -/
theorem Accounted.not_last (accounted : s.Accounted) {id : Nat} {agent : Block} (held : 0 < s.held id)
    (found : s.world.blocks id = some agent) (last : agent.refCount = 1) : agent.isDead = true := by
  by_contra alive
  have counted := accounted.counted id trivial (accounted.known id held).2
  by_cases listed : id ∈ s.world.table
  · have := accounted.shared_of_listed held listed found
    omega
  · exact alive (counted.unlisted listed agent found).1

theorem held_pos_of_listener {id : Nat} (member : id ∈ s.listener.holds) : 0 < s.held id := by
  have := List.count_pos_iff.mpr member
  rw [held_eq]
  omega

theorem held_pos_of_send {send : Send} (member : send ∈ s.sends) : 0 < s.held send.block := by
  have := List.count_pos_iff.mpr (List.mem_map_of_mem (f := Send.block) member)
  rw [held_eq]
  omega

/-- The block that is about to go is new. -/
theorem Private.newcomer_of_giving (private_ : s.Private) {id : Nat} (giving : s.listener.giving = some id) :
    id ∈ s.listener.newcomer := by
  have regular := private_.regular
  unfold Listener.giving at giving
  split at giving
  · next place =>
    rw [place] at regular ⊢
    obtain ⟨rfl, _⟩ := regular
    exact giving
  · next place =>
    rw [place] at regular ⊢
    obtain ⟨rfl, _⟩ := regular
    exact giving
  · cases giving

/-- The block whose connection was moved goes without being closed. -/
theorem Private.release_duplicate (private_ : s.Private) (accounted : s.Accounted) {task : Task} {id existing : Nat}
    (place : s.listener = .duplicate task id existing) {w : World} (run : s.world.releaseAgentBlk id false = .ok w) :
    w = (s.world.unlink id).freeAgentBlk id := by
  obtain ⟨agent, found, released⟩ := World.releaseAgentBlk_released run
  obtain ⟨listed, same, there, isNew⟩ := private_.newcomer id (private_.newcomer_of_giving (by rw [place]; rfl))
  rw [found] at there
  cases there
  have exclusive : s.Exclusive .proceed := private_.exclusive
  have unheld : s.held id = 0 := exclusive id (by simp [tableRelease, place])
  obtain ⟨alive, count⟩ := (accounted.counted id trivial (accounted.not_dialled_of_mem listed)).listed listed agent found
  cases released with
  | kept shared => omega
  | removed _ isDead => simp [isDead] at alive
  | dropped => rfl
  | retired _ _ _ ends => simp [isNew] at ends
  | buried shared => omega
  | buriedFreed last => omega

theorem Private.giving_ne_send (private_ : s.Private) {send : Send} (member : send ∈ s.sends) :
    s.listener.giving ≠ some send.block := by
  intro giving
  obtain ⟨_, agent, found, isNew⟩ := private_.newcomer _ (private_.newcomer_of_giving giving)
  exact private_.ne_of_isNew member found isNew rfl

end Process

namespace Listener

theorem giving_readRest (id : Nat) (messages : List Incoming) : (readRest id messages).giving = none := by
  cases messages <;> rfl

theorem giving_after (task : Task) (id : Nat) (rc : DefwRc) : (after task id rc).giving = none := by
  rcases after_cases task id rc with ⟨_, next⟩ | ⟨_, _, _, next⟩ | ⟨_, _, _, next⟩ | ⟨_, _, _, _, next⟩
  all_goals
    rw [next]
    rfl

theorem Begins.giving {id : Nat} {agent : Block} {next : Listener} (begins : Begins id agent next) : next.giving = none := by
  cases begins with
  | greeting => rfl
  | reading messages => exact giving_readRest id messages
  | leaving => rfl

theorem Greets.giving {id : Nat} {next : Listener} (greets : Greets id next) : next.giving = none := by
  cases greets <;> rfl

end Listener

namespace Process

variable {s s' : Process}

namespace Custody

variable (custody : s.Custody)

include custody

/-- A message changes a block and leaves its descriptors. -/
theorem processed {task : Task} {id : Nat} {incoming : Incoming} (place : s.listener = .reading task id incoming)
    {agent : Block} (found : s.world.blocks id = some agent) (after : Block) (iFileDesc : after.iFileDesc = agent.iFileDesc)
    (iRpcFd : after.iRpcFd = agent.iRpcFd) (isDead : after.isDead = agent.isDead) {w : World}
    (blocks : w.blocks = (s.world.put id after).blocks) (opened : w.opened = s.world.opened) (rc : DefwRc) :
    Custody { s with world := w, listener := .after task id rc } := by
  refine custody.edit found after iFileDesc iRpcFd isDead blocks opened ?_
  rw [Listener.giving_after, place]
  rfl

/-- A descriptor is moved, and the block it goes to is dead only if it has none. -/
theorem move {source target : Nat × Channel} (moves : Moves s s' source target) (opened : s'.world.opened = s.world.opened)
    {after : Block} (blocks : s'.world.blocks = (s.world.put target.1 after).blocks)
    (dead : after.isDead = true → after.fds = ∅) : s'.Custody where
  owned := by
    rw [opened]
    exact custody.owned.move moves.empty moves.left moves.moved moves.others
  dead := by
    refine custody.dead_touch target.1 (fun other different => by rw [blocks, World.blocks_put_of_ne different]) ?_
    intro block same
    rw [blocks, World.blocks_put_self] at same
    cases same
    exact dead

/-- What a connect thread does before its block is in the table. -/
theorem connected (accounted : s.Accounted) {dial : Dial} {req : ConnectReq} {w : World} {result : Option Nat}
    (dialled : s.world.Dialled req dial (w, result)) (enabled : s.Enabled (.connect dial)) (world : s'.world = w)
    (listener : s'.listener = s.listener) : s'.Custody := by
  have giving : s'.listener.giving = s.listener.giving := by rw [listener]
  have kept : s.listener.giving ≠ some s.world.nextBlock := by
    intro same
    have shown := (accounted.shown s.world.nextBlock ?_).1
    · omega
    · unfold Listener.giving at same
      split at same
      · next place =>
        rw [place, ← Option.some.inj same]
        exact List.mem_cons_self
      · next place =>
        rw [place, ← Option.some.inj same]
        exact List.mem_cons_self
      · cases same
  have empty := slots_of_gone (accounted.unborn _ le_rfl)
  cases dialled with
  | refused rc =>
    refine custody.still ?_ ?_ giving
    · rw [world]
      rfl
    · rw [world]
      rfl
  | ended addr fds rc within =>
    have unused : Disjoint s.world.opened fds := by
      rw [Finset.disjoint_right]
      intro fd member
      have dialFd := within member
      simp only [Finset.mem_union, Option.mem_toFinset] at dialFd
      rcases dialFd with control | rpc
      · exact (enabled.1 fd control).1
      · exact (enabled.2 fd rpc).1.1
    refine custody.free s.world.nextBlock empty (fun other different => ?_) ?_ ?_ fun _ _ => by rw [giving]
    · rw [world]
      exact (if_neg different).trans (World.blocks_calling_of_ne addr different)
    · rw [world]
      exact World.blocks_free_self
    · rw [world]
      simp only [World.failConnect, World.notify, World.freeAgentBlk, World.shed, World.opening]
      rw [Finset.union_sdiff_distrib, Finset.sdiff_self, Finset.empty_union]
      exact unused.sdiff_eq_left
  | up addr control rpc dialControl dialRpc =>
    have first := enabled.1 control dialControl
    have second := enabled.2 rpc dialRpc
    have plugged : Custody { s with
        world := { s.world.put s.world.nextBlock ((Block.dialling addr s.world.clock dial req).plugControl (some control)) with
          opened := insert control s.world.opened } } := by
      refine custody.store .control first.1 (empty .control) _ rfl rfl rfl kept rfl (fun channel different => ?_) rfl
      cases channel with
      | control => exact absurd rfl different
      | rpc => exact (empty .rpc).symm
    have here := slots_of_found (s := { s with
        world := { s.world.put s.world.nextBlock ((Block.dialling addr s.world.clock dial req).plugControl (some control)) with
          opened := insert control s.world.opened } }) kept World.blocks_put_self
    have unused : rpc ∉ insert control s.world.opened := by
      simp only [Finset.mem_insert, not_or]
      exact ⟨fun same => second.2 (same ▸ dialControl), second.1.1⟩
    refine plugged.store .rpc unused (here .rpc) ((((Block.dialling addr s.world.clock dial
      req).plugControl (some control)).controlUp.plugRpc (some rpc)).rpcUp dial) ?_ ?_ giving kept rfl ?_ rfl
    · rw [world]
      funext other
      by_cases equal : other = s.world.nextBlock
      · rw [equal, World.blocks_put_self, World.blocks_put_self]
      · rw [World.blocks_put_of_ne equal, World.blocks_put_of_ne equal]
        exact (World.blocks_calling_of_ne addr equal).trans (World.blocks_put_of_ne equal).symm
    · rw [world]
      simp only [World.put, World.opening]
      rw [Finset.insert_union, Finset.singleton_union]
      rfl
    · intro channel different
      cases channel with
      | control => exact (here .control).symm
      | rpc => exact absurd rfl different

/-- One step. -/
theorem step (accounted : s.Accounted) (private_ : s.Private) {action : Action} (enabled : s.Enabled action)
    (orderly : s.Orderly action) (took : Took s action s') : s'.Custody := by
  cases took with
  | tick seconds => exact custody.still rfl rfl rfl
  | selectFails => exact custody.still rfl rfl rfl
  | acceptNew fd addr =>
    have place : s.listener = .idle := enabled.1
    have empty := slots_of_gone (accounted.unborn _ le_rfl)
    refine custody.store .control enabled.2.1.1 (empty .control) ((Block.fresh addr s.world.clock).plugControl (some fd))
      (s.world.blocks_acceptedNew fd addr) rfl rfl (by simp [place, Listener.giving]) rfl (fun channel different => ?_) rfl
    cases channel with
    | control => exact absurd rfl different
      | rpc => exact (empty .rpc).symm
  | acceptKnown fd addr id agent known found =>
    have unknown : s.world.findAgentBlkByAddr addr = none := orderly
    rw [unknown] at known
    cases known
  | visited _ id agent touched found touch next begins guard =>
    have same : agent.Alike touched := by
      rcases touch with rfl | rfl <;> exact {}
    refine custody.edit found touched.acquired same.iFileDesc same.iRpcFd same.isDead rfl rfl ?_
    rw [begins.giving, (guard enabled).1]
    rfl
  | rested => exact custody
  | returned id fd place =>
    have regular := private_.regular
    rw [place] at regular
    exact regular.elim
  | adopted id fd place =>
    have regular := private_.regular
    rw [place] at regular
    exact regular.elim
  | greeted id hb rpcReady place w' run next greets =>
    obtain ⟨listed, agent, found, _⟩ := private_.newcomer id (by rw [place]; rfl)
    have shared := accounted.shared_of_listed (held_pos_of_listener (by rw [place]; exact List.mem_cons_self)) listed found
    obtain ⟨same, there, _, ⟨_, rfl⟩ | ⟨last, _⟩⟩ := World.releaseAgentConn_ok_iff.mp run
    · refine custody.edit there same.released rfl rfl rfl rfl rfl ?_
      rw [greets.giving, place]
      rfl
    · rw [found] at there
      cases there
      omega
  | refused task id incoming place rc =>
    refine custody.still rfl rfl ?_
    rw [Listener.giving_after, place]
    rfl
  | heard task id incoming place agent found hb =>
    have alike := s.world.alike_heardBy id agent hb
    refine custody.processed place found _ alike.iFileDesc alike.iRpcFd alike.isDead ?_ ?_ .ok <;> rfl
  | identified task id incoming place agent message delivered isSession valid unknown =>
    obtain ⟨_, _, _, _, found, _⟩ := delivery_eq_some_iff.mp delivered
    rcases s.world.identified_cases id agent (Session.read message.body) with ⟨isRpc, result⟩ | ⟨_, result⟩
    · have empty : agent.iRpcFd = none := orderly.2 _ delivered isSession isRpc unknown
      obtain ⟨_, _, _, suspended⟩ := World.listenerSuspendFd_eq
        (s.world.put id (agent.learn (Session.read message.body) s.world.clock).becomeRpc) agent.iFileDesc
      rw [result, suspended]
      refine custody.move (moves_becomeRpc ((agent.learn (Session.read message.body) s.world.clock).becomeRpc)
        (by rw [place]; rfl) (Listener.giving_after task id .ok) found empty rfl rfl rfl) rfl rfl fun isDead => ?_
      have none := Block.slot_eq_none_of_fds (custody.dead id agent found isDead) .control
      change ∅ ∪ agent.iFileDesc.toFinset = ∅
      rw [Finset.empty_union]
      exact congrArg Option.toFinset none
    · rw [result]
      refine custody.processed place found
        ((agent.learn (Session.read message.body) s.world.clock).becomeControl) ?_ ?_ ?_ ?_ ?_ .ok <;> rfl
  | matched task id incoming place agent message delivered isSession valid existing known matching there =>
    refine custody.edit there known.acquired rfl rfl rfl rfl rfl ?_
    rw [place]
    rfl
  | served task id incoming place agent found message rc =>
    have alike : agent.Alike (if message.header.type = .rmaAck then agent else agent.working false) := by
      split <;> exact {}
    refine custody.processed place found _ alike.iFileDesc alike.iRpcFd alike.isDead ?_ ?_ rc <;> rfl
  | merged task id existing ses place agent known found there =>
    have joins := orderly.1 (id, existing, ses) (by rw [place]; rfl)
    have alike := s.world.alike_mergedWith existing known agent ses
    obtain ⟨_, _, _, resumed⟩ := s.world.listenerResumeFd_eq (World.resumed known ses)
    rw [World.mergedInto, resumed]
    refine custody.move (moves_merge (by rw [place]; rfl) rfl found there joins alike rfl) rfl rfl fun isDead => ?_
    have alive := joins.2.2
    rw [alike.isDead, s.world.isDead_attached] at isDead
    simp [there, isDead] at alive
  | matchReturned task id existing place w' run =>
    have regular := private_.regular
    rw [place] at regular
    have held : 0 < s.held existing := held_pos_of_listener (by rw [place]; exact List.mem_cons_self)
    refine custody.release run rfl ?_ ?_ fun agent found last alive => ?_
    · rw [place]
      exact fun same => regular.2 (Option.some.inj same)
    · rw [place]
      rfl
    · simp [accounted.not_last held found last] at alive
  | dropped task id existing place apart w' run =>
    have giving : s.listener.giving = some id := by
      rw [place]
      rfl
    rw [private_.release_duplicate accounted place run]
    refine custody.free id (fun channel => ?_) (fun other => World.blocks_free_of_ne) World.blocks_free_self rfl ?_
    · rw [slots, if_pos giving]
    · intro other different
      rw [Listener.giving_after, giving]
      simp [different.symm]
  | left task id dead reason place w' run =>
    refine custody.leave run rfl (by simp [place, Listener.giving]) (by rw [place]; rfl) fun agent found last alive _ => ?_
    cases task with
    | fresh =>
      have regular := private_.regular
      rw [place] at regular
      exact regular
    | established rest =>
      have held : 0 < s.held id := held_pos_of_listener (by rw [place]; exact List.mem_cons_self)
      simp [accounted.not_last held found last] at alive
  | dialled dial w' result dialled => exact custody.connected accounted dialled enabled rfl rfl
  | published id agent found reported report =>
    subst report
    have alike := agent.alike_reportPeerReady s.world.uuid s.world.clock id "outbound-rpc-ready"
    exact custody.edit found _ alike.iFileDesc alike.iRpcFd alike.isDead rfl rfl rfl
  | missed => exact custody
  | acquired action id lookup agent found stage =>
    exact custody.edit found agent.acquired rfl rfl rfl rfl rfl rfl
  | sent send net next => exact custody.still rfl rfl rfl
  | unplugged send net place agent found closed =>
    have empty := (orderly place agent found closed).2
    exact custody.edit found (agent.plugRpc none) rfl empty.symm rfl rfl rfl rfl
  | opened send net place agent found closed fd success flag next =>
    obtain ⟨alive, empty⟩ := orderly place agent found closed
    have kept := private_.giving_ne_send enabled.1
    have here := slots_of_found kept found
    refine custody.store .rpc (enabled.2 fd success).1 ((here .rpc).trans empty)
      ((agent.plugRpc (some fd)).rpcFlagged flag) rfl rfl rfl kept rfl (fun channel different => ?_) alive
    cases channel with
    | control => exact (here .control).symm
    | rpc => exact absurd rfl different
  | worked send net agent found flag next =>
    exact custody.edit found (agent.working flag) rfl rfl rfl rfl rfl rfl
  | released send net dead place w' run =>
    refine custody.release run rfl (private_.giving_ne_send enabled.1) rfl fun agent found last alive => ?_
    simp [accounted.not_last (held_pos_of_send enabled.1) found last] at alive

end Custody

theorem custody_start (uuid : Uuid) (clock listenFd : Nat) : (start uuid clock listenFd).Custody := by
  have empty (place : Nat × Channel) : (start uuid clock listenFd).slots place = none := slots_of_gone rfl place.2
  refine ⟨⟨fun place fd stored => ?_, fun place other fd stored => ?_, fun fd member => ?_⟩, fun id agent found => ?_⟩
  · simp [empty] at stored
  · simp [empty] at stored
  · exact absurd member (Finset.notMem_empty fd)
  · cases found

/-- What orderly steps keep. -/
structure Kept (s : Process) : Prop where
  accounted : s.Accounted
  private_ : s.Private
  custody : s.Custody

theorem Kept.step (kept : s.Kept) {action : Action} (enabled : s.Enabled action) (orderly : s.Orderly action)
    (run : s.step action = .ok s') : s'.Kept := by
  have took := step_took kept.accounted.nextBlock_not_mem run
  have settles (id : Nat) (settled : s.world.Settled id) : s'.world.Settled id :=
    settled.effects (step_effects anyFrame_permits run)
  exact ⟨kept.accounted.step enabled (fun id release _ => kept.private_.exclusive id release) took,
    kept.private_.step kept.accounted enabled orderly settles took,
    kept.custody.step kept.accounted kept.private_ enabled orderly took⟩

theorem kept_run {uuid : Uuid} {clock listenFd : Nat} {actions : List Action} {s : Process}
    (admits : machine.Admits (fun s action => s.Enabled action ∧ s.Orderly action) (start uuid clock listenFd) actions)
    (run : machine.run (start uuid clock listenFd) actions = .ok s) : s.Kept :=
  Faulting.run_invariant Kept (fun _ _ _ kept allowed step => kept.step allowed.1 allowed.2 step)
    ⟨accounts_start _ uuid clock listenFd, private_start uuid clock listenFd, custody_start uuid clock listenFd⟩ admits run

/-- The process connects to itself. The connection it accepts comes from the address
of its own outbound block. -/
def selfConnection : List Action :=
  [.connect (.plain (Uuid.filled 1) 5 6), .publish 0, .accept 7 ⟨0x7f000001, 40000⟩, .proceed, .proceed]

end Process

open Process in
/-- As long as nothing is stored where something is stored already, every descriptor
that is open is in one slot of one block, which is not dead, whenever the listener
is not in the middle of a merge. -/
theorem descriptor_has_one_owner (uuid : Uuid) (clock listenFd : Nat) (actions : List Action) (s : Process)
    (admits : machine.Admits (fun s action => s.Enabled action ∧ s.Orderly action) (start uuid clock listenFd) actions)
    (run : machine.run (start uuid clock listenFd) actions = .ok s) (between : s.listener.giving = none) :
    (∀ fd ∈ s.world.opened, ∃ id agent channel, s.world.blocks id = some agent ∧ agent.isDead = false ∧
      agent.slot channel = some fd ∧ ∀ place, s.world.slots place = some fd → place = (id, channel)) ∧
    ∀ place fd, s.world.slots place = some fd → fd ∈ s.world.opened := by
  have custody := (kept_run admits run).custody
  have same (place : Nat × Channel) : s.slots place = s.world.slots place := by simp [Process.slots, between]
  refine ⟨fun fd member => ?_, fun place fd stored => custody.owned.known place fd ((same place).trans stored)⟩
  obtain ⟨⟨id, channel⟩, stored, only⟩ := custody.owned.existsUnique member
  have there : s.world.slots (id, channel) = some fd := (same _).symm.trans stored
  obtain ⟨agent, found, slot⟩ := Option.bind_eq_some_iff.mp there
  refine ⟨id, agent, channel, found, ?_, slot, fun place elsewhere => only place ((same place).trans elsewhere)⟩
  by_contra isDead
  have none := Block.slot_eq_none_of_fds (custody.dead id agent found (by simpa using isDead)) channel
  rw [none] at slot
  cases slot

open Process in
theorem descriptor_has_one_owner_merge : ∃ s, machine.run (start (Uuid.filled 1) 100 3) heldMerge = .ok s ∧
    s.world.opened = {5, 6} ∧
    ∀ fd ∈ s.world.opened, ∃ id agent channel, s.world.blocks id = some agent ∧ agent.isDead = false ∧
      agent.slot channel = some fd ∧ ∀ place, s.world.slots place = some fd → place = (id, channel) := by
  have evaluated : (machine.run (start (Uuid.filled 1) 100 3) heldMerge).toOption.map
      (fun s => (s.world.opened, s.listener.giving)) = some ({5, 6}, none) := by decide +kernel
  obtain ⟨s, run, shape⟩ := Except.exists_ok_of_map evaluated
  obtain ⟨opened, between⟩ := Prod.mk.inj shape
  exact ⟨s, run, opened, (descriptor_has_one_owner _ _ _ heldMerge s (by decide +kernel) run between).1⟩

open Process in
/-- The descriptor of the outbound control connection is lost. -/
theorem descriptor_without_owner : machine.Admits Enabled (start (Uuid.filled 1) 100 3) selfConnection ∧
    ∃ s, machine.run (start (Uuid.filled 1) 100 3) selfConnection = .ok s ∧ s.listener = .idle ∧ 5 ∈ s.world.opened ∧
      ∀ place, s.world.slots place ≠ some 5 := by
  have evaluated : (machine.run (start (Uuid.filled 1) 100 3) selfConnection).toOption.map
      (fun s => (s.listener, decide (5 ∈ s.world.opened), s.world.nextBlock, s.world.slots (0, .control),
        s.world.slots (0, .rpc))) = some (.idle, true, 1, some 7, some 6) := by decide +kernel
  obtain ⟨s, run, shape⟩ := Except.exists_ok_of_map evaluated
  simp only [Prod.mk.injEq, decide_eq_true_eq] at shape
  obtain ⟨idle, opened, next, control, rpc⟩ := shape
  have accounted : s.Accounted := accounted_run (by decide +kernel) run
  refine ⟨by decide +kernel, s, run, idle, opened, fun ⟨id, channel⟩ stored => ?_⟩
  cases id with
  | zero =>
    cases channel
    · simp [control] at stored
    · simp [rpc] at stored
  | succ id =>
    have unborn := accounted.unborn (id + 1) (by omega)
    simp [World.slots, unborn] at stored

end DEFw.Agents
