import DEFw.Agents.Introductions

namespace DEFw.Agents
open Transport (Uuid)

/-- Messages are processed on connections that were accepted. -/
structure Orderly (peers : List Peer) (before : List Arrival) : Prop where
  members : ∀ event ∈ before, event.peer ∈ peers
  causal : ∀ peer channel, .session peer channel ∈ before → .accept peer channel ∈ before

namespace Role

variable {peer : Peer} {channel : Channel} {before : List Arrival} {role : Role}

theorem Due.peer_mem {peers : List Peer} (orderly : Orderly peers before) (due : role.Due before) :
    role.peer ∈ peers := by
  cases role with
  | waiting peer channel => exact orderly.members _ due.1
  | half peer channel => exact orderly.members _ due.1
  | complete peer => exact orderly.members _ due.1

theorem due_accept (new : .accept peer channel ∉ before) (unheard : .session peer channel ∉ before) :
    role.Due (before ++ [.accept peer channel]) ↔ role = .waiting peer channel ∨ role.Due before ∧ ¬False := by
  cases role with
  | waiting other second =>
    simp only [Due, List.mem_append, List.mem_singleton, Arrival.accept.injEq, reduceCtorEq, or_false, waiting.injEq,
      not_false_eq_true, and_true]
    constructor
    · rintro ⟨before | same, silent⟩
      · exact .inr ⟨before, silent⟩
      · exact .inl same
    · rintro (⟨rfl, rfl⟩ | ⟨before, silent⟩)
      · exact ⟨.inr ⟨rfl, rfl⟩, unheard⟩
      · exact ⟨.inl before, silent⟩
  | half other second => simp [Due]
  | complete other => simp [Due]

theorem due_first (unheard : .session peer channel ∉ before) (alone : .session peer channel.other ∉ before) :
    role.Due (before ++ [.session peer channel]) ↔
      role = .half peer channel ∨ role.Due before ∧ ¬role = .waiting peer channel := by
  cases channel <;> cases role with
  | waiting other second =>
    simp only [Due, List.mem_append, List.mem_singleton, Arrival.session.injEq, reduceCtorEq, or_false, waiting.injEq,
      false_or]
    tauto
  | half other second =>
    cases second <;> simp only [Due, Channel.other, List.mem_append, List.mem_singleton, Arrival.session.injEq,
      reduceCtorEq, half.injEq] at unheard alone ⊢ <;> grind
  | complete other =>
    simp only [Due, Channel.other, List.mem_append, List.mem_singleton, Arrival.session.injEq,
      reduceCtorEq] at unheard alone ⊢
    grind

theorem due_second (unheard : .session peer channel ∉ before) (joined : .session peer channel.other ∈ before) :
    role.Due (before ++ [.session peer channel]) ↔ role = .complete peer ∨
      role.Due before ∧ ¬(role = .waiting peer channel ∨ role = .half peer channel.other) := by
  cases channel <;> cases role with
  | waiting other second =>
    simp only [Due, List.mem_append, List.mem_singleton, Arrival.session.injEq, reduceCtorEq, or_false, waiting.injEq,
      false_or]
    tauto
  | half other second =>
    cases second <;> simp only [Due, Channel.other, List.mem_append, List.mem_singleton, Arrival.session.injEq,
      reduceCtorEq, half.injEq] at unheard joined ⊢ <;> grind
  | complete other =>
    simp only [Due, Channel.other, List.mem_append, List.mem_singleton, Arrival.session.injEq, reduceCtorEq,
      complete.injEq] at unheard joined ⊢
    grind

end Role

/-- The blocks that came into the table `start` has are those of the roles that are
due, each with its own, and nothing else has changed. -/
structure Cast (peers : List Peer) (start : World) (before : List Arrival) (w : World) (block : Role → Nat) : Prop where
  nodup : w.table.Nodup
  listed : ∀ id ∈ w.table, id < w.nextBlock
  table : ∀ id, id ∈ w.table ↔ id ∈ start.table ∨ ∃ role : Role, role.Due before ∧ block role = id
  plays : ∀ role : Role, role.Due before → block role ∉ start.table ∧
    ∃ agent, w.blocks (block role) = some agent ∧ agent.standing = role.standing
  distinct : ∀ role other : Role, role.Due before → other.Due before → block role = block other → role = other
  old : ∀ id ∈ start.table, w.blocks id = start.blocks id
  watched : ∀ role : Role, role.Due before → ∀ fd ∈ role.watched, fd ∈ w.allSet ∧ fd ∉ w.suspended
  suspended : ∀ fd ∈ w.suspended, fd ∈ start.suspended ∨ ∃ peer, (Role.half peer .rpc).Due before ∧ fd = peer.rpc.fd
  said : ∃ said, w.notices = start.notices ++ said ∧
    ∀ peer ∈ peers, said.countP (Notice.announces peer.uuid) = if peer.Introduced before then 1 else 0

namespace Cast

variable {peers : List Peer} {start w w' : World} {before later : List Arrival} {block : Role → Nat}

theorem nil (nodup : start.table.Nodup) (listed : ∀ id ∈ start.table, id < start.nextBlock) (block : Role → Nat) :
    Cast peers start [] start block where
  nodup := nodup
  listed := listed
  table := by
    have none (role : Role) : ¬role.Due [] := by
      cases role <;> simp [Role.Due]
    simp [none]
  plays := fun role due => by cases role <;> simp [Role.Due] at due
  distinct := fun role _ due => by cases role <;> simp [Role.Due] at due
  old := fun _ _ => rfl
  watched := fun role due => by cases role <;> simp [Role.Due] at due
  suspended := fun _ member => .inl member
  said := ⟨[], (List.append_nil _).symm, fun peer _ => by simp [Peer.Introduced]⟩

/-- A role begins, with a block of its own or of a role that ends. -/
theorem recast (cast : Cast peers start before w block) (new : Role) (id : Nat) (gone : Role → Prop)
    (due : ∀ role : Role, role.Due later ↔ role = new ∨ role.Due before ∧ ¬gone role) (fresh : ¬new.Due before)
    (apart : id ∉ start.table) {agent : Block} (found : w'.blocks id = some agent)
    (standing : agent.standing = new.standing)
    (others : ∀ role : Role, role.Due before → ¬gone role →
      block role ≠ id ∧ w'.blocks (block role) = w.blocks (block role))
    (old : ∀ other ∈ start.table, w'.blocks other = w.blocks other)
    (table : ∀ other, other ∈ w'.table ↔
      other = id ∨ other ∈ w.table ∧ ∀ role : Role, role.Due before → gone role → block role ≠ other)
    (nodup : w'.table.Nodup) (listed : ∀ other ∈ w'.table, other < w'.nextBlock)
    (watched : ∀ fd ∈ new.watched, fd ∈ w'.allSet ∧ fd ∉ w'.suspended)
    (still : ∀ role : Role, role.Due before → ¬gone role → ∀ fd ∈ role.watched, fd ∈ w.allSet → fd ∉ w.suspended →
      fd ∈ w'.allSet ∧ fd ∉ w'.suspended)
    (suspended : ∀ fd ∈ w'.suspended, fd ∈ start.suspended ∨ ∃ peer, (Role.half peer .rpc).Due later ∧ fd = peer.rpc.fd)
    (said : ∃ said, w'.notices = w.notices ++ said ∧ ∀ peer ∈ peers, said.countP (Notice.announces peer.uuid) =
      (if peer.Introduced later then 1 else 0) - (if peer.Introduced before then 1 else 0) ∧
      (peer.Introduced before → peer.Introduced later)) :
    Cast peers start later w' (Function.update block new id) := by
  have same : Function.update block new id new = id := Function.update_self new id block
  have kept {role : Role} (past : role.Due before) : Function.update block new id role = block role := by
    refine Function.update_of_ne (fun equal => fresh ?_) id block
    rw [← equal]
    exact past
  refine ⟨nodup, listed, fun other => ?_, fun role now => ?_, fun role other now then_ equal => ?_,
    fun other member => ?_, fun role now => ?_, suspended, ?_⟩
  · rw [table, cast.table]
    constructor
    · rintro (rfl | ⟨member | ⟨role, before, rfl⟩, stays⟩)
      · exact .inr ⟨new, (due new).mpr (.inl rfl), same⟩
      · exact .inl member
      · refine .inr ⟨role, (due role).mpr (.inr ⟨before, fun ends => stays role before ends rfl⟩), kept before⟩
    · rintro (member | ⟨role, now, rfl⟩)
      · refine .inr ⟨.inl member, fun role before _ equal => ?_⟩
        exact (cast.plays role before).1 (equal ▸ member)
      · rcases (due role).mp now with rfl | ⟨before, stays⟩
        · exact .inl same
        · rw [kept before]
          refine .inr ⟨.inr ⟨role, before, rfl⟩, fun other else_ ends equal => ?_⟩
          rw [cast.distinct other role else_ before equal] at ends
          exact stays ends
  · rcases (due role).mp now with rfl | ⟨before, stays⟩
    · rw [same]
      exact ⟨apart, agent, found, standing⟩
    · rw [kept before, (others role before stays).2]
      exact cast.plays role before
  · rcases (due role).mp now with rfl | ⟨before, stays⟩
    · rcases (due other).mp then_ with rfl | ⟨past, kind⟩
      · rfl
      · rw [same, kept past] at equal
        exact absurd equal.symm (others other past kind).1
    · rcases (due other).mp then_ with rfl | ⟨past, kind⟩
      · rw [same, kept before] at equal
        exact absurd equal (others role before stays).1
      · rw [kept before, kept past] at equal
        exact cast.distinct role other before past equal
  · rw [old other member]
    exact cast.old other member
  · rcases (due role).mp now with rfl | ⟨before, stays⟩
    · exact watched
    · intro fd member
      obtain ⟨inside, free⟩ := cast.watched role before fd member
      exact still role before stays fd member inside free
  · obtain ⟨told, notices, counts⟩ := cast.said
    obtain ⟨more, appended, added⟩ := said
    refine ⟨told ++ more, by rw [appended, notices, List.append_assoc], fun peer member => ?_⟩
    obtain ⟨count, stays⟩ := added peer member
    rw [List.countP_append, counts peer member, count]
    by_cases past : peer.Introduced before
    · simp [past, stays past]
    · simp [past]

theorem member_cases (cast : Cast peers start before w block) {id : Nat} {agent : Block} (member : id ∈ w.table)
    (found : w.blocks id = some agent) : id ∈ start.table ∧ start.blocks id = some agent ∨
      ∃ role : Role, role.Due before ∧ block role = id ∧ agent.standing = role.standing := by
  rcases (cast.table id).mp member with past | ⟨role, due, rfl⟩
  · exact .inl ⟨past, (cast.old id past).symm.trans found⟩
  · obtain ⟨_, block, there, standing⟩ := cast.plays role due
    rw [found] at there
    cases there
    exact .inr ⟨role, due, rfl, standing⟩

theorem mem_table (cast : Cast peers start before w block) {role : Role} (due : role.Due before) :
    block role ∈ w.table :=
  (cast.table _).mpr (.inr ⟨role, due, rfl⟩)

/-- `select` waits on the descriptor of a waiting block for no other. -/
theorem watched_alone (meets : start.Meets peers) (orderly : Orderly peers before) {peer : Peer} {channel : Channel}
    (due : (Role.waiting peer channel).Due before) {role : Role} (now : role.Due before)
    (different : ¬role = .waiting peer channel) (inside : (peer.link channel).fd ∈ role.watched) : False := by
  have member := orderly.members _ due.1
  have same {another : Peer} (line : Channel) (known : another ∈ peers)
      (equal : (peer.link channel).fd = (another.link line).fd) : peer = another ∧ channel = line :=
    meets.fds peer member another known channel line equal
  cases role with
  | waiting another line =>
    obtain ⟨rfl, rfl⟩ := same line (orderly.members _ now.1) (List.mem_singleton.mp inside)
    exact different rfl
  | half another line =>
    cases line with
    | control =>
      obtain ⟨rfl, rfl⟩ := same .control (orderly.members _ now.1) (List.mem_singleton.mp inside)
      exact due.2 now.1
    | rpc => cases inside
  | complete another =>
    rcases List.mem_cons.mp inside with equal | rest
    · obtain ⟨rfl, rfl⟩ := same .control (orderly.members _ now.1) equal
      exact due.2 now.1
    · obtain ⟨rfl, rfl⟩ := same .rpc (orderly.members _ now.1) (List.mem_singleton.mp rest)
      exact due.2 now.2

section Lookups

variable (cast : Cast peers start before w block) (meets : start.Meets peers) (orderly : Orderly peers before)
  {peer : Peer} {channel : Channel}

include cast meets orderly

/-- The message of a connection is read for the block it waits in. -/
theorem readable (due : (Role.waiting peer channel).Due before) :
    w.readable (peer.link channel).fd = some (block (.waiting peer channel)) := by
  have member := orderly.members _ due.1
  obtain ⟨_, agent, found, standing⟩ := cast.plays _ due
  have isNew : agent.isNew = true := congrArg Standing.isNew standing
  have slot : agent.iFileDesc = some (peer.link channel).fd := congrArg Standing.iFileDesc standing
  refine World.findAgent_of_unique (cast.mem_table due) found (by simp [isNew, slot]) ?_
  intro other listed second there accepted
  simp only [Bool.and_eq_true, decide_eq_true_eq] at accepted
  rcases cast.member_cases listed there with ⟨past, first⟩ | ⟨role, now, rfl, stands⟩
  · exact absurd (Block.mem_fds.mpr (.inl accepted.2)) ((meets.unused peer member channel).2 other past second first)
  · have fresh : role.standing.isNew = true := (congrArg Standing.isNew stands).symm.trans accepted.1
    have plugged : role.standing.iFileDesc = some (peer.link channel).fd :=
      (congrArg Standing.iFileDesc stands).symm.trans accepted.2
    cases role with
    | waiting another line =>
      have known := orderly.members _ now.1
      obtain ⟨rfl, rfl⟩ := meets.fds another known peer member line channel (Option.some.inj plugged)
      rfl
    | half another line => cases line <;> simp [Role.standing] at fresh plugged
    | complete another => simp [Role.standing] at fresh

/-- No block that is alive has the address of a connection that is not accepted yet. -/
theorem unknown_addr (member : peer ∈ peers) (new : .accept peer channel ∉ before) :
    w.findAgentBlkByAddr (peer.link channel).addr = none := by
  refine World.findAgent_eq_none_iff.mpr fun id listed agent found => ?_
  rw [Bool.eq_false_iff]
  intro accepted
  simp only [Bool.and_eq_true, decide_eq_true_eq] at accepted
  rcases cast.member_cases listed found with ⟨past, first⟩ | ⟨role, now, rfl, stands⟩
  · exact meets.elsewhere peer member channel id past agent first accepted.2
  · have alive : role.standing.isAlive = true := (congrArg Standing.isAlive stands).symm.trans accepted.1
    have addr : role.standing.addr = (peer.link channel).addr := (congrArg Standing.addr stands).symm.trans accepted.2
    have spoken {another : Peer} (said : .session another .control ∈ before)
        (same : (another.link .control).addr = (peer.link channel).addr) : False := by
      obtain ⟨rfl, rfl⟩ := meets.addrs another (orderly.members _ said) peer member .control channel same
      exact new (orderly.causal another .control said)
    cases role with
    | waiting another line => simp [Role.standing] at alive
    | half another line =>
      cases line with
      | control => exact spoken now.1 addr
      | rpc => simp [Role.standing] at alive
    | complete another => exact spoken now.1 addr

/-- The role of an inbound block that records the uuid of a process. -/
theorem inbound_role (member : peer ∈ peers) {id : Nat} (listed : id ∈ w.table) (inbound : w.Inbound peer.uuid id) :
    ∃ role : Role, role.Due before ∧ block role = id ∧ (role = .complete peer ∨ ∃ line, role = .half peer line) := by
  obtain ⟨agent, found, direction, uuid⟩ := inbound
  rcases cast.member_cases listed found with ⟨past, first⟩ | ⟨role, now, rfl, stands⟩
  · exact absurd ⟨agent, first, direction, uuid⟩ (meets.unmet peer member id past)
  · have named : role.standing.remoteUuid = peer.uuid := (congrArg Standing.remoteUuid stands).symm.trans uuid
    refine ⟨role, now, rfl, ?_⟩
    cases role with
    | waiting another line =>
      have null : (Uuid.filled 0).isNull = false := by
        rw [show Uuid.filled 0 = peer.uuid from named]
        exact meets.known peer member
      exact absurd null (by decide)
    | half another line =>
      have same : another.uuid = peer.uuid := by
        cases line <;> exact named
      rw [meets.uuids another (orderly.members _ now.1) peer member same]
      exact .inr ⟨line, rfl⟩
    | complete another =>
      rw [meets.uuids another (orderly.members _ now.1) peer member named]
      exact .inl rfl

/-- No block has the uuid of a process that has not introduced itself. -/
theorem stranger (member : peer ∈ peers) (unheard : ∀ line, .session peer line ∉ before) :
    w.findAgentByUuidPassive peer.uuid = none := by
  refine World.findAgentByUuidPassive_eq_none_iff.mpr fun id listed inbound => ?_
  obtain ⟨role, now, _, rfl | ⟨line, rfl⟩⟩ := cast.inbound_role meets orderly member listed inbound
  · exact unheard .control now.1
  · exact unheard line now.1

/-- The block of a process of which one half has introduced itself. -/
theorem acquainted (due : (Role.half peer channel).Due before) :
    w.findAgentByUuidPassive peer.uuid = some (block (.half peer channel)) := by
  have member := orderly.members _ due.1
  obtain ⟨_, agent, found, standing⟩ := cast.plays _ due
  have direction : agent.direction = .inbound := by
    rw [show agent.direction = agent.standing.direction from rfl, standing]
    cases channel <;> rfl
  have uuid : agent.remoteUuid = peer.uuid := by
    rw [show agent.remoteUuid = agent.standing.remoteUuid from rfl, standing]
    cases channel <;> rfl
  rw [World.findAgentByUuidPassive_eq]
  refine World.findAgent_of_unique (cast.mem_table due) found (by simp [direction, uuid]) ?_
  intro other listed second there accepted
  simp only [Bool.and_eq_true, decide_eq_true_eq] at accepted
  obtain ⟨role, now, rfl, rfl | ⟨line, rfl⟩⟩ := cast.inbound_role meets orderly member listed ⟨second, there, accepted⟩
  · cases channel with
    | control => exact absurd now.2 due.2
    | rpc => exact absurd now.1 due.2
  · cases channel <;> cases line
    · rfl
    · exact absurd due.1 now.2
    · exact absurd due.1 now.2
    · rfl

end Lookups

section Steps

variable (cast : Cast peers start before w block) (meets : start.Meets peers) (orderly : Orderly peers before)
  {peer : Peer} {channel : Channel}

include cast meets orderly

/-- A connection is accepted. -/
theorem accept (member : peer ∈ peers) (new : .accept peer channel ∉ before)
    (unheard : .session peer channel ∉ before) :
    ∃ w' block', w.arrive (.accept peer channel) = .ok w' ∧
      Cast peers start (before ++ [.accept peer channel]) w' block' := by
  have unknown : (w.establish (peer.link channel).fd).findAgentBlkByAddr (peer.link channel).addr = none :=
    cast.unknown_addr meets orderly member new
  have run : w.arrive (.accept peer channel) = .ok (w.acceptedNew (peer.link channel).fd (peer.link channel).addr) := by
    simp only [World.arrive, World.accept, World.findCreateAgentBlkByAddr, unknown, bind, Except.bind]
    exact World.adopt_ok_iff.mpr ⟨Block.fresh (peer.link channel).addr w.clock, World.blocks_put_self, rfl⟩
  have blocks := w.blocks_acceptedNew (peer.link channel).fd (peer.link channel).addr
  have table : (w.acceptedNew (peer.link channel).fd (peer.link channel).addr).table = w.table ++ [w.nextBlock] := rfl
  have unborn : w.nextBlock ∉ w.table := fun listed => absurd (cast.listed _ listed) (lt_irrefl _)
  have others {id : Nat} (listed : id ∈ w.table) :
      (w.acceptedNew (peer.link channel).fd (peer.link channel).addr).blocks id = w.blocks id := by
    rw [blocks]
    exact World.blocks_put_of_ne fun same => unborn (same ▸ listed)
  have free : (peer.link channel).fd ∉ w.suspended := by
    intro inside
    rcases cast.suspended _ inside with past | ⟨another, now, same⟩
    · exact (meets.unused peer member channel).1 past
    · obtain ⟨rfl, rfl⟩ := meets.fds peer member another (orderly.members _ now.1) channel .rpc same
      exact unheard now.1
  have found : (w.acceptedNew (peer.link channel).fd (peer.link channel).addr).blocks w.nextBlock =
      some ((Block.fresh (peer.link channel).addr w.clock).plugControl (some (peer.link channel).fd)) := by
    rw [blocks]
    exact World.blocks_put_self
  refine ⟨_, _, run, cast.recast (.waiting peer channel) w.nextBlock (fun _ => False)
    (fun role => Role.due_accept new unheard) (fun due => new due.1) ?_ found (Block.standing_fresh peer channel w.clock) ?_ ?_ ?_ ?_ ?_ ?_ ?_ ?_ ?_⟩
  · exact fun listed => unborn ((cast.table _).mpr (.inl listed))
  · intro role now _
    have listed := cast.mem_table now
    exact ⟨fun same => unborn (same ▸ listed), others listed⟩
  · exact fun other listed => others ((cast.table other).mpr (.inl listed))
  · intro other
    simp only [table, List.mem_append, List.mem_singleton, false_implies, implies_true, and_true]
    exact or_comm
  · rw [table]
    exact List.nodup_append.mpr ⟨cast.nodup, List.nodup_singleton _, fun id listed other own => by
      rw [List.mem_singleton.mp own]
      exact fun same => unborn (same ▸ listed)⟩
  · intro id listed
    rw [table] at listed
    rcases List.mem_append.mp listed with past | own
    · exact Nat.lt_succ_of_lt (cast.listed id past)
    · rw [List.mem_singleton.mp own]
      exact Nat.lt_succ_self _
  · intro fd inside
    rw [List.mem_singleton.mp inside]
    exact ⟨Finset.mem_insert_self _ _, free⟩
  · exact fun _ _ _ fd _ inside outside => ⟨Finset.mem_insert_of_mem inside, outside⟩
  · intro fd inside
    rcases cast.suspended fd inside with past | ⟨another, now, same⟩
    · exact .inl past
    · exact .inr ⟨another, (Role.due_accept new unheard).mpr (.inr ⟨now, not_false⟩), same⟩
  · refine ⟨[], (List.append_nil _).symm, fun another _ => ?_⟩
    have same : another.Introduced (before ++ [.accept peer channel]) ↔ another.Introduced before := by
      simp [Peer.Introduced]
    simp [same]

/-- The first half of a process introduces itself. -/
theorem first (member : peer ∈ peers) (accepted : .accept peer channel ∈ before)
    (unheard : .session peer channel ∉ before) (alone : .session peer channel.other ∉ before) :
    ∃ w' block', w.arrive (.session peer channel) = .ok w' ∧
      Cast peers start (before ++ [.session peer channel]) w' block' := by
  have due : (Role.waiting peer channel).Due before := ⟨accepted, unheard⟩
  have silent : ∀ line, .session peer line ∉ before := by
    intro line
    cases channel <;> cases line <;> assumption
  obtain ⟨apart, agent, found, standing⟩ := cast.plays _ due
  obtain ⟨message, admission, isSession, valid, uuid, line⟩ := meets.introduces peer member channel
  have null : agent.remoteUuid = Uuid.filled 0 := congrArg Standing.remoteUuid standing
  have isNew : agent.isNew = true := congrArg Standing.isNew standing
  have one : agent.refCount = 1 := congrArg Standing.refCount standing
  have slot : agent.iFileDesc = some (peer.link channel).fd := congrArg Standing.iFileDesc standing
  have unknown : w.findAgentByUuidPassive (Session.read message.body).uuid = none := by
    rw [uuid]
    exact cast.stranger meets orderly member silent
  have run : w.arrive (.session peer channel) =
      .ok (w.identified (block (.waiting peer channel)) agent (Session.read message.body)) := by
    simp only [World.arrive, cast.readable meets orderly due]
    exact World.hear_first found isNew (by omega) (null ▸ admission) isSession valid unknown
  obtain ⟨after, stands, blocks, table, nextBlock, notices, watch⟩ :=
    w.identified_half (block (.waiting peer channel)) standing uuid line
  have keeps {role : Role} (now : role.Due before) (stays : ¬role = .waiting peer channel) :
      role.Due (before ++ [.session peer channel]) := (Role.due_first unheard alone).mpr (.inr ⟨now, stays⟩)
  have here : (w.identified (block (.waiting peer channel)) agent (Session.read message.body)).blocks
      (block (.waiting peer channel)) = some after := by
    rw [blocks]
    exact World.blocks_put_self
  refine ⟨_, _, run, cast.recast (.half peer channel) (block (.waiting peer channel))
    (fun role => role = .waiting peer channel) (fun role => Role.due_first unheard alone) (fun now => unheard now.1)
    apart here stands ?_ ?_ ?_ ?_ ?_ ?_ ?_ ?_ ?_⟩
  · intro role now stays
    have different : block role ≠ block (.waiting peer channel) := fun same => stays (cast.distinct _ _ now due same)
    exact ⟨different, by rw [blocks]; exact World.blocks_put_of_ne different⟩
  · intro other listed
    rw [blocks]
    exact World.blocks_put_of_ne fun same => apart (same ▸ listed)
  · intro other
    rw [table]
    constructor
    · intro listed
      by_cases here : other = block (.waiting peer channel)
      · exact .inl here
      · refine .inr ⟨listed, fun role _ ends same => here ?_⟩
        rw [← same, ends]
    · rintro (rfl | ⟨listed, _⟩)
      · exact cast.mem_table due
      · exact listed
  · rw [table]
    exact cast.nodup
  · rw [table, nextBlock]
    exact cast.listed
  · intro fd inside
    cases channel with
    | control =>
      obtain ⟨waits, free⟩ := cast.watched _ due fd inside
      rw [(watch fd).1, (watch fd).2]
      exact ⟨⟨waits, nofun⟩, fun held => held.elim free nofun⟩
    | rpc => cases inside
  · intro role now stays fd inside waits free
    have other : ¬(channel = .rpc ∧ fd = peer.rpc.fd) := by
      rintro ⟨rfl, rfl⟩
      exact watched_alone meets orderly due now stays inside
    rw [(watch fd).1, (watch fd).2]
    exact ⟨⟨waits, other⟩, fun held => held.elim free other⟩
  · intro fd held
    rcases (watch fd).2.mp held with past | ⟨rfl, rfl⟩
    · rcases cast.suspended fd past with old | ⟨another, now, same⟩
      · exact .inl old
      · exact .inr ⟨another, keeps now nofun, same⟩
    · exact .inr ⟨peer, (Role.due_first unheard alone).mpr (.inl rfl), rfl⟩
  · refine ⟨[], by rw [notices, List.append_nil], fun another _ => ?_⟩
    have same : another.Introduced (before ++ [.session peer channel]) ↔ another.Introduced before := by
      have both : (Role.complete another).Due _ ↔ _ := Role.due_first unheard alone
      simpa [Role.Due, Peer.Introduced] using both
    simp [same]

/-- The second half of a process introduces itself. -/
theorem second (accepted : .accept peer channel ∈ before) (unheard : .session peer channel ∉ before)
    (joined : .session peer channel.other ∈ before) :
    ∃ w' block', w.arrive (.session peer channel) = .ok w' ∧
      Cast peers start (before ++ [.session peer channel]) w' block' := by
  have member : peer ∈ peers := orderly.members _ accepted
  have due : (Role.waiting peer channel).Due before := ⟨accepted, unheard⟩
  have other : (Role.half peer channel.other).Due before := by
    cases channel <;> exact ⟨joined, unheard⟩
  obtain ⟨free, agent, found, standing⟩ := cast.plays _ due
  obtain ⟨apart, known, there, stands⟩ := cast.plays _ other
  have different : block (.waiting peer channel) ≠ block (.half peer channel.other) :=
    fun same => nomatch cast.distinct _ _ due other same
  obtain ⟨message, admission, isSession, valid, uuid, line⟩ := meets.introduces peer member channel
  have null : agent.remoteUuid = Uuid.filled 0 := congrArg Standing.remoteUuid standing
  have held : 0 < known.refCount := by
    rw [show known.refCount = known.standing.refCount from rfl, stands]
    cases channel <;> exact Nat.one_pos
  have matching : w.findAgentByUuidPassive (Session.read message.body).uuid =
      some (block (.half peer channel.other)) := by
    rw [uuid]
    exact cast.acquainted meets orderly other
  have run : w.arrive (.session peer channel) = .ok (w.joined (block (.waiting peer channel))
      (block (.half peer channel.other)) known agent (Session.read message.body)) := by
    simp only [World.arrive, cast.readable meets orderly due]
    exact World.hear_second found (congrArg Standing.refCount standing) (congrArg Standing.isDead standing)
      (congrArg Standing.isNew standing) (congrArg Standing.workInProgress standing) (null ▸ admission) isSession valid
      matching there held different
  obtain ⟨after, said, complete, here, others, table, nextBlock, notices, count, watch⟩ :=
    w.joined_complete different stands standing line (meets.known peer member)
  have keeps {role : Role} (now : role.Due before)
      (stays : ¬(role = .waiting peer channel ∨ role = .half peer channel.other)) :
      role.Due (before ++ [.session peer channel]) := (Role.due_second unheard joined).mpr (.inr ⟨now, stays⟩)
  have elsewhere {role : Role} (now : role.Due before)
      (stays : ¬(role = .waiting peer channel ∨ role = .half peer channel.other)) :
      block role ≠ block (.waiting peer channel) ∧ block role ≠ block (.half peer channel.other) :=
    ⟨fun same => stays (.inl (cast.distinct _ _ now due same)),
      fun same => stays (.inr (cast.distinct _ _ now other same))⟩
  have incomplete : ¬(Role.complete peer).Due before := by
    intro both
    cases channel
    · exact unheard both.1
    · exact unheard both.2
  refine ⟨_, _, run, cast.recast (.complete peer) (block (.half peer channel.other))
    (fun role => role = .waiting peer channel ∨ role = .half peer channel.other)
    (fun role => Role.due_second unheard joined) incomplete apart here complete ?_ ?_ ?_ ?_ ?_ ?_ ?_ ?_ ?_⟩
  · intro role now stays
    obtain ⟨first, second⟩ := elsewhere now stays
    exact ⟨second, others _ first second⟩
  · intro id listed
    exact others id (fun same => free (same ▸ listed)) fun same => apart (same ▸ listed)
  · intro id
    rw [table, cast.nodup.mem_erase_iff]
    constructor
    · rintro ⟨away, listed⟩
      by_cases equal : id = block (.half peer channel.other)
      · exact .inl equal
      · refine .inr ⟨listed, ?_⟩
        rintro role _ (rfl | rfl) same
        · exact away same.symm
        · exact equal same.symm
    · rintro (rfl | ⟨listed, ends⟩)
      · exact ⟨different.symm, cast.mem_table other⟩
      · exact ⟨fun same => ends _ due (.inl rfl) same.symm, listed⟩
  · rw [table]
    exact cast.nodup.erase _
  · rw [table, nextBlock]
    exact fun id listed => cast.listed id (List.mem_of_mem_erase listed)
  · intro fd inside
    rw [(watch fd).1, (watch fd).2]
    cases channel with
    | control =>
      rcases List.mem_cons.mp inside with rfl | rest
      · obtain ⟨waits, outside⟩ := cast.watched _ due peer.control.fd (List.mem_singleton_self _)
        exact ⟨.inl waits, fun held => outside held.1⟩
      · exact ⟨.inr ⟨rfl, List.mem_singleton.mp rest⟩, fun held => held.2 ⟨rfl, List.mem_singleton.mp rest⟩⟩
    | rpc =>
      rcases List.mem_cons.mp inside with rfl | rest
      · obtain ⟨waits, outside⟩ := cast.watched _ other peer.control.fd (List.mem_singleton_self _)
        exact ⟨.inl waits, fun held => outside held.1⟩
      · obtain ⟨waits, outside⟩ := cast.watched _ due fd rest
        exact ⟨.inl waits, fun held => outside held.1⟩
  · intro role now stays fd inside waits outside
    rw [(watch fd).1, (watch fd).2]
    exact ⟨.inl waits, fun held => outside held.1⟩
  · intro fd held
    obtain ⟨past, away⟩ := (watch fd).2.mp held
    rcases cast.suspended fd past with old | ⟨another, now, same⟩
    · exact .inl old
    · refine .inr ⟨another, keeps now ?_, same⟩
      rintro (waits | half)
      · cases waits
      · cases channel with
        | control =>
          cases half
          exact away ⟨rfl, same⟩
        | rpc => cases half
  · refine ⟨said, notices, fun another known => ⟨?_, fun both => ?_⟩⟩
    rotate_left
    · exact ⟨List.mem_append_left _ both.1, List.mem_append_left _ both.2⟩
    have both : (Role.complete another).Due _ ↔ _ := Role.due_second unheard joined
    rw [count]
    by_cases equal : peer = another
    · subst equal
      have after : peer.Introduced (before ++ [.session peer channel]) := both.mpr (.inl rfl)
      have not : ¬peer.Introduced before := incomplete
      simp [after, not]
    · have apart : ¬peer.uuid = another.uuid := fun same => equal (meets.uuids peer member another known same)
      have same : another.Introduced (before ++ [.session peer channel]) ↔ another.Introduced before := by
        refine both.trans ⟨?_, fun now => .inr ⟨now, by simp⟩⟩
        rintro (made | ⟨now, _⟩)
        · cases made
          exact absurd rfl equal
        · exact now
      simp [apart, same]

end Steps

end Cast

/-- What comes before another element of a list without repetitions. -/
theorem mem_before_of_sublist {α : Type} {first second : α} {before later : List α}
    (ordered : [first, second].Sublist (before ++ second :: later)) (nodup : (before ++ second :: later).Nodup) :
    first ∈ before := by
  have once : second ∉ later := (List.nodup_cons.mp (List.nodup_append.mp nodup).2.1).1
  obtain ⟨front, back, split, inFront, inBack⟩ := List.sublist_append_iff.mp ordered
  cases front with
  | cons head rest =>
    obtain ⟨rfl, _⟩ := List.cons.inj split
    exact inFront.subset List.mem_cons_self
  | nil =>
    subst split
    have inLater : [second].Sublist later := List.Sublist.tail inBack
    exact absurd (inLater.subset List.mem_cons_self) once

namespace Order

variable {peers : List Peer} {events before later : List Arrival} (order : Order peers events)

include order

theorem accepted {peer : Peer} {channel : Channel} (split : events = before ++ .session peer channel :: later) :
    .accept peer channel ∈ before := by
  have member : peer ∈ peers := (order.all (.session peer channel)).mp (by simp [split])
  have ordered := order.causal peer member channel
  have once := order.once
  rw [split] at ordered once
  exact mem_before_of_sublist ordered once

theorem orderly (split : events = before ++ later) : Orderly peers before where
  members := by
    intro event member
    exact (order.all event).mp (split ▸ List.mem_append_left _ member)
  causal := by
    intro peer channel member
    obtain ⟨front, back, rfl⟩ := List.append_of_mem member
    have earlier : events = front ++ .session peer channel :: (back ++ later) := by
      rw [split, List.append_assoc, List.cons_append]
    exact List.mem_append_left _ (order.accepted earlier)

/-- After any part of the arrivals every block has the role that is due. -/
theorem cast {start : World} (nodup : start.table.Nodup) (listed : ∀ id ∈ start.table, id < start.nextBlock)
    (meets : start.Meets peers) (split : events = before ++ later) :
    ∃ w block, World.arriving.run start before = .ok w ∧ Cast peers start before w block := by
  induction before using List.reverseRecOn generalizing later with
  | nil => exact ⟨start, fun _ => 0, rfl, .nil nodup listed _⟩
  | append_singleton before event ih =>
    have earlier : events = before ++ event :: later := by rw [split, List.append_assoc, List.singleton_append]
    obtain ⟨w, block, run, cast⟩ := ih earlier
    have orderly := order.orderly earlier
    have member : event.peer ∈ peers := (order.all event).mp (by simp [split])
    have new : event ∉ before := by
      have once := order.once
      rw [earlier] at once
      exact fun inside => (List.nodup_append.mp once).2.2 event inside event List.mem_cons_self rfl
    have step : ∃ w' block', w.arrive event = .ok w' ∧ Cast peers start (before ++ [event]) w' block' := by
      cases event with
      | accept peer channel =>
        exact cast.accept meets orderly member new fun heard => new (orderly.causal peer channel heard)
      | session peer channel =>
        have accepted := order.accepted earlier
        by_cases joined : .session peer channel.other ∈ before
        · exact cast.second meets orderly accepted new joined
        · exact cast.first meets orderly member accepted new joined
    obtain ⟨w', block', arrives, next⟩ := step
    refine ⟨w', block', Faulting.run_append.mpr ⟨w, run, ?_⟩, next⟩
    exact Except.bind_ok_iff.mpr ⟨w', arrives, rfl⟩

end Order

/-- Whatever the order in which the connections are accepted and their first messages
processed: in the end every process has one block, with both of its connections, and
it is reported ready once, after both messages. -/
theorem halves_meet (uuid : Uuid) (clock listenFd : Nat) (actions : List Action) (s : Process)
    (admits : Process.machine.Admits Process.Enabled (Process.start uuid clock listenFd) actions)
    (run : Process.machine.run (Process.start uuid clock listenFd) actions = .ok s) (peers : List Peer)
    (events : List Arrival) (meets : s.world.Meets peers) (order : Order peers events) :
    (∀ before later, events = before ++ later → ∃ w said, World.arriving.run s.world before = .ok w ∧
      w.notices = s.world.notices ++ said ∧
      ∀ peer ∈ peers, said.countP (Notice.announces peer.uuid) = if peer.Introduced before then 1 else 0) ∧
    ∃ (w : World) (said : List Notice) (block : Peer → Nat), World.arriving.run s.world events = .ok w ∧
      w.notices = s.world.notices ++ said ∧ w.table.Nodup ∧
      (∀ id, id ∈ w.table ↔ id ∈ s.world.table ∨ ∃ peer ∈ peers, block peer = id) ∧
      (∀ peer ∈ peers, ∀ other ∈ peers, block peer = block other → peer = other) ∧
      (∀ id ∈ s.world.table, w.blocks id = s.world.blocks id) ∧
      ∀ peer ∈ peers, block peer ∉ s.world.table ∧ said.countP (Notice.announces peer.uuid) = 1 ∧
        peer.rpc.fd ∈ w.allSet ∧ peer.rpc.fd ∉ w.suspended ∧
        ∃ agent, w.blocks (block peer) = some agent ∧ agent.remoteUuid = peer.uuid ∧ agent.isAlive = true ∧
          agent.isNew = false ∧ agent.cntrlConnected = true ∧ agent.rpcConnected = true ∧
          agent.iFileDesc = some peer.control.fd ∧ agent.addr = peer.control.addr ∧
          agent.iRpcFd = some peer.rpc.fd := by
  have accounts : s.Accounts fun _ => False := by
    refine Faulting.run_invariant (Process.Accounts fun _ => False) (fun s action s' accounts enabled step => ?_)
      (Process.accounts_start _ uuid clock listenFd) admits run
    exact accounts.step enabled (fun _ _ => False.elim) (Process.step_took accounts.nextBlock_not_mem step)
  constructor
  · intro before later split
    obtain ⟨w, block, arrived, cast⟩ := order.cast accounts.nodup accounts.listed meets split
    obtain ⟨said, notices, counts⟩ := cast.said
    exact ⟨w, said, arrived, notices, counts⟩
  · obtain ⟨w, block, arrived, cast⟩ := order.cast accounts.nodup accounts.listed meets (List.append_nil events).symm
    obtain ⟨said, notices, counts⟩ := cast.said
    have heard {peer : Peer} (member : peer ∈ peers) (channel : Channel) : .session peer channel ∈ events :=
      (order.all _).mpr member
    have due {peer : Peer} (member : peer ∈ peers) : (Role.complete peer).Due events := ⟨heard member _, heard member _⟩
    have only {role : Role} (now : role.Due events) : ∃ peer ∈ peers, role = .complete peer := by
      have member := now.peer_mem (order.orderly (List.append_nil events).symm)
      cases role with
      | waiting peer channel => exact absurd (heard member channel) now.2
      | half peer channel => exact absurd (heard member channel.other) now.2
      | complete peer => exact ⟨peer, member, rfl⟩
    refine ⟨w, said, fun peer => block (.complete peer), arrived, notices, cast.nodup, fun id => ?_,
      fun peer member other known same => ?_, cast.old, fun peer member => ?_⟩
    · rw [cast.table]
      refine or_congr_right ⟨?_, fun ⟨peer, member, same⟩ => ⟨_, due member, same⟩⟩
      rintro ⟨role, now, rfl⟩
      obtain ⟨peer, member, rfl⟩ := only now
      exact ⟨peer, member, rfl⟩
    · exact Role.complete.inj (cast.distinct _ _ (due member) (due known) same)
    · obtain ⟨apart, agent, found, standing⟩ := cast.plays _ (due member)
      obtain ⟨waits, free⟩ := cast.watched _ (due member) peer.rpc.fd (by simp [Role.watched])
      exact ⟨apart, (counts peer member).trans (if_pos (due member)), waits, free, agent, found,
        congrArg Standing.remoteUuid standing, congrArg Standing.isAlive standing, congrArg Standing.isNew standing,
        congrArg Standing.cntrlConnected standing, congrArg Standing.rpcConnected standing,
        congrArg Standing.iFileDesc standing, congrArg Standing.addr standing, congrArg Standing.iRpcFd standing⟩

/-- A service that opens its connections on two descriptors, from ports of the same
numbers. -/
def Peer.plain (uuid : Uuid) (control rpc : Nat) : Peer where
  uuid := uuid
  control := ⟨control, ⟨0x7f000001, control⟩, (Session.plain uuid false).incoming uuid .sessionInfo⟩
  rpc := ⟨rpc, ⟨0x7f000001, rpc⟩, (Session.plain uuid true).incoming uuid .sessionInfo⟩

theorem Peer.plain_introduces (uuid : Uuid) (control rpc : Nat) (channel : Channel) :
    ((plain uuid control rpc).link channel).Introduces uuid channel := by
  have fits (rpcSetup : Bool) : (Session.plain uuid rpcSetup).Fits := by
    refine ⟨?_, ?_, ?_, ?_, ?_⟩ <;> simp [Session.plain, NodeType.code, NodeType.ofCode]
  have unknown : Transport.Trusts uuid (Uuid.filled 0) := .inl (by decide)
  cases channel with
  | control =>
    refine ⟨_, Session.admitted_incoming _ .sessionInfo unknown, rfl, ?_⟩
    rw [Session.read_write (fits false)]
    exact ⟨rfl, rfl, rfl⟩
  | rpc =>
    refine ⟨_, Session.admitted_incoming _ .sessionInfo unknown, rfl, ?_⟩
    rw [Session.read_write (fits true)]
    exact ⟨rfl, rfl, rfl⟩

/-- Two processes connect, and one of them is heard on its RPC connection first. -/
def crossing (first second : Peer) : List Arrival :=
  [.accept first .rpc, .accept second .rpc, .accept first .control, .session first .rpc, .accept second .control,
    .session second .control, .session second .rpc, .session first .control]

theorem crossing_order {first second : Peer} (different : first ≠ second) :
    Order [first, second] (crossing first second) where
  once := by simp [crossing, different, different.symm]
  all := by
    intro event
    cases event with
    | accept peer channel => cases channel <;> simp [crossing, Arrival.peer]
    | session peer channel => cases channel <;> simp [crossing, Arrival.peer, or_comm]
  causal := by
    intro peer member channel
    simp only [List.mem_cons, List.not_mem_nil, or_false] at member
    rcases member with rfl | rfl <;> cases channel <;> simp [crossing, List.cons_sublist_cons']

/-- Two services. -/
def guests : List Peer := [.plain (Uuid.filled 2) 5 6, .plain (Uuid.filled 3) 7 8]

theorem guests_meets : (World.init (Uuid.filled 1) 100 3).Meets guests := by
  have either {peer : Peer} (member : peer ∈ guests) :
      peer = .plain (Uuid.filled 2) 5 6 ∨ peer = .plain (Uuid.filled 3) 7 8 := by
    simpa [guests] using member
  refine ⟨?_, ?_, fun _ _ _ listed => absurd listed List.not_mem_nil, ?_, ?_,
    fun _ _ _ => ⟨Finset.notMem_empty _, fun _ listed => absurd listed List.not_mem_nil⟩,
    fun _ _ _ _ listed => absurd listed List.not_mem_nil, ?_⟩
  · intro peer member other known same
    rcases either member with rfl | rfl <;> rcases either known with rfl | rfl
    · rfl
    · exact absurd same (by decide)
    · exact absurd same (by decide)
    · rfl
  · intro peer member
    rcases either member with rfl | rfl <;> decide
  · intro peer member other known channel second same
    rcases either member with rfl | rfl <;> rcases either known with rfl | rfl <;> cases channel <;> cases second
    all_goals first | exact ⟨rfl, rfl⟩ | exact absurd same (by decide)
  · intro peer member other known channel second same
    rcases either member with rfl | rfl <;> rcases either known with rfl | rfl <;> cases channel <;> cases second
    all_goals first | exact ⟨rfl, rfl⟩ | exact absurd same (by decide)
  · intro peer member channel
    rcases either member with rfl | rfl <;> exact Peer.plain_introduces _ _ _ channel

theorem halves_meet_crossing : ∃ (w : World) (block : Peer → Nat),
    World.arriving.run (Process.start (Uuid.filled 1) 100 3).world
      (crossing (.plain (Uuid.filled 2) 5 6) (.plain (Uuid.filled 3) 7 8)) = .ok w ∧
    ∀ id, id ∈ w.table ↔ ∃ peer ∈ guests, block peer = id := by
  have different : Peer.plain (Uuid.filled 2) 5 6 ≠ Peer.plain (Uuid.filled 3) 7 8 :=
    fun same => absurd (congrArg Peer.uuid same) (by decide)
  obtain ⟨_, w, said, block, run, _, _, table, _⟩ :=
    halves_meet (Uuid.filled 1) 100 3 [] _ trivial rfl guests _ guests_meets (crossing_order different)
  refine ⟨w, block, run, fun id => (table id).trans ?_⟩
  exact or_iff_right List.not_mem_nil

end DEFw.Agents
