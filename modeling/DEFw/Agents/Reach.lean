import DEFw.Agents.Encounter

namespace DEFw.Agents
open Transport (Uuid)

/-- How far a connection is: not opened, in the backlog of the callee, accepted with a block of
its own, and past its session information. -/
inductive Progress
  | unopened
  | pending
  | waiting (id : Nat)
  | spoken
  deriving DecidableEq

/-- The callee has heard both connections. -/
def Met (progress : Channel → Progress) : Prop := ∀ channel, progress channel = .spoken

/-- The block of the caller before the first heartbeat. -/
structure OfiBlock.Unheard (agent : OfiBlock) : Prop where
  remoteUuid : agent.block.remoteUuid.isNull = true
  direction : agent.block.direction = .outbound
  heartbeatMode : agent.block.heartbeatMode = .none
  ofiAddr : agent.ofiAddr = none
  ofiReady : agent.ofiReady = false

namespace Encounter

variable (e : Encounter)

/-- A block that can name its peer and address it on the fabric. -/
structure Names (side : Side) (agent : OfiBlock) : Prop where
  remoteUuid : agent.block.remoteUuid = (e.self side.other).uuid
  ofiAddr : agent.ofiAddr = e.ofi side.other
  direction : agent.block.direction = side.direction

/-- A block of the callee that has nothing of the other connection. -/
structure Apart (channel : Channel) (agent : OfiBlock) : Prop where
  iFileDesc : agent.block.iFileDesc ≠ some (e.accepted channel.other)
  iRpcFd : agent.block.iRpcFd ≠ some (e.accepted channel.other)
  addr : agent.block.addr ≠ e.addr channel.other
  heartbeatMode : agent.block.heartbeatMode = .none

/-- A block of the callee whose connection has not introduced itself. -/
structure Waiting (channel : Channel) (agent : OfiBlock) : Prop extends e.Apart channel agent where
  remoteUuid : agent.block.remoteUuid.isNull = true
  ofiAddr : agent.ofiAddr = none
  ofiReady : agent.ofiReady = false

/-- The block of the callee that has the uuid of the caller, with one connection or with both. -/
def Joined (progress : Channel → Progress) (agent : OfiBlock) : Prop :=
  e.Names .callee agent ∧ ((∃ channel, progress channel = .spoken ∧ e.Apart channel agent) ∨ Met progress)

/-- A heartbeat of a process. -/
def Beat (side : Side) (letter : Letter) : Prop :=
  ∃ ses, letter = .hb ses (e.ofi side) ∧ ses.uuid = (e.self side).uuid

/-- The caller has heard of the callee. -/
def Reached (thread : Thread) (caller : Node) : Prop :=
  thread.isPast = true ∧ ∀ id agent, caller.table.get? id = some agent → e.Names .caller agent

/-- The caller, as far as the callee has got. -/
structure Calling (caller : Node) (thread : Thread) (met : Prop) : Prop where
  self : caller.self = e.self .caller
  ofi : caller.ofi = e.ofi .caller
  listed : ∀ id agent, caller.table.get? id = some agent → agent.Unheard ∨ e.Names .caller agent ∧ met
  single : ∀ id other first second, caller.table.get? id = some first → caller.table.get? other = some second → id = other
  held : ∀ agent ∈ thread.block, agent.Unheard
  unlisted : thread.isPast = false → ∀ id, caller.table.get? id = none
  gone : ∀ agent ∈ caller.unlinked, agent.ofiReady = true → met

/-- The callee, as far as the caller has got. -/
structure Called (callee : Node) (progress : Channel → Progress) (joint : Option Nat) (reached : Prop) : Prop where
  self : callee.self = e.self .callee
  ofi : callee.ofi = e.ofi .callee
  listed : ∀ id agent, callee.table.get? id = some agent →
    (∃ channel, progress channel = .waiting id ∧ e.Waiting channel agent) ∨ joint = some id ∧ e.Joined progress agent
  ready : ∀ agent ∈ callee.blocks, agent.ofiReady = true → reached

/-- The letters on the way. A heartbeat is from a process that can name the other. -/
structure Mailed (mail : Side → Channel → List Letter) (progress : Channel → Progress) (reached : Prop) : Prop where
  answers : ∀ channel, ∀ letter ∈ mail .caller channel, e.Beat .callee letter ∧ Met progress
  hellos : ∀ channel, progress channel ≠ .spoken →
    mail .callee channel = [] ∨ mail .callee channel = [e.hello channel]
  unopened : ∀ channel, progress channel = .unopened → mail .callee channel = []
  beats : ∀ channel, progress channel = .spoken → ∀ letter ∈ mail .callee channel, e.Beat .caller letter ∧ reached

/-- The connections that are yet to be opened and accepted. -/
structure Opening (thread : Thread) (backlog : List Channel) (progress : Channel → Progress) : Prop where
  dials : ∀ channel, thread.dials channel = true → progress channel = .unopened
  pending : ∀ channel, backlog.count channel = if progress channel = .pending then 1 else 0

/-- What holds of the two processes and the letters between them. -/
structure Follows (p : Pair) (progress : Channel → Progress) (joint : Option Nat) : Prop where
  calling : e.Calling p.caller p.thread (Met progress)
  called : e.Called p.callee progress joint (e.Reached p.thread p.caller)
  mailed : e.Mailed p.mail progress (e.Reached p.thread p.caller)
  opening : Opening p.thread p.backlog progress

end Encounter

theorem Channel.eq_other_of_ne {first second : Channel} (different : second ≠ first) : second = first.other := by
  cases first <;> cases second <;> first | rfl | exact absurd rfl different

namespace Encounter

variable {e : Encounter} {p p' : Pair} {progress : Channel → Progress} {joint : Option Nat} {n n' : Node}
  {id : Nat} {agent : OfiBlock} {channel : Channel} {letter : Letter} {thread : Thread} {met reached later : Prop}

theorem Follows.start (e : Encounter) : e.Follows (Pair.start e) (fun _ => .unopened) none where
  calling :=
    { self := rfl
      ofi := rfl
      listed := fun id agent found => (by cases found)
      single := fun id other first second found => (by cases found)
      held := fun agent member => (by cases member)
      unlisted := fun _ id => rfl
      gone := fun agent member => (by cases member) }
  called :=
    { self := rfl
      ofi := rfl
      listed := fun id agent found => (by cases found)
      ready := fun agent member => (by cases member) }
  mailed :=
    { answers := fun channel letter member => (by cases member)
      hellos := fun channel _ => .inl rfl
      unopened := fun channel _ => rfl
      beats := fun channel _ letter member => (by cases member) }
  opening := ⟨fun channel _ => rfl, fun channel => rfl⟩

theorem beat_sendHb {side : Side} (self : n.self = e.self side) (ofi : n.ofi = e.ofi side) : e.Beat side n.sendHb := by
  refine ⟨{ n.self with rpcSetup := false, listenPort := 0 }, ?_, ?_⟩
  · rw [Node.sendHb, ofi]
  · have own := congrArg Session.uuid self
    exact own

namespace Calling

/-- The caller goes on while the callee does. -/
theorem mono (calling : e.Calling n thread met) (implies : met → later) : e.Calling n thread later where
  self := calling.self
  ofi := calling.ofi
  listed id agent found := (calling.listed id agent found).imp_right (And.imp_right implies)
  single := calling.single
  held := calling.held
  unlisted := calling.unlisted
  gone agent member ready := implies (calling.gone agent member ready)

/-- The thread goes on with a block that has not been heard of. -/
theorem rethread (calling : e.Calling n thread met) {next : Thread} (held : ∀ agent ∈ next.block, agent.Unheard)
    (unlisted : next.isPast = false → ∀ id, n.table.get? id = none) : e.Calling n next met where
  self := calling.self
  ofi := calling.ofi
  listed := calling.listed
  single := calling.single
  held := held
  unlisted := unlisted
  gone := calling.gone

theorem unlink (calling : e.Calling n thread met) (id : Nat) : e.Calling (n.unlink id) thread met where
  self := Node.self_unlink.trans calling.self
  ofi := Node.ofi_unlink.trans calling.ofi
  listed other agent found := by
    rw [Node.get?_unlink] at found
    split at found
    · cases found
    · exact calling.listed other agent found
  single first second one two found there := by
    rw [Node.get?_unlink] at found there
    split at found
    · cases found
    · split at there
      · cases there
      · exact calling.single first second one two found there
  held := calling.held
  unlisted before other := by
    rw [Node.get?_unlink]
    split
    · rfl
    · exact calling.unlisted before other
  gone agent member ready := by
    rcases Node.mem_unlinked_unlink member with found | earlier
    · rcases calling.listed id agent found with unheard | named
      · rw [unheard.ofiReady] at ready
        cases ready
      · exact named.2
    · exact calling.gone agent earlier ready

/-- A block of the table is edited. -/
theorem put (calling : e.Calling n thread met) {old : OfiBlock} (found : n.table.get? id = some old)
    (edited : agent.Unheard ∨ e.Names .caller agent ∧ met) : e.Calling (n.put id agent) thread met where
  self := calling.self
  ofi := calling.ofi
  listed other block there := by
    rw [Node.get?_put] at there
    split at there
    · cases there
      exact edited
    · exact calling.listed other block there
  single first second one two here there := by
    have present : ∀ other block, (n.put id agent).table.get? other = some block → id = other := by
      intro other block member
      rw [Node.get?_put] at member
      split at member
      next same => exact same.symm
      next => exact calling.single id other old block found member
    exact (present first one here).symm.trans (present second two there)
  held := calling.held
  unlisted before other := by
    have none := calling.unlisted before id
    rw [found] at none
    cases none
  gone := calling.gone

theorem isPast (calling : e.Calling n thread met) (found : n.table.get? id = some agent) : thread.isPast = true := by
  cases past : thread.isPast with
  | true => rfl
  | false =>
    have none := calling.unlisted past id
    rw [found] at none
    cases none

/-- The only block of the caller can name the callee. -/
theorem reaches (calling : e.Calling n thread met) (found : n.table.get? id = some agent)
    (names : e.Names .caller agent) : e.Reached thread n := by
  refine ⟨calling.isPast found, fun other block there => ?_⟩
  obtain rfl := calling.single id other agent block found there
  rw [found] at there
  cases there
  exact names

end Calling

theorem Reached.unlink (reached : e.Reached thread n) (id : Nat) : e.Reached thread (n.unlink id) := by
  refine ⟨reached.1, fun other agent found => ?_⟩
  rw [Node.get?_unlink] at found
  split at found
  · cases found
  · exact reached.2 other agent found

theorem Reached.put (reached : e.Reached thread n) (names : e.Names .caller agent) : e.Reached thread (n.put id agent) := by
  refine ⟨reached.1, fun other block found => ?_⟩
  rw [Node.get?_put] at found
  split at found
  · cases found
    exact names
  · exact reached.2 other block found

namespace Called

theorem mono (called : e.Called n progress joint reached) (implies : reached → later) : e.Called n progress joint later where
  self := called.self
  ofi := called.ofi
  listed := called.listed
  ready agent member ready := implies (called.ready agent member ready)

theorem unlink (called : e.Called n progress joint reached) (id : Nat) : e.Called (n.unlink id) progress joint reached where
  self := Node.self_unlink.trans called.self
  ofi := Node.ofi_unlink.trans called.ofi
  listed other agent found := by
    rw [Node.get?_unlink] at found
    split at found
    · cases found
    · exact called.listed other agent found
  ready agent member := called.ready agent (Node.mem_blocks_unlink member)

/-- A connection that no block has yet goes a step further. -/
theorem turn (called : e.Called n progress joint reached) {next : Progress} (unheld : ∀ id, progress channel ≠ .waiting id)
    (unspoken : progress channel ≠ .spoken) : e.Called n (Function.update progress channel next) joint reached where
  self := called.self
  ofi := called.ofi
  listed id agent found := by
    have kept : ∀ second, progress second ≠ progress channel →
        Function.update progress channel next second = progress second := by
      intro second different
      refine Function.update_of_ne ?_ _ _
      rintro rfl
      exact different rfl
    rcases called.listed id agent found with ⟨second, before, waiting⟩ | ⟨here, names, ⟨second, before, apart⟩ | met⟩
    · exact .inl ⟨second, by rw [kept second (by rw [before]; exact (unheld id).symm), before], waiting⟩
    · exact .inr ⟨here, names, .inl ⟨second, by rw [kept second (by rw [before]; exact unspoken.symm), before], apart⟩⟩
    · exact absurd (met channel) unspoken
  ready := called.ready

/-- A block comes into the table that waits for the session information of its connection. -/
theorem link (called : e.Called n progress joint reached) (waits : progress channel = .waiting n.nextBlock)
    (waiting : e.Waiting channel agent) : e.Called (n.link agent) progress joint reached where
  self := called.self
  ofi := called.ofi
  listed other block found := by
    rw [Node.get?_link] at found
    split at found
    next same =>
      cases found
      exact .inl ⟨channel, by rw [same, waits], waiting⟩
    next => exact called.listed other block found
  ready block member ready := by
    rcases Node.mem_blocks_link member with rfl | earlier
    · rw [waiting.ofiReady] at ready
      cases ready
    · exact called.ready block earlier ready

/-- The block that joins the connections is edited. -/
theorem put (called : e.Called n progress joint reached) (here : joint = some id) (joined : e.Joined progress agent)
    (ready : agent.ofiReady = true → reached) : e.Called (n.put id agent) progress joint reached where
  self := called.self
  ofi := called.ofi
  listed other block found := by
    rw [Node.get?_put] at found
    split at found
    next same =>
      cases found
      exact .inr ⟨same ▸ here, joined⟩
    next => exact called.listed other block found
  ready block member := by
    rcases Node.mem_blocks_put member with rfl | earlier
    · exact ready
    · exact called.ready block earlier

/-- A block that a connection is read from has that connection. -/
theorem apart_of_reader (found : n.reader (e.accepted channel) = some (id, agent)) {second : Channel}
    (apart : e.Apart second agent) : second = channel := by
  by_contra different
  obtain rfl := Channel.eq_other_of_ne (Ne.symm different)
  exact (Node.reader_some found).2.elim apart.iFileDesc apart.iRpcFd

/-- The block that reads a connection which has not introduced itself. -/
theorem waiting_of_reader (called : e.Called n progress joint reached) (unspoken : progress channel ≠ .spoken)
    (found : n.reader (e.accepted channel) = some (id, agent)) :
    progress channel = .waiting id ∧ e.Waiting channel agent := by
  rcases called.listed id agent (Node.reader_some found).1 with ⟨second, waits, waiting⟩ | ⟨_, _, ⟨second, spoken, apart⟩ | met⟩
  · obtain rfl := apart_of_reader found waiting.toApart
    exact ⟨waits, waiting⟩
  · obtain rfl := apart_of_reader found apart
    exact absurd spoken unspoken
  · exact absurd (met channel) unspoken

/-- The block that reads a connection which has. -/
theorem joined_of_reader (called : e.Called n progress joint reached) (spoken : progress channel = .spoken)
    (found : n.reader (e.accepted channel) = some (id, agent)) : joint = some id ∧ e.Joined progress agent := by
  rcases called.listed id agent (Node.reader_some found).1 with ⟨second, waits, waiting⟩ | joined
  · obtain rfl := apart_of_reader found waiting.toApart
    rw [spoken] at waits
    cases waits
  · exact joined

/-- A block with the uuid of the caller is the one that joins its connections. -/
theorem joined_of_uuid (called : e.Called n progress joint reached) (found : n.table.get? id = some agent)
    (own : agent.block.remoteUuid = (e.self .caller).uuid) : joint = some id ∧ e.Joined progress agent := by
  rcases called.listed id agent found with ⟨second, _, waiting⟩ | joined
  · have null := waiting.remoteUuid
    rw [own, e.known] at null
    cases null
  · exact joined

end Called

theorem met_update (met : Met progress) (channel : Channel) : Met (Function.update progress channel .spoken) := by
  intro second
  by_cases same : second = channel
  · rw [same, Function.update_self]
  · rw [Function.update_of_ne same]
    exact met second

namespace Mailed

theorem mono (mailed : e.Mailed p.mail progress reached) (implies : reached → later) : e.Mailed p.mail progress later where
  answers := mailed.answers
  hellos := mailed.hellos
  unopened := mailed.unopened
  beats channel spoken letter member := (mailed.beats channel spoken letter member).imp_right implies

theorem answer (mailed : e.Mailed p.mail progress reached) (beat : e.Beat .callee letter) (met : Met progress)
    (channel : Channel) : e.Mailed (p.deliver .caller channel letter).mail progress reached where
  answers second new member := by
    rcases Pair.mem_mail_deliver member with earlier | ⟨_, _, rfl⟩
    · exact mailed.answers second new earlier
    · exact ⟨beat, met⟩
  hellos := mailed.hellos
  unopened := mailed.unopened
  beats := mailed.beats

theorem beat (mailed : e.Mailed p.mail progress reached) (beat : e.Beat .caller letter) (met : Met progress)
    (holds : reached) (channel : Channel) : e.Mailed (p.deliver .callee channel letter).mail progress reached where
  answers := mailed.answers
  hellos second unspoken := absurd (met second) unspoken
  unopened second unopened := by
    rw [met second] at unopened
    cases unopened
  beats second spoken new member := by
    rcases Pair.mem_mail_deliver member with earlier | ⟨_, _, rfl⟩
    · exact mailed.beats second spoken new earlier
    · exact ⟨beat, holds⟩

/-- The session information of a connection goes out. -/
theorem greet (mailed : e.Mailed p.mail progress reached) (pending : progress channel = .pending)
    (empty : p.mail .callee channel = []) : e.Mailed (p.deliver .callee channel (e.hello channel)).mail progress reached := by
  have others : ∀ second, second ≠ channel →
      (p.deliver .callee channel (e.hello channel)).mail .callee second = p.mail .callee second := by
    intro second different
    rw [Pair.deliver, Pair.mail_stock, if_neg fun same => different same.2]
  refine ⟨mailed.answers, fun second unspoken => ?_, fun second unopened => ?_, fun second spoken => ?_⟩
  · by_cases same : second = channel
    · rw [same, Pair.deliver, Pair.mail_stock, if_pos ⟨rfl, rfl⟩, empty]
      exact .inr rfl
    · rw [others second same]
      exact mailed.hellos second unspoken
  · rw [others second (by rintro rfl; rw [pending] at unopened; cases unopened)]
    exact mailed.unopened second unopened
  · rw [others second (by rintro rfl; rw [pending] at spoken; cases spoken)]
    exact mailed.beats second spoken

/-- The next letter of a connection is read. -/
theorem take (mailed : e.Mailed p.mail progress reached) {side : Side} {rest : List Letter}
    (mail : p.mail side channel = letter :: rest) : e.Mailed (p.stock side channel rest).mail progress reached := by
  have fewer : ∀ other second, ∀ new ∈ (p.stock side channel rest).mail other second, new ∈ p.mail other second := by
    intro other second new member
    rw [Pair.mail_stock] at member
    split at member
    next same =>
      rw [same.1, same.2, mail]
      exact List.mem_cons_of_mem _ member
    next => exact member
  refine ⟨fun second new member => mailed.answers second new (fewer _ _ new member), fun second unspoken => ?_,
    fun second unopened => ?_, fun second spoken new member => mailed.beats second spoken new (fewer _ _ new member)⟩
  · rw [Pair.mail_stock]
    split
    next same =>
      have hello := mailed.hellos second unspoken
      rw [same.1, same.2, mail] at hello
      rcases hello with none | one
      · cases none
      · exact .inl (List.cons.inj one).2
    next => exact mailed.hellos second unspoken
  · refine List.eq_nil_iff_forall_not_mem.mpr fun new member => ?_
    have earlier := fewer .callee second new member
    rw [mailed.unopened second unopened] at earlier
    cases earlier

/-- A connection without session information goes a step further. -/
theorem turn (mailed : e.Mailed p.mail progress reached) {next : Progress} (unspoken : progress channel ≠ .spoken)
    (opened : next ≠ .unopened) (kept : next = .spoken → p.mail .callee channel = []) :
    e.Mailed p.mail (Function.update progress channel next) reached where
  answers second letter member := absurd ((mailed.answers second letter member).2 channel) unspoken
  hellos second later := by
    by_cases same : second = channel
    · rw [same]
      exact mailed.hellos channel unspoken
    · rw [Function.update_of_ne same] at later
      exact mailed.hellos second later
  unopened second unopened := by
    by_cases same : second = channel
    · rw [same, Function.update_self] at unopened
      exact absurd unopened opened
    · rw [Function.update_of_ne same] at unopened
      exact mailed.unopened second unopened
  beats second spoken letter member := by
    by_cases same : second = channel
    · rw [same, Function.update_self] at spoken
      rw [same, kept spoken] at member
      cases member
    · rw [Function.update_of_ne same] at spoken
      exact mailed.beats second spoken letter member

end Mailed

theorem post_none (e : Encounter) (p : Pair) (side : Side) (sends : Bool) : p.post e side sends none = p := by
  simp [Pair.post]

/-- A heartbeat leaves a block that can name its peer as it is, but for `DEFW_AGENT_OFI_READY`. -/
theorem Names.processMsgHb {side : Side} (names : e.Names side agent) (both : ∀ side, (e.ofi side).isSome = true)
    (inserts : Bool) (ses : Session) (ofiAddr : Option Nat) :
    e.Names side (n.processMsgHb inserts id agent ses ofiAddr).1 ∧
      (n.processMsgHb inserts id agent ses ofiAddr).1.block = agent.block.heard ses n.clock ∧
      (n.processMsgHb inserts id agent ses ofiAddr).2 = none := by
  have known : agent.block.remoteUuid.isNull = false := by
    rw [names.remoteUuid]
    exact e.known side.other
  have block : (n.processMsgHb inserts id agent ses ofiAddr).1.block = agent.block.heard ses n.clock := by
    rw [Node.block_processMsgHb, known]
    rfl
  refine ⟨⟨?_, ?_, ?_⟩, block, ?_⟩
  · rw [block, ← names.remoteUuid]
    simp only [Block.heard, known, Bool.false_eq_true, if_false]
  · have valid : agent.ofiAddr.isSome = true := by
      rw [names.ofiAddr]
      exact both side.other
    rw [Node.ofiAddr_processMsgHb, Option.or_of_isSome valid, names.ofiAddr]
  · rw [block]
    exact names.direction
  · simp only [Node.processMsgHb, known, Bool.false_eq_true, if_false]

/-- The first heartbeat tells the caller whom it has called. -/
theorem names_of_unheard (unheard : agent.Unheard) (both : ∀ side, (e.ofi side).isSome = true) {ses : Session}
    (own : ses.uuid = (e.self .callee).uuid) (ofi : n.ofi = e.ofi .caller) :
    e.Names .caller (n.processMsgHb true id agent ses (e.ofi .callee)).1 := by
  obtain ⟨_, _, _, _, same⟩ := Block.reportPeerReady_fst n.self.uuid n.clock id (agent.block.heard ses n.clock)
    "remote-identity-ready"
  have block := @Node.block_processMsgHb n id agent true ses (e.ofi .callee)
  rw [if_pos unheard.remoteUuid, same] at block
  refine ⟨?_, ?_, ?_⟩
  · rw [block]
    simp only [Block.heard, unheard.remoteUuid, if_true]
    exact own
  · rw [Node.ofiAddr_processMsgHb, unheard.ofiAddr, ofi, both .caller]
    rfl
  · rw [block]
    exact unheard.direction

namespace Follows

theorem postCaller (follows : e.Follows p progress joint) (met : Met progress) (reached : e.Reached p.thread p.caller)
    (sends : Bool) (fd : Option Nat) : e.Follows (p.post e .caller sends fd) progress joint := by
  rcases Pair.post_cases e p .caller sends fd with same | ⟨_, channel, same⟩
  · rwa [same]
  · rw [same]
    exact
      { calling := follows.calling
        called := follows.called
        mailed := follows.mailed.beat (beat_sendHb follows.calling.self follows.calling.ofi) met reached channel
        opening := follows.opening }

theorem postCallee (follows : e.Follows p progress joint) (met : Met progress) (sends : Bool) (fd : Option Nat) :
    e.Follows (p.post e .callee sends fd) progress joint := by
  rcases Pair.post_cases e p .callee sends fd with same | ⟨_, channel, same⟩
  · rwa [same]
  · rw [same]
    exact
      { calling := follows.calling
        called := follows.called
        mailed := follows.mailed.answer (beat_sendHb follows.called.self follows.called.ofi) met channel
        opening := follows.opening }

/-- The caller hears the callee. -/
theorem hearCaller (follows : e.Follows p progress joint) (both : ∀ side, (e.ofi side).isSome = true)
    {rest : List Letter} {fd : Nat} {sent : Option Nat} (mail : p.mail .caller channel = letter :: rest)
    (reads : p.caller.reader fd = some (id, agent)) (received : p.caller.Received true id agent letter n sent)
    (sends : Bool) :
    e.Follows (((p.stock .caller channel rest).set .caller n).post e .caller sends sent) progress joint := by
  obtain ⟨⟨ses, rfl, own⟩, met⟩ := follows.mailed.answers channel letter (by rw [mail]; exact List.mem_cons_self)
  have found := (Node.reader_some reads).1
  have taken := follows.mailed.take mail
  cases received with
  | refused =>
    rw [post_none]
    exact
      { calling := follows.calling.unlink id
        called := follows.called.mono fun reached => reached.unlink id
        mailed := taken.mono fun reached => reached.unlink id
        opening := follows.opening }
  | hb =>
    have names : e.Names .caller (p.caller.processMsgHb true id agent ses (e.ofi .callee)).1 := by
      rcases follows.calling.listed id agent found with unheard | ⟨names, _⟩
      · exact names_of_unheard unheard both own follows.calling.ofi
      · exact (names.processMsgHb both true ses _).1
    have calling := follows.calling.put found (.inr ⟨names, met⟩)
    have reached := calling.reaches (by rw [Node.get?_put, if_pos rfl]) names
    refine Follows.postCaller ?_ met reached sends _
    exact
      { calling := calling
        called := follows.called.mono fun _ => reached
        mailed := taken.mono fun _ => reached
        opening := follows.opening }

/-- The callee hears a heartbeat of the caller. -/
theorem hearBeat (follows : e.Follows p progress joint) (both : ∀ side, (e.ofi side).isSome = true)
    (spoken : progress channel = .spoken) {rest : List Letter} {sent : Option Nat}
    (mail : p.mail .callee channel = letter :: rest) (reads : p.callee.reader (e.accepted channel) = some (id, agent))
    (received : p.callee.Received true id agent letter n sent) (sends : Bool) :
    e.Follows (((p.stock .callee channel rest).set .callee n).post e .callee sends sent) progress joint := by
  obtain ⟨⟨ses, rfl, own⟩, reached⟩ :=
    follows.mailed.beats channel spoken letter (by rw [mail]; exact List.mem_cons_self)
  have taken := follows.mailed.take mail
  cases received with
  | refused =>
    rw [post_none]
    exact
      { calling := follows.calling
        called := follows.called.unlink id
        mailed := taken
        opening := follows.opening }
  | hb =>
    obtain ⟨here, names, place⟩ := follows.called.joined_of_reader spoken reads
    obtain ⟨still, block, silent⟩ := names.processMsgHb both true ses (e.ofi .caller)
    have joined : e.Joined progress (p.callee.processMsgHb true id agent ses (e.ofi .caller)).1 := by
      refine ⟨still, place.imp_left ?_⟩
      rintro ⟨second, before, apart⟩
      refine ⟨second, before, ⟨?_, ?_, ?_, ?_⟩⟩
      · rw [block]
        exact apart.iFileDesc
      · rw [block]
        exact apart.iRpcFd
      · rw [block]
        exact apart.addr
      · rw [block]
        exact apart.heartbeatMode
    rw [silent, post_none]
    exact
      { calling := follows.calling
        called := follows.called.put here joined fun _ => reached
        mailed := taken
        opening := follows.opening }

/-- What the callee makes of session information that completes a pair of connections. -/
theorem names_merged {known : OfiBlock} (names : e.Names .callee known) (both : ∀ side, (e.ofi side).isSome = true)
    (ses : Session) (ofiAddr : Option Nat) : e.Names .callee (n.merged true id known agent ses ofiAddr).1 := by
  have valid : known.ofiAddr.isSome = true := by
    rw [names.ofiAddr]
    exact both .caller
  obtain ⟨_, _, _, _, _, same⟩ := Block.greeted_fst n.self.uuid n.clock id (known.attached agent ses n.clock).block
    (if ses.rpcSetup then "inbound-rpc-ready" else "inbound-control-ready")
  have block := @Node.block_merged n id agent true known ses ofiAddr
  rw [same] at block
  refine ⟨?_, ?_, ?_⟩
  · rw [block, OfiBlock.attached]
    split <;> exact names.remoteUuid
  · rw [Node.ofiAddr_merged, Option.or_of_isSome valid]
    exact names.ofiAddr
  · rw [block, OfiBlock.attached]
    split <;> exact names.direction

/-- What it makes of the first session information of the caller. -/
theorem joined_identified (waiting : e.Waiting channel agent) (both : ∀ side, (e.ofi side).isSome = true)
    (ofi : n.ofi = e.ofi .callee) {ses : Session} (own : ses.uuid = (e.self .caller).uuid) :
    e.Names .callee (n.identified true agent ses (e.ofi .caller)) ∧
      e.Apart channel (n.identified true agent ses (e.ofi .caller)) := by
  have valid : (n.identified true agent ses (e.ofi .caller)).ofiAddr = e.ofi .caller := by
    rw [Node.ofiAddr_identified, waiting.ofiAddr, ofi, both .callee]
    rfl
  have block := @Node.block_identified n agent true ses (e.ofi .caller)
  cases rpc : ses.rpcSetup with
  | true =>
    rw [rpc, if_pos rfl] at block
    refine ⟨⟨?_, valid, ?_⟩, ⟨?_, ?_, ?_, ?_⟩⟩
    · rw [block]
      exact own
    · rw [block]
      rfl
    · rw [block]
      exact Option.some_ne_none _ |>.symm
    · rw [block]
      exact waiting.iFileDesc
    · rw [block]
      exact waiting.addr
    · rw [block]
      exact waiting.heartbeatMode
  | false =>
    rw [rpc, if_neg Bool.false_ne_true] at block
    refine ⟨⟨?_, valid, ?_⟩, ⟨?_, ?_, ?_, ?_⟩⟩
    · rw [block]
      exact own
    · rw [block]
      rfl
    · rw [block]
      exact waiting.iFileDesc
    · rw [block]
      exact waiting.iRpcFd
    · rw [block]
      exact waiting.addr
    · rw [block]
      exact waiting.heartbeatMode

theorem opening_turn {backlog : List Channel} (opening : Opening thread backlog progress) {next : Progress}
    (opened : progress channel ≠ .unopened) (settled : progress channel ≠ .pending) (later : next ≠ .pending) :
    Opening thread backlog (Function.update progress channel next) where
  dials second dials := by
    have unopened := opening.dials second dials
    by_cases same : second = channel
    · rw [same] at unopened
      exact absurd unopened opened
    · rwa [Function.update_of_ne same]
  pending second := by
    rw [opening.pending second]
    by_cases same : second = channel
    · rw [same, Function.update_self, if_neg settled, if_neg later]
    · rw [Function.update_of_ne same]

/-- The callee hears the session information of a connection. -/
theorem hearHello (follows : e.Follows p progress joint) (both : ∀ side, (e.ofi side).isSome = true)
    (unspoken : progress channel ≠ .spoken) {rest : List Letter} {sent : Option Nat}
    (mail : p.mail .callee channel = letter :: rest) (reads : p.callee.reader (e.accepted channel) = some (id, agent))
    (received : p.callee.Received true id agent letter n sent) (sends : Bool) : ∃ progress joint,
    e.Follows (((p.stock .callee channel rest).set .callee n).post e .callee sends sent) progress joint := by
  obtain ⟨rfl, rfl⟩ : letter = e.hello channel ∧ rest = [] := by
    rcases follows.mailed.hellos channel unspoken with none | one
    · rw [mail] at none
      cases none
    · rw [mail] at one
      exact List.cons.inj one
  obtain ⟨waits, waiting⟩ := follows.called.waiting_of_reader unspoken reads
  have found := (Node.reader_some reads).1
  have taken := follows.mailed.take mail
  have empty : (p.stock .callee channel []).mail .callee channel = [] := by
    rw [Pair.mail_stock, if_pos ⟨rfl, rfl⟩]
  have spoken : e.Mailed (p.stock .callee channel []).mail (Function.update progress channel .spoken)
      (e.Reached p.thread p.caller) := taken.turn unspoken (by simp) (fun _ => empty)
  have opening : Opening p.thread p.backlog (Function.update progress channel .spoken) :=
    opening_turn follows.opening (by rw [waits]; simp) (by rw [waits]; simp) (by simp)
  have calling := follows.calling.mono (fun met => met_update met channel)
  generalize greeting : e.hello channel = letter at received
  cases received with
  | refused =>
    rw [post_none]
    exact ⟨progress, joint,
      { calling := follows.calling
        called := follows.called.unlink id
        mailed := taken
        opening := follows.opening }⟩
  | hb => cases greeting
  | merged ses ofiAddr existing known different there =>
    cases greeting
    obtain ⟨known_there, accepted⟩ := Node.findAgent_some there
    have own : known.block.remoteUuid = (e.self .caller).uuid := by
      simp only [Bool.and_eq_true, decide_eq_true_eq] at accepted
      exact accepted.2
    obtain ⟨here, names, place⟩ := follows.called.joined_of_uuid known_there own
    have other : progress channel.other = .spoken := by
      rcases place with ⟨second, before, _⟩ | met
      · have different : second ≠ channel := by
          rintro rfl
          exact unspoken before
        rwa [← Channel.eq_other_of_ne different]
      · exact met _
    have met : Met (Function.update progress channel .spoken) := by
      intro second
      by_cases same : second = channel
      · rw [same, Function.update_self]
      · rw [Function.update_of_ne same, Channel.eq_other_of_ne same, other]
    refine ⟨Function.update progress channel .spoken, joint, Follows.postCallee ?_ met sends _⟩
    have still : e.Names .callee (p.callee.merged true existing known agent
        { e.self .caller with rpcSetup := decide (channel = .rpc) } (e.ofi .caller)).1 := names_merged names both _ _
    exact
      { calling := calling
        called :=
          { self := Node.self_unlink.trans follows.called.self
            ofi := Node.ofi_unlink.trans follows.called.ofi
            listed := fun entry block there => by
              rw [Pair.set, Node.get?_unlink, Node.get?_put] at there
              split at there
              · cases there
              next notNew =>
                split at there
                next same =>
                  cases there
                  exact .inr ⟨same ▸ here, still, .inr met⟩
                next notKnown =>
                  rcases follows.called.listed entry block there with ⟨second, before, _⟩ | ⟨joint, _⟩
                  · by_cases same : second = channel
                    · rw [same, waits] at before
                      exact absurd (Progress.waiting.inj before).symm notNew
                    · rw [Channel.eq_other_of_ne same, other] at before
                      cases before
                  · exact absurd (Option.some.inj (joint.symm.trans here)) notKnown
            ready := fun block member ready => by
              rcases Node.mem_blocks_put (Node.mem_blocks_unlink member) with rfl | earlier
              · rw [Node.ofiReady_merged] at ready
                exact follows.called.ready known (Node.mem_blocks.mpr (.inl ⟨existing, known_there⟩)) ready
              · exact follows.called.ready block earlier ready }
        mailed := spoken
        opening := opening }
  | identified ses ofiAddr absent =>
    cases greeting
    obtain ⟨names, apart⟩ : e.Names .callee (p.callee.identified true agent
        { e.self .caller with rpcSetup := decide (channel = .rpc) } (e.ofi .caller)) ∧ e.Apart channel _ :=
      joined_identified waiting both follows.called.ofi rfl
    rw [post_none]
    refine ⟨Function.update progress channel .spoken, some id, ?_⟩
    exact
      { calling := calling
        called :=
          { self := follows.called.self
            ofi := follows.called.ofi
            listed := fun entry block there => by
              rw [Pair.set, Node.get?_put] at there
              split at there
              next same =>
                cases there
                exact .inr ⟨same ▸ rfl, names, .inl ⟨channel, Function.update_self _ _ _, apart⟩⟩
              next notNew =>
                rcases follows.called.listed entry block there with ⟨second, before, waiting⟩ | ⟨_, old, _⟩
                · refine .inl ⟨second, ?_, waiting⟩
                  rw [Function.update_of_ne]
                  · exact before
                  · rintro rfl
                    exact notNew (Progress.waiting.inj (before.symm.trans waits))
                · have refused := Node.findAgent_none absent there
                  simp [old.direction, old.remoteUuid, Side.direction, Side.other] at refused
            ready := fun block member ready => by
              rcases Node.mem_blocks_put member with rfl | earlier
              · rw [Node.ofiReady_identified, waiting.ofiReady] at ready
                cases ready
              · exact follows.called.ready block earlier ready }
        mailed := spoken
        opening := opening }

theorem hear (follows : e.Follows p progress joint) (both : ∀ side, (e.ofi side).isSome = true) {side : Side}
    {sends : Bool} (run : p.hear e side channel true sends = .ok p') : ∃ progress joint, e.Follows p' progress joint := by
  rcases Pair.hear_ok run with rfl | ⟨letter, rest, fd, id, agent, n, sent, mail, line, reads, received, rfl⟩
  · exact ⟨progress, joint, follows⟩
  cases side with
  | caller => exact ⟨progress, joint, follows.hearCaller both mail reads received sends⟩
  | callee =>
    cases line
    by_cases spoken : progress channel = .spoken
    · exact ⟨progress, joint, follows.hearBeat both spoken mail reads received sends⟩
    · exact follows.hearHello both spoken mail reads received sends

theorem beatCaller (follows : e.Follows p progress joint) (id : Nat) (sends : Bool) :
    e.Follows ((p.set .caller (p.caller.sendHbToAgents id sends).1).post e .caller sends
      (p.caller.sendHbToAgents id sends).2) progress joint := by
  rcases p.caller.sendHbToAgents_cases id sends with same | ⟨agent, found, remote, _, same⟩
  · rw [same, post_none]
    exact ⟨follows.calling, follows.called, follows.mailed, follows.opening⟩
  obtain ⟨names, met⟩ : e.Names .caller agent ∧ Met progress := by
    rcases follows.calling.listed id agent found with unheard | named
    · rw [unheard.heartbeatMode] at remote
      cases remote
    · exact named
  have reached := follows.calling.reaches found names
  rcases same with same | same
  · rw [same]
    refine Follows.postCaller ?_ met (reached.unlink id) sends _
    exact
      { calling := follows.calling.unlink id
        called := follows.called.mono fun _ => reached.unlink id
        mailed := follows.mailed.mono fun _ => reached.unlink id
        opening := follows.opening }
  · have noted : e.Names .caller { agent with block := { agent.block with lastHeartbeatTx := p.caller.clock } } :=
      ⟨names.remoteUuid, names.ofiAddr, names.direction⟩
    rw [same]
    refine Follows.postCaller ?_ met (reached.put noted) sends _
    exact
      { calling := follows.calling.put found (.inr ⟨noted, met⟩)
        called := follows.called.mono fun _ => reached.put noted
        mailed := follows.mailed.mono fun _ => reached.put noted
        opening := follows.opening }

theorem beatCallee (follows : e.Follows p progress joint) (id : Nat) (sends : Bool) :
    e.Follows ((p.set .callee (p.callee.sendHbToAgents id sends).1).post e .callee sends
      (p.callee.sendHbToAgents id sends).2) progress joint := by
  rcases p.callee.sendHbToAgents_cases id sends with same | ⟨agent, found, remote, _, same⟩
  · rw [same, post_none]
    exact ⟨follows.calling, follows.called, follows.mailed, follows.opening⟩
  have quiet : ∀ channel, ¬e.Apart channel agent := by
    intro channel apart
    rw [apart.heartbeatMode] at remote
    cases remote
  obtain ⟨here, names, met⟩ : joint = some id ∧ e.Names .callee agent ∧ Met progress := by
    rcases follows.called.listed id agent found with ⟨channel, _, waiting⟩ | ⟨here, names, ⟨channel, _, apart⟩ | met⟩
    · exact absurd waiting.toApart (quiet channel)
    · exact absurd apart (quiet channel)
    · exact ⟨here, names, met⟩
  rcases same with same | same
  · rw [same]
    refine Follows.postCallee ?_ met sends _
    exact
      { calling := follows.calling
        called := follows.called.unlink id
        mailed := follows.mailed
        opening := follows.opening }
  · rw [same]
    refine Follows.postCallee ?_ met sends _
    exact
      { calling := follows.calling
        called := follows.called.put here ⟨⟨names.remoteUuid, names.ofiAddr, names.direction⟩, .inr met⟩
          (follows.called.ready agent (Node.mem_blocks.mpr (.inl ⟨id, found⟩)))
        mailed := follows.mailed
        opening := follows.opening }

theorem accept (follows : e.Follows p progress joint) (member : channel ∈ p.backlog) : ∃ progress joint, e.Follows
    { p with
      callee := p.callee.accept (e.accepted channel) (e.addr channel)
      backlog := p.backlog.erase channel } progress joint := by
  have counted := follows.opening.pending channel
  have pending : progress channel = .pending := by
    by_contra settled
    rw [if_neg settled] at counted
    exact absurd member (List.count_eq_zero.mp counted)
  rw [if_pos pending] at counted
  have unmet : ¬Met progress := by
    intro met
    rw [met channel] at pending
    cases pending
  have elsewhere : ∀ second agent, progress second ≠ .pending → e.Apart second agent →
      agent.block.addr ≠ e.addr channel := by
    intro second agent settled apart
    have different : channel ≠ second := by
      rintro rfl
      exact settled pending
    rw [Channel.eq_other_of_ne different]
    exact apart.addr
  obtain ⟨_, linked⟩ : (∀ id agent, p.callee.table.get? id = some agent → agent.block.isAlive = true →
      agent.block.addr ≠ e.addr channel) ∧ p.callee.accept (e.accepted channel) (e.addr channel) =
        p.callee.link { block := (Block.fresh (e.addr channel) p.callee.clock).plugControl (some (e.accepted channel)) } := by
    refine (p.callee.accept_cases (e.accepted channel) (e.addr channel)).resolve_right ?_
    rintro ⟨id, agent, found, same, _⟩
    rcases follows.called.listed id agent found with ⟨second, before, waiting⟩ | ⟨_, _, ⟨second, before, apart⟩ | met⟩
    · exact elsewhere second agent (by rw [before]; simp) waiting.toApart same
    · exact elsewhere second agent (by rw [before]; simp) apart same
    · exact unmet met
  rw [linked]
  have waiting : e.Waiting channel
      { block := (Block.fresh (e.addr channel) p.callee.clock).plugControl (some (e.accepted channel)) } :=
    { iFileDesc := fun equal => e.lines channel (Option.some.inj equal)
      iRpcFd := fun equal => (by cases equal)
      addr := e.addrs channel
      heartbeatMode := rfl
      remoteUuid := (by decide : (Uuid.filled 0).isNull = true)
      ofiAddr := rfl
      ofiReady := rfl }
  refine ⟨Function.update progress channel (.waiting p.callee.nextBlock), joint, ?_⟩
  exact
    { calling := follows.calling.mono fun met => absurd met unmet
      called := (follows.called.turn (by rw [pending]; simp) (by rw [pending]; simp)).link
        (Function.update_self _ _ _) waiting
      mailed := follows.mailed.turn (by rw [pending]; simp) (by simp) (by simp)
      opening :=
        { dials := fun second dials => by
            have unopened := follows.opening.dials second dials
            rwa [Function.update_of_ne]
            rintro rfl
            rw [pending] at unopened
            cases unopened
          pending := fun second => by
            by_cases same : second = channel
            · rw [same, Function.update_self, List.count_erase_self, counted]
              simp
            · rw [Function.update_of_ne same, List.count_erase_of_ne same, follows.opening.pending second] } }

/-- The thread opens a connection. -/
theorem opened (follows : e.Follows p progress joint) (early : p.thread.isPast = false)
    (unopened : progress channel = .unopened) {session : DefwRc} (hello : letter = e.hello channel)
    (held : ∀ agent ∈ thread.block, agent.Unheard)
    (others : ∀ second, thread.dials second = true → second ≠ channel ∧ p.thread.dials second = true) :
    ∃ progress joint, e.Follows (p.opened channel session letter thread) progress joint := by
  have unmet : ¬Met progress := by
    intro met
    rw [met channel] at unopened
    cases unopened
  have unreached : ¬e.Reached p.thread p.caller := by
    rintro ⟨past, _⟩
    rw [early] at past
    cases past
  have calling : e.Calling p.caller p.thread (Met (Function.update progress channel .pending)) :=
    follows.calling.mono fun met => absurd met unmet
  have called : e.Called p.callee (Function.update progress channel .pending) joint (e.Reached p.thread p.caller) :=
    follows.called.turn (by rw [unopened]; simp) (by rw [unopened]; simp)
  have mailed : e.Mailed p.mail (Function.update progress channel .pending) (e.Reached p.thread p.caller) :=
    follows.mailed.turn (by rw [unopened]; simp) (by simp) (by simp)
  have pending : ∀ second, (p.backlog ++ [channel]).count second =
      if Function.update progress channel .pending second = .pending then 1 else 0 := by
    intro second
    rw [List.count_append, follows.opening.pending second]
    by_cases same : second = channel
    · rw [same, Function.update_self, unopened]
      simp
    · rw [Function.update_of_ne same, List.count_eq_zero_of_not_mem (by simpa using same), Nat.add_zero]
  refine ⟨Function.update progress channel .pending, joint, ?_⟩
  rcases Pair.opened_cases p channel session letter thread with same | same
  · rw [same, hello]
    exact
      { calling := calling.rethread held fun _ => calling.unlisted early
        called := called.mono fun reached => absurd reached unreached
        mailed := (mailed.mono fun reached => absurd reached unreached).greet (Function.update_self _ _ _)
          (follows.mailed.unopened channel unopened)
        opening :=
          { dials := fun second dials => by
              rw [Function.update_of_ne (others second dials).1]
              exact follows.opening.dials second (others second dials).2
            pending := pending } }
  · rw [same]
    exact
      { calling := calling.rethread (fun agent member => (by cases member)) fun _ => calling.unlisted early
        called := called.mono fun reached => absurd reached unreached
        mailed := mailed.mono fun reached => absurd reached unreached
        opening := ⟨fun second dials => (by cases dials), pending⟩ }

/-- The thread gives up before it opens a connection. -/
theorem giveUp (follows : e.Follows p progress joint) (early : p.thread.isPast = false) :
    e.Follows { p with thread := .ended } progress joint := by
  have unreached : ¬e.Reached p.thread p.caller := by
    rintro ⟨past, _⟩
    rw [early] at past
    cases past
  exact
    { calling := follows.calling.rethread (fun agent member => (by cases member)) fun _ => follows.calling.unlisted early
      called := follows.called.mono fun reached => absurd reached unreached
      mailed := follows.mailed.mono fun reached => absurd reached unreached
      opening := ⟨fun second dials => (by cases dials), follows.opening.pending⟩ }

theorem dial (follows : e.Follows p progress joint) : ∃ progress joint, e.Follows (p.dial e) progress joint := by
  have greeting : ∀ channel, p.caller.sendSessionInfo (decide (channel = .rpc)) = e.hello channel := by
    intro channel
    rw [Node.sendSessionInfo, hello, follows.calling.self, follows.calling.ofi]
  unfold Pair.dial
  split
  next idle =>
    have early : p.thread.isPast = false := by rw [idle]; rfl
    unfold Pair.dialControl
    split
    · refine follows.opened early (follows.opening.dials .control (by rw [idle]; rfl)) (greeting .control) ?_ ?_
      · intro agent member
        cases member
        exact ⟨(by decide : (Uuid.filled 0).isNull = true), rfl, rfl, rfl, rfl⟩
      · intro second dials
        rw [idle]
        have rpc : second = .rpc := of_decide_eq_true dials
        exact ⟨by rw [rpc]; simp, rfl⟩
    · exact ⟨progress, joint, follows.giveUp early⟩
  next agent held =>
    have early : p.thread.isPast = false := by rw [held]; rfl
    have unheard := follows.calling.held agent (by rw [held]; rfl)
    unfold Pair.dialRpc
    split
    · exact ⟨progress, joint, follows.giveUp early⟩
    · refine follows.opened early (follows.opening.dials .rpc (by rw [held]; rfl)) (greeting .rpc) ?_ ?_
      · intro agent member
        cases member
        exact ⟨unheard.remoteUuid, unheard.direction, unheard.heartbeatMode, unheard.ofiAddr, unheard.ofiReady⟩
      · intro second dials
        cases dials
  next agent held =>
    have early : p.thread.isPast = false := by rw [held]; rfl
    have unheard := follows.calling.held agent (by rw [held]; rfl)
    have empty := follows.calling.unlisted early
    have unreached : ¬e.Reached p.thread p.caller := by
      rintro ⟨past, _⟩
      rw [early] at past
      cases past
    have only : ∀ id block, (p.caller.link agent).table.get? id = some block → id = p.caller.nextBlock ∧ block = agent := by
      intro id block found
      rw [Node.get?_link] at found
      split at found
      next same => exact ⟨same, (Option.some.inj found).symm⟩
      next =>
        rw [empty id] at found
        cases found
    refine ⟨progress, joint, ?_⟩
    exact
      { calling :=
          { self := follows.calling.self
            ofi := follows.calling.ofi
            listed := fun id block found => .inl ((only id block found).2 ▸ unheard)
            single := fun id other first second found there => (only id first found).1.trans (only other second there).1.symm
            held := fun agent member => (by cases member)
            unlisted := fun past => (by cases past)
            gone := follows.calling.gone }
        called := follows.called.mono fun reached => absurd reached unreached
        mailed := follows.mailed.mono fun reached => absurd reached unreached
        opening := ⟨fun second dials => (by cases dials), follows.opening.pending⟩ }
  next id held =>
    have past : p.thread.isPast = true := by rw [held]; rfl
    have later : ∀ n : Node, e.Reached p.thread n → e.Reached .ended n := fun n reached => ⟨rfl, reached.2⟩
    have ended : ∀ n : Node, e.Calling n p.thread (Met progress) → e.Calling n .ended (Met progress) := fun n calling =>
      calling.rethread (fun agent member => (by cases member)) fun early => (by cases early)
    rcases p.caller.announce_cases id with same | ⟨agent, found, same⟩
    · rw [same]
      exact ⟨progress, joint,
        { calling := ended _ follows.calling
          called := follows.called.mono (later _)
          mailed := follows.mailed.mono (later _)
          opening := ⟨fun second dials => (by cases dials), follows.opening.pending⟩ }⟩
    · obtain ⟨_, _, _, _, report⟩ := Block.reportPeerReady_fst p.caller.self.uuid p.caller.clock id agent.block
        "outbound-rpc-ready"
      have named : e.Names .caller agent →
          e.Names .caller (p.caller.reportPeerReady id agent "outbound-rpc-ready") := by
        intro names
        refine ⟨?_, names.ofiAddr, ?_⟩
        · rw [Node.reportPeerReady, report]
          exact names.remoteUuid
        · rw [Node.reportPeerReady, report]
          exact names.direction
      have silent : agent.Unheard → p.caller.reportPeerReady id agent "outbound-rpc-ready" = agent := by
        intro unheard
        rw [Node.reportPeerReady, Block.reportPeerReady_of_silent (.inl (by simp [Block.readyToReport, unheard.remoteUuid]))]
      have calling : e.Calling (p.caller.put id (p.caller.reportPeerReady id agent "outbound-rpc-ready")) p.thread
          (Met progress) := by
        refine follows.calling.put found ?_
        rcases follows.calling.listed id agent found with unheard | ⟨names, met⟩
        · rw [silent unheard]
          exact .inl unheard
        · exact .inr ⟨named names, met⟩
      have reached : e.Reached p.thread p.caller →
          e.Reached .ended (p.caller.put id (p.caller.reportPeerReady id agent "outbound-rpc-ready")) := fun reached =>
        later _ (reached.put (named (reached.2 id agent found)))
      rw [same]
      exact ⟨progress, joint,
        { calling := ended _ calling
          called := follows.called.mono reached
          mailed := follows.mailed.mono reached
          opening := ⟨fun second dials => (by cases dials), follows.opening.pending⟩ }⟩
  · exact ⟨progress, joint, follows⟩

theorem drop (follows : e.Follows p progress joint) (side : Side) (id : Nat) :
    e.Follows (p.set side ((p.node side).unlink id)) progress joint := by
  cases side with
  | caller =>
    exact
      { calling := follows.calling.unlink id
        called := follows.called.mono fun reached => reached.unlink id
        mailed := follows.mailed.mono fun reached => reached.unlink id
        opening := follows.opening }
  | callee =>
    exact
      { calling := follows.calling
        called := follows.called.unlink id
        mailed := follows.mailed
        opening := follows.opening }

theorem step (follows : e.Follows p progress joint) (both : ∀ side, (e.ofi side).isSome = true) {deed : Deed}
    (inserts : deed.Inserts) (run : p.step e deed = .ok p') : ∃ progress joint, e.Follows p' progress joint := by
  cases deed with
  | dial =>
    cases run
    exact follows.dial
  | accept channel =>
    simp only [Pair.step] at run
    split at run
    next member =>
      cases run
      exact follows.accept member
    next =>
      cases run
      exact ⟨progress, joint, follows⟩
  | hear side channel inserted sends =>
    obtain rfl : inserted = true := inserts
    exact follows.hear both run
  | beat side id sends =>
    cases run
    cases side with
    | caller => exact ⟨progress, joint, follows.beatCaller id sends⟩
    | callee => exact ⟨progress, joint, follows.beatCallee id sends⟩
  | drop side id =>
    cases run
    exact ⟨progress, joint, follows.drop side id⟩
  | tick side seconds =>
    cases run
    cases side with
    | caller =>
      exact ⟨progress, joint,
        { calling := ⟨follows.calling.self, follows.calling.ofi, follows.calling.listed, follows.calling.single,
            follows.calling.held, follows.calling.unlisted, follows.calling.gone⟩
          called := follows.called
          mailed := follows.mailed
          opening := follows.opening }⟩
    | callee =>
      exact ⟨progress, joint,
        { calling := follows.calling
          called := ⟨follows.called.self, follows.called.ofi, follows.called.listed, follows.called.ready⟩
          mailed := follows.mailed
          opening := follows.opening }⟩

end Follows

/-- Once the block of one process is ready for the fabric, the block of the other has its uuid and its address. -/
theorem Follows.names (follows : e.Follows p progress joint) {side : Side} (member : agent ∈ (p.node side).blocks)
    (ready : agent.ofiReady = true) {block : OfiBlock} (found : (p.node side.other).table.get? id = some block) :
    e.Names side.other block := by
  cases side with
  | caller =>
    have met : Met progress := by
      rcases Node.mem_blocks.mp member with ⟨other, listed⟩ | gone
      · rcases follows.calling.listed other agent listed with unheard | named
        · rw [unheard.ofiReady] at ready
          cases ready
        · exact named.2
      · exact follows.calling.gone agent gone ready
    rcases follows.called.listed id block found with ⟨channel, waits, _⟩ | ⟨_, names, _⟩
    · rw [met channel] at waits
      cases waits
    · exact names
  | callee => exact (follows.called.ready agent member ready).2 id block found

theorem Names.dispatches {side : Side} (names : e.Names side agent) (found : n.table.get? id = some agent) :
    (n.findAgentByUuidGlobal (e.self side.other).uuid).isSome = true := by
  rw [← names.remoteUuid]
  refine Node.isSome_findAgentByUuidGlobal found ?_
  rw [names.direction]
  cases side with
  | caller => exact .inr rfl
  | callee => exact .inl rfl

end Encounter

/-- In every run of the two processes, a process that may use the fabric for its peer is known there: whatever block
the peer has for it in its table has its uuid and its address, so that a fabric message finds its sender. A process
without OFI, on either side, keeps both off the fabric. -/
theorem ready_peer_names_us (e : Encounter) {p : Pair} {deeds : List Deed}
    (run : (Pair.machine e).run (Pair.start e) deeds = .ok p) :
    ((∀ side, (e.ofi side).isSome = true) → (∀ deed ∈ deeds, deed.Inserts) →
      ∀ side, ∀ agent ∈ (p.node side).blocks, agent.ofiReady = true →
        ∀ id block, (p.node side.other).table.get? id = some block →
          block.block.remoteUuid = (e.self side).uuid ∧ block.ofiAddr = e.ofi side ∧
            ((p.node side.other).findAgentByUuidGlobal (e.self side).uuid).isSome = true) ∧
      ((∃ side, e.ofi side = none) → ∀ side, ∀ agent ∈ (p.node side).blocks, agent.ofiReady = false) := by
  constructor
  · intro both inserts side agent member ready id block found
    obtain ⟨progress, joint, follows⟩ : ∃ progress joint, e.Follows p progress joint := by
      refine Faulting.run_invariant (fun p => ∃ progress joint, e.Follows p progress joint)
        (fun p deed p' holds allowed step => ?_) ⟨_, _, .start e⟩ (Faulting.admits_of_forall inserts) run
      obtain ⟨progress, joint, follows⟩ := holds
      exact follows.step both allowed step
    have names := follows.names member ready found
    have finds := names.dispatches found
    cases side with
    | caller => exact ⟨names.remoteUuid, names.ofiAddr, finds⟩
    | callee => exact ⟨names.remoteUuid, names.ofiAddr, finds⟩
  · intro off side agent member
    have dark : Pair.Dark e p :=
      Faulting.run_keeps (Pair.Dark e) (fun p deed p' dark step => dark.step off step) (.start e) run
    exact (dark.blocks side agent member).ofiReady

/-- Two processes with OFI addresses of their own, of which the first connects to the second. -/
def Encounter.plain (caller callee : Option Nat) : Encounter where
  self side := Session.plain (Uuid.filled (if side = .caller then 1 else 2)) false
  ofi side := if side = .caller then caller else callee
  dial := Dial.plain (Uuid.filled 9) 5 6
  req := ⟨0, Uuid.filled 9⟩
  accepted channel := if channel = .control then 7 else 8
  addr channel := ⟨1, if channel = .control then 40000 else 40001⟩
  known side := by cases side <;> decide
  lines channel := by cases channel <;> decide
  addrs channel := by cases channel <;> decide

/-- The RPC half is heard first, the callee answers, the caller answers that, and both are ready. -/
def greetingDeeds : List Deed :=
  [.dial, .dial, .accept .control, .accept .rpc, .hear .callee .rpc true true, .dial, .dial,
    .hear .callee .control true true, .hear .caller .control true true, .hear .callee .control true true]

theorem ready_peer_names_us_greeting :
    ∃ p agent block, (Pair.machine (.plain (some 11) (some 22))).run (Pair.start (.plain (some 11) (some 22))) greetingDeeds =
        .ok p ∧ agent ∈ p.caller.blocks ∧ agent.ofiReady = true ∧ p.callee.table.get? 1 = some block ∧
      block.ofiReady = true ∧ block.block.remoteUuid = Uuid.filled 1 ∧ block.ofiAddr = some 11 := by
  obtain ⟨p, run, shown⟩ := Except.exists_ok_of_map
    (by decide +kernel : ((Pair.machine (.plain (some 11) (some 22))).run (Pair.start (.plain (some 11) (some 22)))
      greetingDeeds).toOption.map (fun p => (p.caller.blocks.map OfiBlock.ofiReady,
        (p.callee.table.get? 1).map OfiBlock.ofiReady)) = some ([true], some true))
  obtain ⟨ready, there⟩ := Prod.mk.inj shown
  obtain ⟨agent, single, own⟩ := List.map_eq_singleton_iff.mp ready
  obtain ⟨block, found, fabric⟩ := Option.map_eq_some_iff.mp there
  have member : agent ∈ p.caller.blocks := by
    rw [single]
    exact List.mem_singleton_self agent
  have known := (ready_peer_names_us (.plain (some 11) (some 22)) run).1 (by intro side; cases side <;> rfl)
    (by decide) .caller agent member own 1 block found
  exact ⟨p, agent, block, run, member, own, found, fabric, known.1, known.2.1⟩

end DEFw.Agents
