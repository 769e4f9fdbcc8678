import DEFw.Agents.Holders
import DEFw.Agents.Lifecycle

namespace DEFw.Agents
open Transport (Uuid)

/-- What is said about a call of `defw_connect_to_agent`: the block it has, and the
status its callback is given. -/
inductive Entry
  | dialled (block : Nat)
  | answered (status : DefwRc)
  deriving DecidableEq

def Notice.entry (number : Nat) : Notice → Option Entry
  | connectStatus req status => if req.number = number then some (.answered status) else none
  | dialling req block => if req.number = number then some (.dialled block) else none
  | _ => none

/-- What was said about a call. -/
def World.record (w : World) (number : Nat) : List Entry := w.notices.filterMap (Notice.entry number)

theorem World.record_append {w w' : World} {said : List Notice} (notices : w'.notices = w.notices ++ said) (number : Nat) :
    w'.record number = w.record number ++ said.filterMap (Notice.entry number) := by
  rw [record, notices, List.filterMap_append, record]

theorem entries_of_quiet {said : List Notice} (quiet : ∀ notice ∈ said, notice.isAnswer = false) (number : Nat) :
    said.filterMap (Notice.entry number) = [] := by
  rw [List.filterMap_eq_nil_iff]
  intro notice member
  have silent := quiet notice member
  cases notice <;> first | rfl | cases silent

namespace World

variable {w w' : World} {id : Nat}

theorem quiet_reportRemoval (w : World) (id : Nat) (agent : Block) : ∀ notice ∈ w.reportRemoval id agent, notice.isAnswer = false := by
  intro notice member
  unfold reportRemoval Block.reportPeerRemoved at member
  split at member
  · cases member
  · rw [List.mem_singleton.mp member]
    rfl

theorem quiet_reportLoss (w : World) (id : Nat) (agent : Block) : ∀ notice ∈ (w.reportLoss id agent).2, notice.isAnswer = false := by
  intro notice member
  unfold reportLoss Block.reportPeerLost at member
  split at member
  · cases member
  · rw [List.mem_singleton.mp member]
    rfl

theorem quiet_lossIf (w : World) (dead : Bool) (id : Nat) (agent : Block) :
    ∀ notice ∈ (w.lossIf dead id agent).2, notice.isAnswer = false := by
  unfold lossIf
  split
  · exact w.quiet_reportLoss id agent
  · exact List.forall_mem_nil _

/-- A release tells about the peer and the block, not about a call. -/
theorem Released.quiet {agent : Block} {dead : Bool} (released : Released w id agent dead w') :
    ∃ said, w'.notices = w.notices ++ said ∧ ∀ notice ∈ said, notice.isAnswer = false := by
  have ends {said : List Notice} (quiet : ∀ notice ∈ said, notice.isAnswer = false) :
      ∀ notice ∈ said ++ [Notice.freed id], notice.isAnswer = false :=
    List.forall_mem_append.mpr ⟨quiet, List.forall_mem_singleton.mpr rfl⟩
  cases released with
  | kept => exact ⟨[], (List.append_nil _).symm, List.forall_mem_nil _⟩
  | removed => exact ⟨_, List.append_assoc .., ends (w.quiet_reportRemoval id _)⟩
  | dropped => exact ⟨[.freed id], rfl, List.forall_mem_singleton.mpr rfl⟩
  | retired =>
    exact ⟨_, List.append_assoc .., ends (List.forall_mem_append.mpr ⟨w.quiet_lossIf dead id _, w.quiet_reportRemoval id _⟩)⟩
  | buried => exact ⟨_, rfl, w.quiet_reportLoss id _⟩
  | buriedFreed =>
    exact ⟨_, List.append_assoc .., ends (List.forall_mem_append.mpr ⟨w.quiet_reportLoss id _, w.quiet_reportRemoval id _⟩)⟩

theorem connectReq_remains (w : World) (id : Nat) (agent : Block) : (w.remains id agent).connectReq = agent.connectReq := by
  obtain ⟨_, _, _, _, same⟩ := w.remains_eq id agent
  rw [same]
  rfl

end World

namespace Block

/-- What becomes of a block whose peer may be ready by now, and what is said. -/
inductive Greeting (self : Uuid) (now id : Nat) (agent : Block) : Block × List Notice → Prop
  | silent (base : Block) (same : base.connectReq = agent.connectReq) : Greeting self now id agent (base, [])
  | reports (base : Block) (same : base.connectReq = agent.connectReq) (reason : String) :
      Greeting self now id agent (base.reportPeerReady self now id reason)

theorem greeting_greeted {agent base : Block} (same : base.connectReq = agent.connectReq) (self : Uuid) (now id : Nat)
    (reason : String) : Greeting self now id agent (base.greeted self now id reason) := by
  unfold greeted
  split
  · exact .reports { base with lastControlActivity := now } same reason
  · exact .silent base same

end Block

namespace World

theorem greeting_heardBy (w : World) (id : Nat) (agent : Block) (hb : Session) :
    agent.Greeting w.uuid w.clock id (w.heardBy id agent hb) := by
  have same : (agent.heard hb w.clock).connectReq = agent.connectReq := rfl
  unfold heardBy
  split
  · exact .reports _ same "remote-identity-ready"
  · exact .silent _ same

theorem greeting_mergedWith (w : World) (existing : Nat) (known agent : Block) (ses : Session) :
    known.Greeting w.uuid w.clock existing (w.mergedWith existing known agent ses) := by
  have rpc : (known.attachRpc agent).connectReq = known.connectReq := rfl
  have control : (known.attachControl agent w.clock).connectReq = known.connectReq := rfl
  unfold mergedWith
  split
  · exact Block.greeting_greeted rpc ..
  · exact Block.greeting_greeted control ..

end World

namespace Process

/-- A request of the block was not answered yet. -/
def Pending (s : Process) (id : Nat) : Prop := ∃ agent, s.world.blocks id = some agent ∧ agent.connectReq ≠ none

/-- How a call stands: it failed without a block, it failed and its block is freed, it
was not answered and its block has its request, or it succeeded. -/
inductive Call (s : Process) (number : Nat) : Prop
  | refused (rc : DefwRc) (failure : rc ≠ .ok) (record : s.world.record number = [.answered rc])
  | ended (id : Nat) (rc : DefwRc) (failure : rc ≠ .ok) (record : s.world.record number = [.dialled id, .answered rc])
      (history : s.world.history id = [.freed])
  | waiting (id : Nat) (agent : Block) (req : ConnectReq) (record : s.world.record number = [.dialled id])
      (found : s.world.blocks id = some agent) (own : agent.connectReq = some req) (same : req.number = number)
  | ready (id : Nat) (record : s.world.record number = [.dialled id, .answered .ok])
      (history : .event .ready ∈ s.world.history id)

/-- Every call is answered or its block still has its request, and nothing else is
said about it. -/
structure Ledger (s : Process) : Prop where
  accounts : s.Accounts s.Pending
  chronicle : s.world.Chronicle
  future : ∀ number, s.requests ≤ number → s.world.record number = []
  calls : ∀ number < s.requests, s.Call number
  pending : ∀ id agent req, s.world.blocks id = some agent → agent.connectReq = some req →
    s.world.record req.number = [.dialled id] ∧ (id ∈ s.world.table ∨ id ∈ s.dialled)

/-- A step that answers no call and ends no request. -/
structure Quiet (s s' : Process) : Prop where
  requests : s'.requests = s.requests
  said : ∃ said, s'.world.notices = s.world.notices ++ said ∧ ∀ notice ∈ said, notice.isAnswer = false
  keeps : ∀ id agent, s.world.blocks id = some agent → agent.connectReq ≠ none →
    (∃ after, s'.world.blocks id = some after ∧ after.connectReq = agent.connectReq) ∧
      (id ∈ s.world.table ∨ id ∈ s.dialled → id ∈ s'.world.table ∨ id ∈ s'.dialled)
  back : ∀ id after, s'.world.blocks id = some after → after.connectReq ≠ none →
    ∃ agent, s.world.blocks id = some agent ∧ agent.connectReq = after.connectReq

variable {s s' : Process}

/-- A life that begins with the end of the block has nothing more. -/
theorem history_of_freed (chronicle : s'.world.Chronicle) {id : Nat}
    (first : (s'.world.history id).head? = some .freed) : s'.world.history id = [.freed] := by
  have alone : ∀ life ∈ lifecycles, life.head? = some .freed → life = [.freed] := by decide
  have live : s'.world.history id ∈ lifecycles := by
    cases found : s'.world.blocks id with
    | none =>
      rcases chronicle.gone id found with ⟨_, ended⟩ | ⟨_, silent⟩
      · exact List.mem_append_right _ ended
      · rw [silent]
        decide
    | some agent =>
      obtain ⟨_, reported, past⟩ := chronicle.live id agent found
      rw [past]
      exact List.mem_append_left _ reported.past_mem
  exact alone _ live first

/-- A call that was answered stays as it is while nothing is said about it. -/
theorem Call.stays {number : Nat} (call : s.Call number) (chronicle : s'.world.Chronicle) {said : List Notice}
    (notices : s'.world.notices = s.world.notices ++ said) (silent : said.filterMap (Notice.entry number) = [])
    (waiting : ∀ id agent req, s.world.record number = [.dialled id] → s.world.blocks id = some agent →
      agent.connectReq = some req → req.number = number →
      ∃ after, s'.world.blocks id = some after ∧ after.connectReq = some req) : s'.Call number := by
  have same : s'.world.record number = s.world.record number := by
    rw [World.record_append notices, silent, List.append_nil]
  have history (id : Nat) : s'.world.history id = s.world.history id ++ milestones id said :=
    World.Chronicle.history_of_append notices
  cases call with
  | refused rc failure record => exact .refused rc failure (same.trans record)
  | ended id rc failure record freed =>
    refine .ended id rc failure (same.trans record) (history_of_freed chronicle ?_)
    rw [history, freed]
    rfl
  | waiting id agent req record found own number =>
    obtain ⟨after, there, still⟩ := waiting id agent req record found own number
    exact .waiting id after req (same.trans record) there still number
  | ready id record reported =>
    refine .ready id (same.trans record) ?_
    rw [history]
    exact List.mem_append_left _ reported

namespace Quiet

/-- A block changes that keeps its request. -/
theorem edit {id : Nat} {agent : Block} (found : s.world.blocks id = some agent) (after : Block)
    (same : after.connectReq = agent.connectReq) (blocks : s'.world.blocks = (s.world.put id after).blocks)
    {said : List Notice} (notices : s'.world.notices = s.world.notices ++ said)
    (quiet : ∀ notice ∈ said, notice.isAnswer = false) (requests : s'.requests = s.requests)
    (listed : ∀ other, other ∈ s.world.table ∨ other ∈ s.dialled → other ∈ s'.world.table ∨ other ∈ s'.dialled) :
    Quiet s s' where
  requests := requests
  said := ⟨said, notices, quiet⟩
  keeps := by
    intro other block there pending
    refine ⟨?_, listed other⟩
    by_cases equal : other = id
    · subst equal
      rw [found] at there
      cases there
      exact ⟨after, by rw [blocks, World.blocks_put_self], same⟩
    · exact ⟨block, by rw [blocks, World.blocks_put_of_ne equal, there], rfl⟩
  back := by
    intro other block there pending
    by_cases equal : other = id
    · subst equal
      rw [blocks, World.blocks_put_self] at there
      cases there
      exact ⟨agent, found, same.symm⟩
    · rw [blocks, World.blocks_put_of_ne equal] at there
      exact ⟨block, there, rfl⟩

/-- Nothing happens to the blocks. -/
theorem still (blocks : s'.world.blocks = s.world.blocks) {said : List Notice}
    (notices : s'.world.notices = s.world.notices ++ said) (quiet : ∀ notice ∈ said, notice.isAnswer = false)
    (requests : s'.requests = s.requests) (table : s'.world.table = s.world.table) (dialled : s'.dialled = s.dialled) :
    Quiet s s' where
  requests := requests
  said := ⟨said, notices, quiet⟩
  keeps := by
    intro id agent found pending
    rw [blocks, table, dialled]
    exact ⟨⟨agent, found, rfl⟩, fun listed => listed⟩
  back := by
    intro id after found pending
    rw [blocks] at found
    exact ⟨after, found, rfl⟩

/-- A block changes that keeps its request, and nothing is said. -/
theorem touch {id : Nat} {agent : Block} (found : s.world.blocks id = some agent) (after : Block)
    (same : after.connectReq = agent.connectReq) (blocks : s'.world.blocks = (s.world.put id after).blocks)
    (notices : s'.world.notices = s.world.notices) (requests : s'.requests = s.requests)
    (table : s'.world.table = s.world.table) (dialled : s'.dialled = s.dialled) : Quiet s s' := by
  have nothing : s'.world.notices = s.world.notices ++ [] := by rw [notices, List.append_nil]
  refine edit found after same blocks nothing (List.forall_mem_nil _) requests fun other listed => ?_
  rwa [table, dialled]

/-- A block gets allocated that has no request. -/
theorem fresh {block : Block} (unborn : s.world.blocks s.world.nextBlock = none) (none : block.connectReq = none)
    (blocks : s'.world.blocks = (s.world.put s.world.nextBlock block).blocks) (notices : s'.world.notices = s.world.notices)
    (requests : s'.requests = s.requests) (table : s'.world.table = s.world.table ++ [s.world.nextBlock])
    (dialled : s'.dialled = s.dialled) : Quiet s s' where
  requests := requests
  said := ⟨[], by rw [notices, List.append_nil], List.forall_mem_nil _⟩
  keeps := by
    intro id agent found pending
    have different : id ≠ s.world.nextBlock := by
      rintro rfl
      rw [unborn] at found
      cases found
    rw [blocks, World.blocks_put_of_ne different, table, dialled]
    exact ⟨⟨agent, found, rfl⟩, fun listed => listed.imp_left (List.mem_append_left _)⟩
  back := by
    intro id after there pending
    by_cases new : id = s.world.nextBlock
    · subst new
      rw [blocks, World.blocks_put_self] at there
      cases there
      exact absurd none pending
    · rw [blocks, World.blocks_put_of_ne new] at there
      exact ⟨after, there, rfl⟩

/-- A block is freed that has no request. -/
theorem free {id : Nat} {agent : Block} (found : s.world.blocks id = some agent) (none : agent.connectReq = none)
    (blocks : s'.world.blocks = (s.world.freeAgentBlk id).blocks) (notices : s'.world.notices = s.world.notices ++ [.freed id])
    (table : ∀ other, other ≠ id → (other ∈ s'.world.table ↔ other ∈ s.world.table)) (requests : s'.requests = s.requests)
    (dialled : s'.dialled = s.dialled) : Quiet s s' where
  requests := requests
  said := ⟨_, notices, List.forall_mem_singleton.mpr rfl⟩
  keeps := by
    intro other block there pending
    have different : other ≠ id := by
      rintro rfl
      rw [found] at there
      cases there
      exact pending none
    rw [blocks, World.blocks_free_of_ne different, table other different, dialled]
    exact ⟨⟨block, there, rfl⟩, fun listed => listed⟩
  back := by
    intro other after there pending
    by_cases equal : other = id
    · subst equal
      rw [blocks, World.blocks_free_self] at there
      cases there
    · rw [blocks, World.blocks_free_of_ne equal] at there
      exact ⟨after, there, rfl⟩

theorem trans {first second third : Process} (before : Quiet first second) (later : Quiet second third) :
    Quiet first third where
  requests := later.requests.trans before.requests
  said := by
    obtain ⟨said, notices, quiet⟩ := before.said
    obtain ⟨more, noticesLater, quietLater⟩ := later.said
    exact ⟨said ++ more, by rw [noticesLater, notices, List.append_assoc], List.forall_mem_append.mpr ⟨quiet, quietLater⟩⟩
  keeps := by
    intro id agent found pending
    obtain ⟨⟨middle, there, same⟩, listed⟩ := before.keeps id agent found pending
    obtain ⟨⟨after, last, sameLater⟩, listedLater⟩ := later.keeps id middle there (same ▸ pending)
    exact ⟨⟨after, last, sameLater.trans same⟩, fun member => listedLater (listed member)⟩
  back := by
    intro id after last pending
    obtain ⟨middle, there, same⟩ := later.back id after last pending
    obtain ⟨agent, found, sameBefore⟩ := before.back id middle there (same ▸ pending)
    exact ⟨agent, found, sameBefore.trans same⟩

/-- A block is released that keeps its request if it has one. -/
theorem release {id : Nat} {dead : Bool} {w : World} (run : s.world.releaseAgentBlk id dead = .ok w) (world : s'.world = w)
    (requests : s'.requests = s.requests) (dialled : s'.dialled = s.dialled)
    (safe : ∀ agent, s.world.blocks id = some agent → agent.connectReq ≠ none → 2 ≤ agent.refCount ∧ dead = false) :
    Quiet s s' := by
  obtain ⟨agent, found, released⟩ := World.releaseAgentBlk_released run
  have frame := World.releaseAgentBlk_frame run
  refine ⟨requests, world ▸ released.quiet, fun other block there pending => ?_, fun other after there _ => ?_⟩
  · rw [world, dialled]
    by_cases equal : other = id
    · subst equal
      obtain ⟨shared, rfl⟩ := safe block there pending
      have result := World.releaseAgentBlk_of_shared there shared
      rw [run] at result
      cases result
      exact ⟨⟨block.released, World.blocks_put_self, rfl⟩, fun listed => listed⟩
    · rw [frame.blocks_of_ne other equal, frame.table_of_ne other equal]
      exact ⟨⟨block, there, rfl⟩, fun listed => listed⟩
  · rw [world] at there
    by_cases equal : other = id
    · subst equal
      rcases released.found_cases there with rfl | rfl
      · exact ⟨agent, found, rfl⟩
      · exact ⟨agent, found, (s.world.connectReq_remains other agent).symm⟩
    · rw [frame.blocks_of_ne other equal] at there
      exact ⟨after, there, rfl⟩

theorem leave {id : Nat} {dead : Bool} {reason : Option String} {w : World} (run : s.world.leave id dead reason = .ok w)
    (world : s'.world = w) (requests : s'.requests = s.requests) (dialled : s'.dialled = s.dialled)
    (safe : ∀ agent, s.world.blocks id = some agent → agent.connectReq ≠ none → 2 ≤ agent.refCount ∧ dead = false) :
    Quiet s s' := by
  cases reason with
  | none => exact release run world requests dialled safe
  | some reason =>
    obtain ⟨marked, edited, released⟩ := Except.bind_ok_iff.mp run
    obtain ⟨agent, found, rfl⟩ := World.edit_ok_iff.mp edited
    have failing : Quiet s { s with world := s.world.put id (agent.failing reason) } :=
      edit found (agent.failing reason) rfl rfl (List.append_nil _).symm (List.forall_mem_nil _) rfl
        fun _ listed => listed
    refine failing.trans (release released world requests dialled fun block there => ?_)
    rw [World.blocks_put_self] at there
    cases there
    exact safe agent found

end Quiet

namespace Ledger

variable (ledger : s.Ledger)

include ledger

theorem quiet (step : Quiet s s') (accounts : s'.Accounts s.Pending) (chronicle : s'.world.Chronicle) : s'.Ledger := by
  obtain ⟨said, notices, silent⟩ := step.said
  have same (number : Nat) : s'.world.record number = s.world.record number := by
    rw [World.record_append notices, entries_of_quiet silent, List.append_nil]
  constructor
  · refine accounts.mono fun id ⟨after, there, pending⟩ _ => ?_
    obtain ⟨agent, found, own⟩ := step.back id after there pending
    exact ⟨agent, found, own ▸ pending⟩
  · exact chronicle
  · intro number later
    rw [same]
    exact ledger.future number (step.requests ▸ later)
  · intro number earlier
    refine (ledger.calls number (step.requests ▸ earlier)).stays chronicle notices (entries_of_quiet silent number) ?_
    intro id agent req _ found own _
    obtain ⟨⟨after, there, kept⟩, _⟩ := step.keeps id agent found (by simp [own])
    exact ⟨after, there, kept.trans own⟩
  · intro id after req there own
    obtain ⟨agent, found, before⟩ := step.back id after there (by simp [own])
    obtain ⟨record, listed⟩ := ledger.pending id agent req found (before.trans own)
    rw [same]
    exact ⟨record, (step.keeps id agent found (by simp [before, own])).2 listed⟩

/-- A request is answered with the report that the peer is ready. -/
theorem answers {id : Nat} {agent after : Block} {req : ConnectReq} (found : s.world.blocks id = some agent)
    (own : agent.connectReq = some req) (record : s.world.record req.number = [.dialled id])
    (blocks : s'.world.blocks = (s.world.put id after).blocks) (done : after.connectReq = none) {event : Notice}
    (notices : s'.world.notices = s.world.notices ++ [event, .connectStatus req .ok])
    (isReady : event.milestone id = some (.event .ready)) (aside : event.isAnswer = false)
    (requests : s'.requests = s.requests)
    (listed : ∀ other, other ∈ s.world.table ∨ other ∈ s.dialled → other ∈ s'.world.table ∨ other ∈ s'.dialled)
    (accounts : s'.Accounts s.Pending) (chronicle : s'.world.Chronicle) : s'.Ledger := by
  have entries (number : Nat) : [event, .connectStatus req .ok].filterMap (Notice.entry number) =
      if req.number = number then [.answered .ok] else [] := by
    have quiet : [event].filterMap (Notice.entry number) = [] :=
      entries_of_quiet (List.forall_mem_singleton.mpr aside) number
    change ([event] ++ [Notice.connectStatus req .ok]).filterMap (Notice.entry number) = _
    rw [List.filterMap_append, quiet, List.nil_append]
    simp only [List.filterMap_cons, List.filterMap_nil, Notice.entry]
    split <;> simp_all
  have before {other : Nat} {block : Block} (there : s'.world.blocks other = some block) (pending : block.connectReq ≠ none) :
      other ≠ id ∧ s.world.blocks other = some block := by
    by_cases equal : other = id
    · subst equal
      rw [blocks, World.blocks_put_self] at there
      cases there
      exact absurd done pending
    · rw [blocks, World.blocks_put_of_ne equal] at there
      exact ⟨equal, there⟩
  have earlier : req.number < s.requests := by
    by_contra later
    have nothing := ledger.future req.number (by omega)
    simp [record] at nothing
  constructor
  · refine accounts.mono fun other ⟨block, there, pending⟩ _ => ?_
    exact ⟨block, (before there pending).2, pending⟩
  · exact chronicle
  · intro number later
    rw [requests] at later
    rw [World.record_append notices, entries, if_neg (by omega), ledger.future number later]
    rfl
  · intro number known
    rw [requests] at known
    by_cases mine : req.number = number
    · subst mine
      refine .ready id ?_ ?_
      · rw [World.record_append notices, entries, if_pos rfl, record]
        rfl
      · rw [World.Chronicle.history_of_append notices]
        refine List.mem_append_right _ ?_
        rw [milestones, List.filterMap_cons, isReady]
        exact List.mem_cons_self
    · refine (ledger.calls number known).stays chronicle notices (by rw [entries, if_neg mine]) ?_
      intro other block otherReq _ there otherOwn same
      have different : other ≠ id := by
        rintro rfl
        rw [found] at there
        cases there
        rw [own] at otherOwn
        cases otherOwn
        exact mine same
      exact ⟨block, by rw [blocks, World.blocks_put_of_ne different, there], otherOwn⟩
  · intro other block otherReq there otherOwn
    obtain ⟨different, old⟩ := before there (by simp [otherOwn])
    obtain ⟨otherRecord, member⟩ := ledger.pending other block otherReq old otherOwn
    have unlike : req.number ≠ otherReq.number := by
      intro same
      rw [← same, record] at otherRecord
      simp only [List.cons.injEq, Entry.dialled.injEq, and_true] at otherRecord
      exact different otherRecord.symm
    rw [World.record_append notices, entries, if_neg unlike, List.append_nil]
    exact ⟨otherRecord, listed other member⟩

/-- The listener finds the peer ready or not, and answers the request if there is one. -/
theorem greets {id : Nat} {agent : Block} (found : s.world.blocks id = some agent) {reported : Block × List Notice}
    (greeting : agent.Greeting s.world.uuid s.world.clock id reported)
    (blocks : s'.world.blocks = (s.world.put id reported.1).blocks)
    (notices : s'.world.notices = s.world.notices ++ reported.2) (requests : s'.requests = s.requests)
    (listed : ∀ other, other ∈ s.world.table ∨ other ∈ s.dialled → other ∈ s'.world.table ∨ other ∈ s'.dialled)
    (accounts : s'.Accounts s.Pending) (chronicle : s'.world.Chronicle) : s'.Ledger := by
  have silent {base : Block} (same : base.connectReq = agent.connectReq) (report : reported = (base, [])) : s'.Ledger := by
    subst report
    exact ledger.quiet (Quiet.edit found _ same blocks notices (List.forall_mem_nil _) requests listed) accounts chronicle
  cases greeting with
  | silent base same => exact silent same rfl
  | reports base same reason =>
    by_cases due : base.readyToReport = true ∧ base.readyReported = false
    · rw [Block.reportPeerReady_of_due due.1 due.2] at blocks notices
      cases own : base.connectReq with
      | none =>
        rw [own] at notices
        refine ledger.quiet (Quiet.edit found _ (own.symm.trans same) blocks notices ?_ requests listed) accounts chronicle
        exact List.forall_mem_singleton.mpr rfl
      | some req =>
        have pending : agent.connectReq = some req := same.symm.trans own
        obtain ⟨record, _⟩ := ledger.pending id agent req found pending
        rw [own] at notices
        exact ledger.answers found pending record blocks rfl notices (by simp [Notice.milestone, fillPeerEvent]) rfl
          requests listed accounts chronicle
    · exact silent same (Block.reportPeerReady_of_silent (by simpa [or_iff_not_imp_left] using due))

/-- A block with a request that somebody holds is in the table as well. -/
theorem shared {id : Nat} (held : 0 < s.held id) (agent : Block) (found : s.world.blocks id = some agent)
    (pending : agent.connectReq ≠ none) : 2 ≤ agent.refCount := by
  obtain ⟨req, own⟩ := Option.ne_none_iff_exists'.mp pending
  obtain ⟨_, aside⟩ := ledger.accounts.known id held
  have member : id ∈ s.world.table := (ledger.pending id agent req found own).2.resolve_right aside
  have counted := ledger.accounts.counted id ⟨agent, found, pending⟩ aside
  have := (counted.listed member agent found).2
  omega

/-- A connect thread runs until its block is to be in the table. -/
theorem called {said : List Notice} (notices : s'.world.notices = s.world.notices ++ said)
    (silent : ∀ number, number ≠ s.requests → said.filterMap (Notice.entry number) = [])
    (requests : s'.requests = s.requests + 1)
    (others : ∀ id, id ≠ s.world.nextBlock → s'.world.blocks id = s.world.blocks id)
    (listed : ∀ other, other ∈ s.world.table ∨ other ∈ s.dialled → other ∈ s'.world.table ∨ other ∈ s'.dialled)
    (call : s'.Call s.requests)
    (own : ∀ agent req, s'.world.blocks s.world.nextBlock = some agent → agent.connectReq = some req →
      s'.world.record req.number = [.dialled s.world.nextBlock] ∧ s.world.nextBlock ∈ s'.dialled)
    (accounts : s'.Accounts s.Pending) (chronicle : s'.world.Chronicle) : s'.Ledger := by
  have fresh {id : Nat} {agent : Block} (found : s.world.blocks id = some agent) : id ≠ s.world.nextBlock :=
    (ledger.accounts.born found).ne
  constructor
  · refine accounts.mono fun id ⟨agent, there, pending⟩ free => ?_
    by_cases new : id = s.world.nextBlock
    · subst new
      obtain ⟨req, request⟩ := Option.ne_none_iff_exists'.mp pending
      exact absurd (own agent req there request).2 free
    · exact ⟨agent, (others id new).symm.trans there, pending⟩
  · exact chronicle
  · intro number later
    rw [requests] at later
    rw [World.record_append notices, silent number (by omega), ledger.future number (by omega)]
    rfl
  · intro number earlier
    rw [requests] at earlier
    by_cases new : number = s.requests
    · rw [new]
      exact call
    · refine (ledger.calls number (by omega)).stays chronicle notices (silent number new) ?_
      intro id agent req _ found pending _
      exact ⟨agent, (others id (fresh found)).trans found, pending⟩
  · intro id agent req there pending
    by_cases new : id = s.world.nextBlock
    · subst new
      obtain ⟨record, member⟩ := own agent req there pending
      exact ⟨record, .inr member⟩
    · rw [others id new] at there
      obtain ⟨record, member⟩ := ledger.pending id agent req there pending
      have older : req.number ≠ s.requests := by
        intro same
        have nothing := ledger.future req.number (by omega)
        simp [record] at nothing
      rw [World.record_append notices, silent _ older, List.append_nil]
      exact ⟨record, listed id member⟩

theorem connected {dial : Dial} {w : World} {result : Option Nat}
    (dialled : s.world.Dialled ⟨s.requests, dial.uuid⟩ dial (w, result)) (truthful : ¬dial.Untrue)
    (world : s'.world = w) (waits : s'.dialled = result.toList ++ s.dialled) (requests : s'.requests = s.requests + 1)
    (accounts : s'.Accounts s.Pending) (chronicle : s'.world.Chronicle) : s'.Ledger := by
  have others (id : Nat) (different : id ≠ s.world.nextBlock) : s'.world.blocks id = s.world.blocks id := by
    rw [world]
    exact dialled.blocks_of_ne different
  have listed (other : Nat) (member : other ∈ s.world.table ∨ other ∈ s.dialled) :
      other ∈ s'.world.table ∨ other ∈ s'.dialled := by
    have table : s'.world.table = s.world.table := by
      rw [world]
      exact dialled.table_eq
    rw [table, waits]
    exact member.imp_right (List.mem_append_right _)
  have nothing : s.world.record s.requests = [] := ledger.future _ (le_refl _)
  have unborn : s.world.blocks s.world.nextBlock = none := ledger.accounts.unborn _ (le_refl _)
  cases dialled with
  | refused rc failure =>
    have notices : s'.world.notices = s.world.notices ++ [.connectStatus ⟨s.requests, dial.uuid⟩ rc] := by rw [world]; rfl
    refine ledger.called notices ?_ requests others listed (.refused rc failure ?_) ?_ accounts chronicle
    · intro number different
      simp [Notice.entry, different.symm]
    · rw [World.record_append notices, nothing]
      simp [Notice.entry]
    · intro agent req found
      rw [world] at found
      have absent : (s.world.failConnect ⟨s.requests, dial.uuid⟩ rc).blocks s.world.nextBlock = none := unborn
      rw [absent] at found
      cases found
  | ended addr fds rc known untrue fails highest =>
    have notices : s'.world.notices = s.world.notices ++
        [.dialling ⟨s.requests, dial.uuid⟩ s.world.nextBlock, .freed s.world.nextBlock,
          .connectStatus ⟨s.requests, dial.uuid⟩ rc] := by
      rw [world]
      simp only [World.failConnect, World.notify, World.freeAgentBlk, World.shed, World.opening, World.calling]
      rw [List.append_assoc, List.append_assoc]
      rfl
    have silent : s.world.history s.world.nextBlock = [] := by
      rcases ledger.chronicle.gone _ unborn with ⟨born, _⟩ | ⟨_, silent⟩
      · omega
      · exact silent
    refine ledger.called notices ?_ requests others listed
      (.ended s.world.nextBlock rc (fun ok => truthful (untrue ok)) ?_ ?_) ?_ accounts chronicle
    · intro number different
      simp [List.filterMap_cons, Notice.entry, different.symm]
    · rw [World.record_append notices, nothing]
      simp [List.filterMap_cons, Notice.entry]
    · rw [World.Chronicle.history_of_append notices, silent]
      simp [milestones, List.filterMap_cons, Notice.milestone]
    · intro agent req found
      rw [world] at found
      have absent : (((((s.world.calling addr dial ⟨s.requests, dial.uuid⟩).opening fds).shed fds highest).freeAgentBlk
          s.world.nextBlock).failConnect ⟨s.requests, dial.uuid⟩ rc).blocks s.world.nextBlock = none := if_pos rfl
      rw [absent] at found
      cases found
  | up addr control rpc =>
    have notices : s'.world.notices = s.world.notices ++ [.dialling ⟨s.requests, dial.uuid⟩ s.world.nextBlock] := by
      rw [world]
      rfl
    have record : s'.world.record s.requests = [.dialled s.world.nextBlock] := by
      rw [World.record_append notices, nothing]
      simp [Notice.entry]
    have own : ∃ agent, s'.world.blocks s.world.nextBlock = some agent ∧
        agent.connectReq = some ⟨s.requests, dial.uuid⟩ := by
      rw [world]
      exact ⟨_, World.blocks_put_self, rfl⟩
    obtain ⟨agent, found, request⟩ := own
    refine ledger.called notices ?_ requests others listed (.waiting _ agent _ record found request rfl) ?_ accounts chronicle
    · intro number different
      simp [Notice.entry, different.symm]
    · intro block req there pending
      rw [found] at there
      cases there
      rw [request] at pending
      cases pending
      exact ⟨record, by simp [waits]⟩

end Ledger

/-- No block is given up that has a request, be it for dead or with the reference of
the table, and no connection is dialled whose second channel cannot be opened. -/
def Answerable (s : Process) (action : Action) : Prop :=
  (∀ id ∈ (s.ending action).toList ++ (s.tableRelease action).toList,
    (s.world.blocks id).all (fun agent => agent.connectReq.isNone) = true) ∧
  match action with
  | .connect dial => ¬dial.Untrue
  | _ => True

instance (s : Process) : (action : Action) → Decidable (s.Answerable action)
  | .connect dial => inferInstanceAs (Decidable (_ ∧ ¬dial.Untrue))
  | .tick _ | .selectFails | .accept _ _ | .newAgent _ _ _ | .visit _ _ _ | .livenessCheck _ _ | .sendHb _ _ | .proceed
  | .publish _ | .send _ _ | .look _ | .advance _ _ => inferInstanceAs (Decidable (_ ∧ True))

namespace Ledger

variable (ledger : s.Ledger)

include ledger

theorem step {action : Action} (enabled : s.Enabled action) (answerable : s.Answerable action)
    (run : s.step action = .ok s') : s'.Ledger := by
  have took := step_took ledger.accounts.nextBlock_not_mem run
  have done {id : Nat} (given : s.ending action = some id ∨ s.tableRelease action = some id) (agent : Block)
      (found : s.world.blocks id = some agent) : agent.connectReq = none := by
    have idle := answerable.1 id (by rcases given with ends | gives <;> simp_all)
    rw [found] at idle
    simpa using idle
  have accounts : s'.Accounts s.Pending := by
    refine ledger.accounts.step enabled (fun id gives ⟨agent, found, pending⟩ => ?_) took
    exact absurd (done (.inr gives) agent found) pending
  have chronicle : s'.world.Chronicle := chronicle_step ledger.chronicle run
  have truthful := answerable.2
  clear run answerable
  cases took with
  | tick => exact ledger.quiet (.still rfl (List.append_nil _).symm (List.forall_mem_nil _) rfl rfl rfl) accounts chronicle
  | selectFails =>
    exact ledger.quiet (.still rfl (List.append_nil _).symm (List.forall_mem_nil _) rfl rfl rfl) accounts chronicle
  | acceptNew fd addr =>
    have none : ((Block.fresh addr s.world.clock).plugControl (some fd)).connectReq = none := rfl
    exact ledger.quiet (.fresh (ledger.accounts.unborn _ (le_refl _)) none (s.world.blocks_acceptedNew fd addr) rfl rfl rfl rfl)
      accounts chronicle
  | acceptKnown fd addr id agent known found =>
    exact ledger.quiet (.touch found agent.acquired rfl rfl rfl rfl rfl rfl) accounts chronicle
  | visited _ id agent touched found touch next =>
    have same : touched.acquired.connectReq = agent.connectReq := by
      rcases touch with rfl | rfl <;> rfl
    exact ledger.quiet (.touch found _ same rfl rfl rfl rfl rfl) accounts chronicle
  | rested => exact ledger
  | returned id fd place w' run =>
    have held : 0 < s.held id := by simp [held_eq, place, Listener.holds]
    exact ledger.quiet (.release run rfl rfl rfl fun agent found pending => ⟨ledger.shared held agent found pending, rfl⟩)
      accounts chronicle
  | adopted id fd place agent found =>
    exact ledger.quiet (.touch found (agent.plugControl (some fd)) rfl rfl rfl rfl rfl rfl) accounts chronicle
  | greeted id hb rpcReady place w' run next greets =>
    have held : 0 < s.held id := by simp [held_eq, place, Listener.holds]
    obtain ⟨agent, found, _, ⟨_, rfl⟩ | ⟨last, rfl⟩⟩ := World.releaseAgentConn_ok_iff.mp run
    · exact ledger.quiet (.touch found agent.released rfl rfl rfl rfl rfl rfl) accounts chronicle
    · refine ledger.quiet (.free found ?_ rfl rfl (fun other different => ?_) rfl rfl) accounts chronicle
      · by_contra pending
        have := ledger.shared held agent found pending
        omega
      · exact (World.releaseAgentConn_frame run).table_of_ne other different
  | refused task id incoming place rc =>
    exact ledger.quiet (.still rfl (List.append_nil _).symm (List.forall_mem_nil _) rfl rfl rfl) accounts chronicle
  | heard task id incoming place agent found hb =>
    exact ledger.greets found (s.world.greeting_heardBy id agent hb) rfl rfl rfl (fun _ listed => listed) accounts chronicle
  | identified task id incoming place agent message delivered =>
    obtain ⟨_, _, _, _, found, _⟩ := delivery_eq_some_iff.mp delivered
    have rpc : (agent.learn (Session.read message.body) s.world.clock).becomeRpc.connectReq = agent.connectReq := rfl
    have control : (agent.learn (Session.read message.body) s.world.clock).becomeControl.connectReq = agent.connectReq := rfl
    refine ledger.quiet ?_ accounts chronicle
    rcases s.world.identified_cases id agent (Session.read message.body) with ⟨_, result⟩ | ⟨_, result⟩
    · obtain ⟨_, _, _, suspended⟩ := World.listenerSuspendFd_eq
        (s.world.put id (agent.learn (Session.read message.body) s.world.clock).becomeRpc) agent.iFileDesc
      rw [result, suspended]
      refine .touch found _ rpc ?_ ?_ ?_ ?_ ?_ <;> rfl
    · rw [result]
      exact .touch found _ control rfl rfl rfl rfl rfl
  | matched task id incoming place agent message delivered isSession valid existing known matching there =>
    exact ledger.quiet (.touch there known.acquired rfl rfl rfl rfl rfl rfl) accounts chronicle
  | served task id incoming place agent found message rc =>
    have same : (if message.header.type = .rmaAck then agent else agent.working false).connectReq = agent.connectReq := by
      split <;> rfl
    refine ledger.quiet (.edit found _ same ?_ rfl ?_ rfl fun _ listed => listed) accounts chronicle
    · rfl
    · exact List.forall_mem_singleton.mpr rfl
  | merged task id existing ses place agent known found there =>
    obtain ⟨_, _, _, resumed⟩ := s.world.listenerResumeFd_eq (World.resumed known ses)
    have greeting := s.world.greeting_mergedWith existing known agent ses
    rw [World.mergedInto, resumed] at chronicle accounts ⊢
    refine ledger.greets there greeting ?_ ?_ rfl (fun _ listed => listed) accounts chronicle
    · rfl
    · rfl
  | matchReturned task id existing place w' run =>
    have held : 0 < s.held existing := by simp [held_eq, place, Listener.holds]
    exact ledger.quiet (.release run rfl rfl rfl fun agent found pending => ⟨ledger.shared held agent found pending, rfl⟩)
      accounts chronicle
  | dropped task id existing place apart w' run =>
    have given : s.tableRelease .proceed = some id := by simp [tableRelease, place]
    exact ledger.quiet (.release run rfl rfl rfl fun agent found pending => absurd (done (.inr given) agent found) pending)
      accounts chronicle
  | left task id dead reason place w' run =>
    refine ledger.quiet (.leave run rfl rfl rfl fun agent found pending => ?_) accounts chronicle
    cases dead with
    | true => exact absurd (done (.inl (by simp [ending, place])) agent found) pending
    | false =>
      cases task with
      | fresh => exact absurd (done (.inr (by simp [tableRelease, place])) agent found) pending
      | established rest =>
        have held : 0 < s.held id := by simp [held_eq, place, Listener.holds, Task.holds]
        exact ⟨ledger.shared held agent found pending, rfl⟩
  | dialled dial w' result dialled => exact ledger.connected dialled truthful rfl rfl rfl accounts chronicle
  | published id agent found reported report =>
    have greeting : agent.Greeting s.world.uuid s.world.clock id reported := by
      rw [report]
      exact .reports agent rfl "outbound-rpc-ready"
    refine ledger.greets found greeting ?_ ?_ rfl (fun other listed => ?_) accounts chronicle
    · rfl
    · rfl
    · by_cases equal : other = id
      · exact .inl (List.mem_append_right _ (List.mem_singleton.mpr equal))
      · exact listed.imp (List.mem_append_left _) (List.mem_erase_of_ne equal).mpr
  | missed => exact ledger
  | acquired action id lookup agent found stage =>
    exact ledger.quiet (.touch found agent.acquired rfl rfl rfl rfl rfl rfl) accounts chronicle
  | sent send net next =>
    exact ledger.quiet (.still rfl (List.append_nil _).symm (List.forall_mem_nil _) rfl rfl rfl) accounts chronicle
  | unplugged send net _ agent found _ _ next =>
    exact ledger.quiet (.touch found (agent.plugRpc none) rfl rfl rfl rfl rfl rfl) accounts chronicle
  | opened send net _ agent found _ fd _ flag next =>
    exact ledger.quiet (.touch found ((agent.plugRpc (some fd)).rpcFlagged flag) rfl rfl rfl rfl rfl rfl) accounts
      chronicle
  | worked send net agent found flag next =>
    exact ledger.quiet (.touch found (agent.working flag) rfl rfl rfl rfl rfl rfl) accounts chronicle
  | released send net dead place w' run =>
    refine ledger.quiet (.release run rfl rfl rfl fun agent found pending => ?_) accounts chronicle
    cases dead with
    | true => exact absurd (done (.inl (by simp [ending, place])) agent found) pending
    | false =>
      have held : 0 < s.held send.block := by
        have balance := held_release s enabled.1 w' send.block
        rw [if_pos rfl] at balance
        omega
      exact ⟨ledger.shared held agent found pending, rfl⟩

end Ledger

theorem ledger_start (uuid : Uuid) (clock listenFd : Nat) : (start uuid clock listenFd).Ledger where
  accounts := accounts_start _ uuid clock listenFd
  chronicle := World.Chronicle.init uuid clock listenFd
  future := fun _ _ => rfl
  calls := fun number earlier => absurd earlier (Nat.not_lt_zero number)
  pending := by simp [start, World.init]

theorem ledger_run {uuid : Uuid} {clock listenFd : Nat} {actions : List Action} {s : Process}
    (admits : machine.Admits (fun s action => s.Enabled action ∧ s.Answerable action) (start uuid clock listenFd) actions)
    (run : machine.run (start uuid clock listenFd) actions = .ok s) : s.Ledger := by
  refine Faulting.run_invariant Ledger (fun s action s' ledger allowed step => ?_) (ledger_start uuid clock listenFd) admits run
  exact ledger.step allowed.1 allowed.2 step

/-- The control connection of a call comes up and its second channel does not. -/
def halfDialled : List Action := [.connect { Dial.plain (Uuid.filled 9) 5 6 with rpc := none }]

/-- A peer that is connected to closes the connection before its first heartbeat. -/
def lostEarly : List Action :=
  [.connect (.plain (Uuid.filled 9) 5 6), .publish 0, .visit 0 (some (.noHeader .clientClosed)) none, .proceed, .proceed]

end Process

namespace World

/-- The statuses that the callback of a call was given. -/
def answers (w : World) (number : Nat) : List DefwRc :=
  (w.record number).filterMap fun entry => match entry with
    | .answered status => some status
    | .dialled _ => none

/-- The blocks that a call got. -/
def blocksOf (w : World) (number : Nat) : List Nat :=
  (w.record number).filterMap fun entry => match entry with
    | .answered _ => none
    | .dialled block => some block

end World

open Process in
/-- As long as no block is given up that has a request, and no call has one channel
only, every call is answered once by the time its block is freed, and it is answered
with success if and only if PEER_READY was notified for its block. -/
theorem connect_answered_once (uuid : Uuid) (clock listenFd : Nat) (actions : List Action) (s : Process)
    (admits : machine.Admits (fun s action => s.Enabled action ∧ s.Answerable action) (start uuid clock listenFd) actions)
    (run : machine.run (start uuid clock listenFd) actions = .ok s) : ∀ number < s.requests,
    (∃ rc, s.world.answers number = [rc] ∧
      (rc = .ok ↔ ∃ id ∈ s.world.blocksOf number, .event .ready ∈ s.world.history id)) ∨
    (s.world.answers number = [] ∧ ∃ id agent, s.world.blocksOf number = [id] ∧ s.world.blocks id = some agent) := by
  intro number earlier
  unfold World.answers World.blocksOf
  cases (ledger_run admits run).calls number earlier with
  | refused rc failure record =>
    rw [record]
    exact .inl ⟨rc, rfl, fun ok => absurd ok failure, nofun⟩
  | ended id rc failure record history =>
    rw [record]
    refine .inl ⟨rc, rfl, fun ok => absurd ok failure, ?_⟩
    rintro ⟨block, member, ready⟩
    cases List.mem_singleton.mp member
    rw [history] at ready
    simp at ready
  | waiting id agent req record found =>
    rw [record]
    exact .inr ⟨rfl, id, agent, rfl, found⟩
  | ready id record history =>
    rw [record]
    exact .inl ⟨.ok, rfl, fun _ => ⟨id, List.mem_singleton.mpr rfl, history⟩, fun _ => rfl⟩

open Process in
theorem connect_answered_once_short_life : ∃ s, machine.run (start (Uuid.filled 1) 100 3) shortLife = .ok s ∧
    s.requests = 1 ∧ s.world.blocks 0 = none ∧ s.world.answers 0 = [.ok] ∧ ∀ number < s.requests,
    (∃ rc, s.world.answers number = [rc] ∧
      (rc = .ok ↔ ∃ id ∈ s.world.blocksOf number, .event .ready ∈ s.world.history id)) ∨
    (s.world.answers number = [] ∧ ∃ id agent, s.world.blocksOf number = [id] ∧ s.world.blocks id = some agent) := by
  have evaluated : (machine.run (start (Uuid.filled 1) 100 3) shortLife).toOption.map
      (fun s => (s.requests, s.world.blocks 0, s.world.answers 0)) = some (1, none, [.ok]) := by decide +kernel
  obtain ⟨s, run, shape⟩ := Except.exists_ok_of_map evaluated
  simp only [Prod.mk.injEq] at shape
  exact ⟨s, run, shape.1, shape.2.1, shape.2.2, connect_answered_once _ _ _ shortLife s (by decide +kernel) run⟩

open Process in
/-- A call is answered with success whose block is freed without PEER_READY, and a
call is not answered at all whose block is freed. -/
theorem connect_misanswered :
    (machine.Admits Enabled (start (Uuid.filled 1) 100 3) halfDialled ∧
      ∃ s, machine.run (start (Uuid.filled 1) 100 3) halfDialled = .ok s ∧ s.world.answers 0 = [.ok] ∧
        s.world.blocksOf 0 = [0] ∧ s.world.history 0 = [.freed]) ∧
    machine.Admits Enabled (start (Uuid.filled 1) 100 3) lostEarly ∧
      ∃ s, machine.run (start (Uuid.filled 1) 100 3) lostEarly = .ok s ∧ s.world.answers 0 = [] ∧
        s.world.blocksOf 0 = [0] ∧ s.world.history 0 = [.freed] := by
  have half : (machine.run (start (Uuid.filled 1) 100 3) halfDialled).toOption.map
      (fun s => (s.world.answers 0, s.world.blocksOf 0, s.world.history 0)) = some ([.ok], [0], [.freed]) := by decide +kernel
  have lost : (machine.run (start (Uuid.filled 1) 100 3) lostEarly).toOption.map
      (fun s => (s.world.answers 0, s.world.blocksOf 0, s.world.history 0)) = some ([], [0], [.freed]) := by decide +kernel
  obtain ⟨first, run, shape⟩ := Except.exists_ok_of_map half
  obtain ⟨second, later, form⟩ := Except.exists_ok_of_map lost
  simp only [Prod.mk.injEq] at shape form
  exact ⟨⟨by decide +kernel, first, run, shape⟩, by decide +kernel, second, later, form⟩

end DEFw.Agents
