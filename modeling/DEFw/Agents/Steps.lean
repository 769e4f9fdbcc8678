import DEFw.Agents.Handlers
import DEFw.Agents.Lookup

namespace DEFw.Agents
open Transport (Uuid)

namespace World

variable {w : World} {req : ConnectReq} {dial : Dial}

/-- The connect thread has a block. -/
def calling (w : World) (addr : Addr) (dial : Dial) (req : ConnectReq) : World :=
  ((w.allocAgentBlk addr false).put w.nextBlock (Block.dialling addr w.clock dial req)).notify
    [.dialling req w.nextBlock]

theorem blocks_calling_of_ne (addr : Addr) {other : Nat} (different : other ≠ w.nextBlock) :
    (w.calling addr dial req).blocks other = w.blocks other :=
  (if_neg different).trans (if_neg different)

theorem nextBlock_calling (addr : Addr) : (w.calling addr dial req).nextBlock = w.nextBlock + 1 := rfl

theorem table_calling (addr : Addr) : (w.calling addr dial req).table = w.table := rfl

theorem listenFd_calling (addr : Addr) : (w.calling addr dial req).listenFd = w.listenFd := rfl

theorem allSet_calling (addr : Addr) : (w.calling addr dial req).allSet = w.allSet := rfl

theorem suspended_calling (addr : Addr) : (w.calling addr dial req).suspended = w.suspended := rfl

theorem maxSelectFd_calling (addr : Addr) : (w.calling addr dial req).maxSelectFd = w.maxSelectFd := rfl

theorem opened_calling (addr : Addr) : (w.calling addr dial req).opened = w.opened := rfl

theorem clock_calling (addr : Addr) : (w.calling addr dial req).clock = w.clock := rfl

/-- Descriptors that are opened. -/
def opening (w : World) (fds : Finset Nat) : World := { w with opened := fds ∪ w.opened }

/-- What a connect thread comes to before its block is in the table: it has none,
it ends it with the descriptors it had opened, or it has it ready. -/
inductive Dialled (w : World) (req : ConnectReq) (dial : Dial) : World × Option Nat → Prop
  | refused (rc : DefwRc) (failure : rc ≠ .ok) : Dialled w req dial (w.failConnect req rc, none)
  | ended (addr : Addr) (fds : Finset Nat) (rc : DefwRc) (known : fds ⊆ dial.control.toFinset ∪ dial.rpc.toFinset)
      (untrue : rc = .ok → dial.Untrue) (fails : fds ≠ ∅ → dial.Fails) (highest : Int)
      (max : highest = if fds = ∅ then w.maxSelectFd else (w.calling addr dial req).agentGetHighestFd) :
      Dialled w req dial
        (((((w.calling addr dial req).opening fds).shed fds highest).freeAgentBlk w.nextBlock).failConnect req rc, none)
  | up (addr : Addr) (control rpc : Nat) (dialControl : dial.control = some control) (dialRpc : dial.rpc = some rpc) :
      Dialled w req dial
        (((w.calling addr dial req).opening {rpc, control}).put w.nextBlock
          ((((Block.dialling addr w.clock dial req).plugControl (some control)).controlUp.plugRpc (some rpc)).rpcUp dial),
        some w.nextBlock)

theorem abandon_eq (w : World) {id : Nat} (absent : id ∉ w.table) (agent : Block) (req : ConnectReq) (rc : DefwRc) :
    w.abandon id agent req rc = (((w.shed agent.fds (w.highestWithout agent)).freeAgentBlk id).failConnect req rc) := by
  obtain ⟨highest, max, closed⟩ := closeAgentConnection_eq w id agent
  rw [abandon, closed, free_put, max absent]

theorem establish_eq (w : World) (fd : Nat) : w.establish fd = w.opening {fd} := rfl

theorem opening_opening (w : World) (first second : Finset Nat) :
    (w.opening first).opening second = w.opening (second ∪ first) := by
  simp only [opening, Finset.union_assoc]

theorem shed_opening_empty (w : World) : (w.opening ∅).shed ∅ w.maxSelectFd = w := by
  simp [opening, shed]

/-- The thread gives up with what it has opened. -/
theorem Dialled.abandoned (absent : w.nextBlock ∉ w.table) (addr : Addr) (agent : Block) {fds : Finset Nat}
    (same : agent.fds = fds) {rc : DefwRc} (known : fds ⊆ dial.control.toFinset ∪ dial.rpc.toFinset) (opened : fds ≠ ∅)
    (untrue : rc = .ok → dial.Untrue) (fails : dial.Fails) :
    Dialled w req dial (((w.calling addr dial req).opening fds).abandon w.nextBlock agent req rc, none) := by
  subst same
  have unlisted : w.nextBlock ∉ ((w.calling addr dial req).opening agent.fds).table := absent
  rw [abandon_eq _ unlisted]
  refine .ended addr agent.fds rc known untrue (fun _ => fails) _ ?_
  rw [highestWithout, if_neg opened, if_neg opened]
  rfl

theorem dialRpc_dialled (absent : w.nextBlock ∉ w.table) (addr : Addr) {fd : Nat} (control : dial.control = some fd)
    (sent : dial.controlSession = .ok) {agent : Block}
    (agentEq : agent = ((Block.dialling addr w.clock dial req).plugControl (some fd)).controlUp) :
    Dialled w req dial (((w.calling addr dial req).opening {fd}).dialRpc w.nextBlock agent req dial .ok) := by
  have fds : agent.fds = {fd} := by
    rw [agentEq]
    rfl
  unfold dialRpc
  cases rpc : dial.rpc with
  | none =>
    refine Dialled.abandoned absent addr agent fds ?_ (Finset.singleton_ne_empty fd) (fun _ => ⟨by simp [control], sent, rpc⟩)
      ⟨by simp [control], .inr (.inl rpc)⟩
    simp [control]
  | some second =>
    simp only []
    rw [establish_eq, opening_opening]
    by_cases sent : dial.rpcSession = .ok
    · rw [if_pos sent, agentEq]
      exact .up addr fd second control rpc
    · rw [if_neg sent]
      have both : (agent.plugRpc (some second)).fds = {second} ∪ {fd} := by
        rw [agentEq, Finset.union_comm]
        rfl
      refine Dialled.abandoned absent addr (agent.plugRpc (some second)) both ?_ ?_ (fun ok => absurd ok sent)
        ⟨by simp [control], .inr (.inr sent)⟩
      · rw [control, rpc, Finset.union_comm]
        rfl
      · exact Finset.Nonempty.ne_empty ⟨second, Finset.mem_union_left _ (Finset.mem_singleton_self second)⟩

theorem dialControl_dialled (absent : w.nextBlock ∉ w.table) (addr : Addr) {agent : Block}
    (agentEq : agent = Block.dialling addr w.clock dial req) :
    Dialled w req dial ((w.calling addr dial req).dialControl w.nextBlock agent req dial) := by
  unfold dialControl
  cases control : dial.control with
  | none =>
    have ended : Dialled w req dial _ :=
      .ended addr ∅ .socketFail (Finset.empty_subset _) nofun (absurd rfl) w.maxSelectFd rfl
    have same := (w.calling addr dial req).shed_opening_empty
    have max : (w.calling addr dial req).maxSelectFd = w.maxSelectFd := rfl
    rw [max] at same
    rwa [same] at ended
  | some fd =>
    simp only []
    rw [establish_eq]
    have fds : (agent.plugControl (some fd)).fds = {fd} := by
      rw [agentEq]
      rfl
    by_cases sent : dial.controlSession = .ok
    · rw [if_pos sent, sent]
      exact dialRpc_dialled absent addr control sent (by rw [agentEq])
    · rw [if_neg sent]
      refine Dialled.abandoned absent addr _ fds ?_ (Finset.singleton_ne_empty fd) (fun ok => absurd ok sent)
        ⟨by simp [control], .inl sent⟩
      simp [control]

theorem connectToAgentThread_dialled (w : World) (req : ConnectReq) (dial : Dial) (absent : w.nextBlock ∉ w.table) :
    Dialled w req dial (w.connectToAgentThread req dial) := by
  unfold connectToAgentThread
  cases dial.sinAddr with
  | none => exact .refused _ nofun
  | some sinAddr =>
    by_cases memory : (!dial.allocates) = true
    · simp only [if_pos memory]
      exact .refused _ nofun
    · simp only [if_neg memory]
      exact dialControl_dialled absent ⟨sinAddr, dial.port⟩ rfl

namespace Dialled

variable {result : World × Option Nat} (dialled : Dialled w req dial result)

include dialled

theorem blocks_of_ne {other : Nat} (different : other ≠ w.nextBlock) : result.1.blocks other = w.blocks other := by
  cases dialled with
  | refused => rfl
  | ended addr => exact (if_neg different).trans (blocks_calling_of_ne addr different)
  | up addr => exact (if_neg different).trans (blocks_calling_of_ne addr different)

theorem table_eq : result.1.table = w.table := by
  cases dialled with
  | refused => rfl
  | ended => simp only [failConnect, notify, freeAgentBlk, shed, opening, table_calling]
  | up => simp only [put, opening, table_calling]

theorem clock_eq : result.1.clock = w.clock := by
  cases dialled with
  | refused => rfl
  | ended => simp only [failConnect, notify, freeAgentBlk, shed, opening, clock_calling]
  | up => simp only [put, opening, clock_calling]

end Dialled

end World

namespace Block

/-- A heartbeat went out. -/
def transmitted (agent : Block) (now : Nat) : Block := { agent with lastHeartbeatTx := now }

def working (agent : Block) (flag : Bool) : Block := { agent with workInProgress := flag }

def rpcFlagged (agent : Block) (flag : Bool) : Block := { agent with rpcConnected := flag }

end Block

namespace World

/-- A connection is stored in a block. -/
def adopted (w : World) (id : Nat) (agent : Block) (fd : Nat) : World :=
  { w.put id (agent.plugControl (some fd)) with
    allSet := insert fd w.allSet
    maxSelectFd := (w.put id (agent.plugControl (some fd))).getHighestFd }

/-- A connection from an unknown address is accepted. -/
def acceptedNew (w : World) (fd : Nat) (addr : Addr) : World :=
  ((w.establish fd).allocAgentBlk addr true).adopted w.nextBlock (Block.fresh addr w.clock) fd

theorem blocks_acceptedNew (w : World) (fd : Nat) (addr : Addr) :
    (w.acceptedNew fd addr).blocks = (w.put w.nextBlock ((Block.fresh addr w.clock).plugControl (some fd))).blocks := by
  rw [← put_put (Block.fresh addr w.clock)]
  rfl

/-- A connection tells who it is from. -/
def identified (w : World) (id : Nat) (agent : Block) (ses : Session) : World :=
  if ses.rpcSetup then (w.put id (agent.learn ses w.clock).becomeRpc).listenerSuspendFd agent.iFileDesc
  else w.put id (agent.learn ses w.clock).becomeControl

theorem identified_cases (w : World) (id : Nat) (agent : Block) (ses : Session) :
    (ses.rpcSetup = true ∧ w.identified id agent ses =
      (w.put id (agent.learn ses w.clock).becomeRpc).listenerSuspendFd agent.iFileDesc) ∨
    (ses.rpcSetup = false ∧ w.identified id agent ses = w.put id (agent.learn ses w.clock).becomeControl) := by
  unfold identified
  cases ses.rpcSetup <;> simp

/-- A connection is moved to the block of its process. -/
def mergedInto (w : World) (existing : Nat) (known agent : Block) (ses : Session) : World :=
  ((w.listenerResumeFd (resumed known ses)).notify (w.mergedWith existing known agent ses).2).put existing
    (w.mergedWith existing known agent ses).1

/-- A request, response, event or RMA acknowledgement was processed. -/
def served (w : World) (id : Nat) (agent : Block) (message : Message) : World :=
  (w.notify [.handed id ⟨message.header.type, message.header.sender, message.body⟩ agent]).put id
    (if message.header.type = .rmaAck then agent else agent.working false)

end World

namespace Listener

theorem holds_readRest (id : Nat) (messages : List Incoming) : (readRest id messages).holds = [id] := by
  cases messages <;> rfl

theorem blocks_readRest (id : Nat) (messages : List Incoming) : (readRest id messages).blocks = [id] := by
  cases messages <;> rfl

theorem holds_after (task : Task) (id : Nat) (rc : DefwRc) : (after task id rc).holds = task.holds id := by
  cases task with
  | fresh =>
    simp only [after]
    split <;> rfl
  | established rest =>
    simp only [after]
    split
    · rfl
    · exact holds_readRest id rest

theorem blocks_after (task : Task) (id : Nat) (rc : DefwRc) : (after task id rc).blocks ⊆ [id] := by
  cases task with
  | fresh =>
    simp only [after]
    split <;> simp [blocks]
  | established rest =>
    simp only [after]
    split
    · simp [blocks]
    · rw [blocks_readRest]
      exact List.Subset.refl _

/-- Where a helper begins that the iteration over the table calls on a block. -/
inductive Begins (id : Nat) (agent : Block) : Listener → Prop
  | greeting (hb : Option Incoming) (rpcReady : Bool) : Begins id agent (.greeting id hb rpcReady)
  | reading (messages : List Incoming) (known : messages ≠ [] → agent.isNew = false) :
      Begins id agent (.readRest id messages)
  | leaving (dead : Bool) (reason : Option String) : Begins id agent (.leaving (.established []) id dead reason)

theorem Begins.holds {id : Nat} {agent : Block} {next : Listener} (begins : Begins id agent next) : next.holds = [id] := by
  cases begins with
  | greeting => rfl
  | reading messages => exact holds_readRest id messages
  | leaving => rfl

theorem Begins.blocks {id : Nat} {agent : Block} {next : Listener} (begins : Begins id agent next) : next.blocks = [id] := by
  cases begins with
  | greeting => rfl
  | reading messages => exact blocks_readRest id messages
  | leaving => rfl

/-- How `process_new_agents_helper` goes on without the reference of the iteration. -/
inductive Greets (id : Nat) : Listener → Prop
  | reading (incoming : Incoming) : Greets id (.reading .fresh id incoming)
  | leaving (reason : Option String) : Greets id (.leaving .fresh id true reason)
  | idle : Greets id .idle

theorem Greets.holds {id : Nat} {next : Listener} (greets : Greets id next) : next.holds = [] := by
  cases greets <;> rfl

theorem Greets.blocks {id : Nat} {next : Listener} (greets : Greets id next) : next.blocks ⊆ [id] := by
  cases greets <;> simp [Listener.blocks]

theorem after_cases (task : Task) (id : Nat) (rc : DefwRc) :
    (task = .fresh ∧ after task id rc = .idle) ∨
    (task = .fresh ∧ rc ≠ .ok ∧ ∃ reason, after task id rc = .leaving .fresh id true reason) ∨
    (∃ rest, task = .established rest ∧ ∃ dead, after task id rc = .leaving (.established []) id dead none) ∨
    ∃ incoming rest later, task = .established rest ∧ after task id rc = .reading (.established later) id incoming := by
  cases task with
  | fresh =>
    by_cases ok : rc = .ok
    · exact .inl ⟨rfl, if_pos ok⟩
    · exact .inr (.inl ⟨rfl, ok, _, if_neg ok⟩)
  | established rest =>
    by_cases failure : rc.isFailure = true
    · exact .inr (.inr (.inl ⟨rest, rfl, true, if_pos failure⟩))
    · have next : after (.established rest) id rc = readRest id rest := if_neg failure
      rw [next]
      cases rest with
      | nil => exact .inr (.inr (.inl ⟨[], rfl, false, rfl⟩))
      | cons incoming later => exact .inr (.inr (.inr ⟨incoming, _, later, rfl, rfl⟩))

end Listener

namespace Process

/-- The block that a lookup of a sender finds. -/
def lookup (s : Process) : Action → Option Nat
  | .send remote blk => s.world.findAgentByUuidGlobal remote blk
  | .look blk => s.world.findAgentByBlkUuid blk
  | _ => none

theorem lookup_mem {s : Process} {action : Action} {id : Nat} (found : s.lookup action = some id) : id ∈ s.world.table := by
  cases action with
  | send remote blk => exact World.findAgentByUuidGlobal_mem found
  | look blk => exact (World.findAgent_mem found).1
  | _ => cases found

/-- What a step comes to, by the place of the thread that takes it. -/
inductive Took (s : Process) : Action → Process → Prop
  | tick (seconds : Nat) :
      Took s (.tick seconds) { s with world := { s.world with clock := s.world.clock + seconds } }
  | selectFails : Took s .selectFails { s with world := s.world.selectFails }
  | acceptNew (fd : Nat) (addr : Addr) (unknown : s.world.findAgentBlkByAddr addr = none) :
      Took s (.accept fd addr) { s with world := s.world.acceptedNew fd addr }
  | acceptKnown (fd : Nat) (addr : Addr) (id : Nat) (agent : Block) (known : s.world.findAgentBlkByAddr addr = some id)
      (found : s.world.blocks id = some agent) :
      Took s (.accept fd addr)
        { s with world := (s.world.establish fd).put id agent.acquired, listener := .accepted id fd }
  | visited (action : Action) (id : Nat) (agent touched : Block) (found : s.world.blocks id = some agent)
      (touch : touched = agent ∨ touched = agent.transmitted s.world.clock) (next : Listener) (begins : next.Begins id agent)
      (guard : s.Enabled action → s.listener = .idle ∧ id ∈ s.world.table)
      (greeting : s.Enabled action → ∀ hb rpcReady, next = .greeting id hb rpcReady → agent.isNew = true) :
      Took s action { s with world := s.world.put id touched.acquired, listener := next }
  | rested (place : s.listener = .idle) : Took s .proceed s
  | returned (id fd : Nat) (place : s.listener = .accepted id fd) (w' : World)
      (run : s.world.releaseAgentBlk id false = .ok w') :
      Took s .proceed { s with world := w', listener := .adopting id fd }
  | adopted (id fd : Nat) (place : s.listener = .adopting id fd) (agent : Block) (found : s.world.blocks id = some agent) :
      Took s .proceed { s with world := s.world.adopted id agent fd, listener := .idle }
  | greeted (id : Nat) (hb : Option Incoming) (rpcReady : Bool) (place : s.listener = .greeting id hb rpcReady) (w' : World)
      (run : s.world.releaseAgentConn id = .ok w') (next : Listener) (greets : next.Greets id) :
      Took s .proceed { s with world := w', listener := next }
  | refused (task : Task) (id : Nat) (incoming : Incoming) (place : s.listener = .reading task id incoming) (rc : DefwRc) :
      Took s .proceed { s with listener := .after task id rc }
  | heard (task : Task) (id : Nat) (incoming : Incoming) (place : s.listener = .reading task id incoming) (agent : Block)
      (found : s.world.blocks id = some agent) (hb : Session) :
      Took s .proceed { s with
        world := (s.world.notify (s.world.heardBy id agent hb).2).put id (s.world.heardBy id agent hb).1
        listener := .after task id .ok }
  | identified (task : Task) (id : Nat) (incoming : Incoming) (place : s.listener = .reading task id incoming)
      (agent : Block) (message : Message) (delivered : s.delivery .proceed = some (id, agent, message))
      (isSession : message.header.type = .sessionInfo) (valid : (Session.read message.body).isValid = true)
      (unknown : s.world.findAgentByUuidPassive (Session.read message.body).uuid = none) :
      Took s .proceed { s with
        world := s.world.identified id agent (Session.read message.body)
        listener := .after task id .ok }
  | matched (task : Task) (id : Nat) (incoming : Incoming) (place : s.listener = .reading task id incoming)
      (agent : Block) (message : Message) (delivered : s.delivery .proceed = some (id, agent, message))
      (isSession : message.header.type = .sessionInfo) (valid : (Session.read message.body).isValid = true) (existing : Nat)
      (known : Block) (matching : s.world.findAgentByUuidPassive (Session.read message.body).uuid = some existing)
      (there : s.world.blocks existing = some known) :
      Took s .proceed { s with
        world := s.world.put existing known.acquired
        listener := .merging task id existing (Session.read message.body) }
  | served (task : Task) (id : Nat) (incoming : Incoming) (place : s.listener = .reading task id incoming) (agent : Block)
      (found : s.world.blocks id = some agent) (message : Message) (rc : DefwRc) :
      Took s .proceed { s with world := s.world.served id agent message, listener := .after task id rc }
  | merged (task : Task) (id existing : Nat) (ses : Session) (place : s.listener = .merging task id existing ses)
      (agent known : Block) (found : s.world.blocks id = some agent) (there : s.world.blocks existing = some known) :
      Took s .proceed { s with
        world := s.world.mergedInto existing known agent ses
        listener := .merged task id existing }
  | matchReturned (task : Task) (id existing : Nat) (place : s.listener = .merged task id existing) (w' : World)
      (run : s.world.releaseAgentBlk existing false = .ok w') :
      Took s .proceed { s with world := w', listener := .duplicate task id existing }
  | dropped (task : Task) (id existing : Nat) (place : s.listener = .duplicate task id existing) (apart : id ≠ existing)
      (w' : World) (run : s.world.releaseAgentBlk id false = .ok w') :
      Took s .proceed { s with world := w', listener := .after task id .ok }
  | left (task : Task) (id : Nat) (dead : Bool) (reason : Option String) (place : s.listener = .leaving task id dead reason)
      (w' : World) (run : s.world.leave id dead reason = .ok w') :
      Took s .proceed { s with world := w', listener := .idle }
  | dialled (dial : Dial) (w' : World) (result : Option Nat)
      (dialled : s.world.Dialled ⟨s.requests, dial.uuid⟩ dial (w', result)) :
      Took s (.connect dial)
        { s with world := w', dialled := result.toList ++ s.dialled, requests := s.requests + 1 }
  | published (id : Nat) (agent : Block) (found : s.world.blocks id = some agent) (reported : Block × List Notice)
      (report : reported = agent.reportPeerReady s.world.uuid s.world.clock id "outbound-rpc-ready") :
      Took s (.publish id) { s with
        world := ((s.world.register id agent).notify reported.2).put id reported.1
        dialled := s.dialled.erase id }
  | missed (action : Action) (lookup : s.lookup action = none) : Took s action s
  | acquired (action : Action) (id : Nat) (lookup : s.lookup action = some id) (agent : Block)
      (found : s.world.blocks id = some agent) (stage : Stage) :
      Took s action { s with world := s.world.put id agent.acquired, sends := ⟨id, stage⟩ :: s.sends }
  | sent (send : Send) (net : Net) (next : Stage) :
      Took s (.advance send net) { s with sends := { send with stage := next } :: s.sends.erase send }
  | unplugged (send : Send) (net : Net) (place : send.stage = .found) (agent : Block)
      (found : s.world.blocks send.block = some agent) (closed : agent.rpcConnected = false) (failure : net.fd = none)
      (next : Stage) :
      Took s (.advance send net) { s with
        world := s.world.put send.block (agent.plugRpc none)
        sends := { send with stage := next } :: s.sends.erase send }
  | opened (send : Send) (net : Net) (place : send.stage = .found) (agent : Block)
      (found : s.world.blocks send.block = some agent) (closed : agent.rpcConnected = false) (fd : Nat)
      (success : net.fd = some fd) (flag : Bool) (next : Stage) :
      Took s (.advance send net) { s with
        world := (s.world.establish fd).put send.block ((agent.plugRpc (some fd)).rpcFlagged flag)
        sends := { send with stage := next } :: s.sends.erase send }
  | worked (send : Send) (net : Net) (agent : Block) (found : s.world.blocks send.block = some agent) (flag : Bool)
      (next : Stage) :
      Took s (.advance send net) { s with
        world := s.world.put send.block (agent.working flag)
        sends := { send with stage := next } :: s.sends.erase send }
  | released (send : Send) (net : Net) (dead : Bool) (place : send.stage = .leaving dead) (w' : World)
      (run : s.world.releaseAgentBlk send.block dead = .ok w') :
      Took s (.advance send net) { s with world := w', sends := s.sends.erase send }

variable {s s' : Process}

theorem visiting_ok_iff {id : Nat} {next : Block → Listener} : s.visiting id next = .ok s' ↔
    ∃ agent, s.world.blocks id = some agent ∧
      { s with world := s.world.put id agent.acquired, listener := next agent } = s' := by
  simp only [visiting, World.acquireAgentBlk, Except.bind_ok_iff, World.deref_ok_iff, World.edit_ok_iff, pure,
    Except.pure, Except.ok.injEq]
  constructor
  · rintro ⟨agent, found, _, ⟨other, same, rfl⟩, rfl⟩
    rw [found] at same
    cases same
    exact ⟨agent, found, rfl⟩
  · rintro ⟨agent, found, rfl⟩
    exact ⟨agent, found, _, ⟨agent, found, rfl⟩, rfl⟩

theorem visiting_took {action : Action} {id : Nat} {next : Block → Listener} (run : s.visiting id next = .ok s')
    (begins : ∀ agent, (next agent).Begins id agent) (guard : s.Enabled action → s.listener = .idle ∧ id ∈ s.world.table)
    (greeting : ∀ agent, s.world.blocks id = some agent → s.Enabled action →
      ∀ hb rpcReady, next agent = .greeting id hb rpcReady → agent.isNew = true) : Took s action s' := by
  obtain ⟨agent, found, rfl⟩ := visiting_ok_iff.mp run
  exact .visited action id agent agent found (.inl rfl) _ (begins agent) guard (greeting agent found)

theorem acquire_took {action : Action} {stage : Stage} (run : s.acquire (s.lookup action) stage = .ok s') :
    Took s action s' := by
  cases lookup : s.lookup action with
  | none =>
    rw [lookup] at run
    cases run
    exact .missed action lookup
  | some id =>
    rw [lookup] at run
    obtain ⟨w, acquired, result⟩ := Except.bind_ok_iff.mp run
    cases result
    obtain ⟨agent, present, rfl⟩ := World.edit_ok_iff.mp acquired
    exact .acquired action id lookup agent present stage

theorem receive_took {task : Task} {id : Nat} {incoming : Incoming} (place : s.listener = .reading task id incoming)
    (run : s.receive task id incoming = .ok s') : Took s .proceed s' := by
  obtain ⟨agent, found, rest⟩ := Except.bind_ok_iff.mp run
  have present := World.deref_ok_iff.mp found
  cases admission : incoming.admitted agent.remoteUuid with
  | error rc =>
    simp only [admission] at rest
    cases rest
    exact .refused task id incoming place rc
  | ok message =>
    have delivered : s.delivery .proceed = some (id, agent, message) :=
      delivery_eq_some_iff.mpr ⟨rfl, task, incoming, place, present, admission⟩
    simp only [admission] at rest
    split at rest
    · obtain ⟨⟨rc, w⟩, heard, result⟩ := Except.bind_ok_iff.mp rest
      cases result
      obtain ⟨other, there, rfl, rfl⟩ := World.processMsgHb_ok_iff.mp heard
      exact .heard task id incoming place other there _
    · next isSession =>
      split at rest
      · cases rest
        exact .refused task id incoming place .protoError
      · next valid =>
        have valid : (Session.read message.body).isValid = true := by simpa using valid
        split at rest
        · next existing matching =>
          obtain ⟨w, acquired, result⟩ := Except.bind_ok_iff.mp rest
          cases result
          obtain ⟨known, there, rfl⟩ := World.edit_ok_iff.mp acquired
          exact .matched task id incoming place agent message delivered isSession valid existing known matching there
        · next unknown =>
          obtain ⟨w, identified, result⟩ := Except.bind_ok_iff.mp rest
          cases result
          obtain ⟨other, there, rfl⟩ := World.identify_ok_iff.mp identified
          rw [present] at there
          cases there
          exact .identified task id incoming place agent message delivered isSession valid unknown
    · obtain ⟨⟨rc, w⟩, handed, result⟩ := Except.bind_ok_iff.mp rest
      cases result
      obtain ⟨other, there, rfl, rfl⟩ := World.processRpc_ok_iff.mp handed
      exact .served task id incoming place other there message _

theorem proceed_took (run : s.proceed = .ok s') : Took s .proceed s' := by
  unfold proceed at run
  split at run
  · next place =>
    cases run
    exact .rested place
  · next id fd place =>
    obtain ⟨w, released, result⟩ := Except.bind_ok_iff.mp run
    cases result
    exact .returned id fd place w released
  · next id fd place =>
    obtain ⟨w, adopted, result⟩ := Except.bind_ok_iff.mp run
    cases result
    obtain ⟨agent, found, rfl⟩ := World.adopt_ok_iff.mp adopted
    exact .adopted id fd place agent found
  · next id hb rpcReady place =>
    obtain ⟨w, released, rest⟩ := Except.bind_ok_iff.mp run
    split at rest
    · cases rest
      exact .greeted id _ rpcReady place w released _ (.reading _)
    · cases rest
      refine .greeted id _ rpcReady place w released _ ?_
      split
      · exact .leaving _
      · exact .idle
  · next task id incoming place => exact receive_took place run
  · next task id existing ses place =>
    obtain ⟨w, merged, result⟩ := Except.bind_ok_iff.mp run
    cases result
    obtain ⟨agent, known, found, there, rfl⟩ := World.mergeSession_ok_iff.mp merged
    exact .merged task id existing ses place agent known found there
  · next task id existing place =>
    obtain ⟨w, released, result⟩ := Except.bind_ok_iff.mp run
    cases result
    exact .matchReturned task id existing place w released
  · next task id existing place =>
    split at run
    · cases run
    · next apart =>
      obtain ⟨w, released, result⟩ := Except.bind_ok_iff.mp run
      cases result
      exact .dropped task id existing place apart w released
  · next task id dead reason place =>
    obtain ⟨w, left, result⟩ := Except.bind_ok_iff.mp run
    cases result
    exact .left task id dead reason place w left

theorem advance_took {send : Send} {net : Net} {w : World} {rest : Option Send}
    (run : s.world.advance send net = .ok (w, rest)) :
    Took s (.advance send net) { s with world := w, sends := rest.toList ++ s.sends.erase send } := by
  unfold World.advance at run
  split at run
  · next place =>
    obtain ⟨⟨opened, stage⟩, channel, result⟩ := Except.bind_ok_iff.mp run
    cases result
    obtain ⟨agent, found, rest⟩ := Except.bind_ok_iff.mp channel
    have present := World.deref_ok_iff.mp found
    split at rest
    · cases rest
      exact .sent send net .opened
    · next closed =>
      have closed : agent.rpcConnected = false := by simpa using closed
      split at rest
      · next failure =>
        cases rest
        exact .unplugged send net place agent present closed failure _
      · next fd success =>
        simp only [] at rest
        split at rest
        · cases rest
          exact .opened send net place agent present closed fd success true .opened
        · cases rest
          have same : agent.plugRpc (some fd) = (agent.plugRpc (some fd)).rpcFlagged false := by
            rw [← closed]
            rfl
          rw [same]
          exact .opened send net place agent present closed fd success false _
  · obtain ⟨working, edited, result⟩ := Except.bind_ok_iff.mp run
    cases result
    obtain ⟨agent, found, rfl⟩ := World.edit_ok_iff.mp edited
    exact .worked send net agent found true .sending
  · cases run
    exact .sent send net _
  · next dead _ =>
    obtain ⟨rested, edited, result⟩ := Except.bind_ok_iff.mp run
    cases result
    obtain ⟨agent, found, rfl⟩ := World.edit_ok_iff.mp edited
    exact .worked send net agent found false (.leaving dead)
  · next dead place =>
    obtain ⟨left, released, result⟩ := Except.bind_ok_iff.mp run
    cases result
    exact .released send net dead place _ released

/-- Every step comes to one of these. -/
theorem step_took {action : Action} (absent : s.world.nextBlock ∉ s.world.table) (run : s.step action = .ok s') :
    Took s action s' := by
  cases action with
  | tick seconds =>
    cases run
    exact .tick seconds
  | selectFails =>
    cases run
    exact .selectFails
  | accept fd addr =>
    simp only [step] at run
    split at run
    · next unknown =>
      obtain ⟨w, adopted, result⟩ := Except.bind_ok_iff.mp run
      cases result
      obtain ⟨agent, found, rfl⟩ := World.adopt_ok_iff.mp adopted
      have fresh : agent = Block.fresh addr s.world.clock := by
        have placed : ((s.world.establish fd).allocAgentBlk addr true).blocks s.world.nextBlock =
            some (Block.fresh addr s.world.clock) := World.blocks_put_self
        exact Option.some.inj (found.symm.trans placed)
      subst fresh
      exact .acceptNew fd addr unknown
    · next id known =>
      obtain ⟨w, acquired, result⟩ := Except.bind_ok_iff.mp run
      cases result
      obtain ⟨agent, found, rfl⟩ := World.edit_ok_iff.mp acquired
      exact .acceptKnown fd addr id agent known found
  | newAgent id hb rpcReady =>
    refine visiting_took run (fun _ => .greeting hb rpcReady) (fun enabled => ⟨enabled.1, enabled.2.1⟩) ?_
    intro agent found enabled _ _ _
    have isNew := enabled.2.2.1
    rwa [found] at isNew
  | visit id hb rpc =>
    refine visiting_took run (fun agent => .reading _ fun some => ?_) (fun enabled => ⟨enabled.1, enabled.2.1⟩) ?_
    · by_contra isNew
      simp [isNew] at some
    · intro agent _ _ first second same
      split at same
      · cases same
      · generalize hb.toList ++ rpc.toList = messages at same
        cases messages <;> cases same
  | livenessCheck id t =>
    exact visiting_took run (fun agent => .leaving _ _) (fun enabled => ⟨enabled.1, enabled.2.1⟩) fun _ _ _ _ _ same => Listener.noConfusion same
  | sendHb id rc =>
    obtain ⟨agent, _, rest⟩ := Except.bind_ok_iff.mp run
    split_ifs at rest
    · exact visiting_took rest (fun agent => .leaving _ _) (fun enabled => enabled) fun _ _ _ _ _ same => Listener.noConfusion same
    · exact visiting_took rest (fun agent => .leaving _ _) (fun enabled => enabled) fun _ _ _ _ _ same => Listener.noConfusion same
    · obtain ⟨w, edited, visited⟩ := Except.bind_ok_iff.mp rest
      obtain ⟨before, found, rfl⟩ := World.edit_ok_iff.mp edited
      obtain ⟨after, there, rfl⟩ := visiting_ok_iff.mp visited
      rw [World.blocks_put_self] at there
      cases there
      rw [World.put_put]
      exact .visited (.sendHb id rc) id before (before.transmitted s.world.clock) found (.inr rfl) _ (.leaving _ _)
        (fun enabled => enabled) fun _ _ _ same => Listener.noConfusion same
  | proceed => exact proceed_took run
  | connect dial =>
    cases run
    exact .dialled dial _ _ (s.world.connectToAgentThread_dialled _ dial absent)
  | publish id =>
    obtain ⟨w, published, result⟩ := Except.bind_ok_iff.mp run
    cases result
    obtain ⟨agent, found, reported⟩ := Except.bind_ok_iff.mp published
    have present := World.deref_ok_iff.mp found
    obtain ⟨other, there, rfl⟩ := World.reportPeerReady_ok_iff.mp reported
    have same : other = agent := Option.some.inj (there.symm.trans present)
    subst same
    exact .published id other present _ rfl
  | send remote blk => exact acquire_took run
  | look blk => exact acquire_took run
  | advance send net =>
    obtain ⟨⟨w, rest⟩, advanced, result⟩ := Except.bind_ok_iff.mp run
    cases result
    exact advance_took advanced

end Process

end DEFw.Agents
