import DEFw.Agents.Release
import DEFw.Agents.Process

namespace DEFw.Agents
open Transport (Uuid Frame)

namespace Block

theorem completePendingConnect_eq (agent : Block) (status : DefwRc) : agent.completePendingConnect status =
    ({ agent with connectReq := none }, agent.connectReq.toList.map (fun req => .connectStatus req status)) := by
  unfold completePendingConnect
  cases pending : agent.connectReq with
  | none =>
    have same : { agent with connectReq := none } = agent := by rw [← pending]
    simp [same]
  | some req => rfl

/-- The block of a peer that is reported ready in the process `self`. -/
def announced (self : Uuid) (agent : Block) : Block :=
  { agent with
    readyReported := true
    lifecycle := .ready
    heartbeatMode := if !self.isNull && decide (agent.remoteUuid = self) then .none else .remote }

theorem reportPeerReady_of_silent {self : Uuid} {now id : Nat} {agent : Block} {reason : String}
    (silent : agent.readyToReport = false ∨ agent.readyReported = true) :
    agent.reportPeerReady self now id reason = (agent, []) := by
  unfold reportPeerReady
  rcases silent with early | late
  · simp [early]
  · simp [late]

theorem reportPeerReady_of_due {self : Uuid} {now id : Nat} {agent : Block} {reason : String}
    (due : agent.readyToReport = true) (unreported : agent.readyReported = false) :
    agent.reportPeerReady self now id reason =
      ({ agent.announced self with connectReq := none },
        .peerEvent (fillPeerEvent self now id { agent with readyReported := true } .ready reason) (agent.announced self) ::
          agent.connectReq.toList.map (fun req => .connectStatus req .ok)) := by
  have known : agent.remoteUuid.isNull = false := by
    simp only [readyToReport, Bool.and_eq_true] at due
    simpa using due.1.1
  unfold reportPeerReady
  simp only [due, unreported, completePendingConnect_eq]
  simp [announced, fillPeerEvent, known]

end Block

/-- A change of a block that reports nothing, keeps its references, and connects
its control channel only with the end of `DEFW_AGENT_STATE_NEW`. -/
structure Block.Steady (agent after : Block) : Prop where
  refCount : after.refCount = agent.refCount := by rfl
  isDead : after.isDead = agent.isDead := by rfl
  readyReported : after.readyReported = agent.readyReported := by rfl
  lostReported : after.lostReported = agent.lostReported := by rfl
  removedReported : after.removedReported = agent.removedReported := by rfl
  isNew : after.isNew = true → agent.isNew = true := by exact fun isNew => isNew
  control : after.cntrlConnected = true → after.isNew = false ∨ agent.cntrlConnected = true := by exact Or.inr

/-- What the frames of a step may do: give a block a uuid, and reach a handler. -/
structure Licence where
  rename : Block → Uuid → Prop
  hand : Block → Frame → Prop

/-- A notice of the connect thread. -/
def Notice.isAnswer : Notice → Bool
  | connectStatus _ _ => true
  | dialling _ _ => true
  | _ => false

/-- What a step does to the blocks and to what is notified, piece by piece. -/
inductive Effect (licence : Licence) (w : World) : World → Prop
  | wires (w' : World) (blocks : w'.blocks = w.blocks) (nextBlock : w'.nextBlock = w.nextBlock)
      (notices : w'.notices = w.notices) : Effect licence w w'
  | edit (id : Nat) (agent after : Block) (found : w.blocks id = some agent) (steady : agent.Steady after)
      (named : after.remoteUuid = agent.remoteUuid ∨ licence.rename agent after.remoteUuid) :
      Effect licence w (w.put id after)
  | ready (id : Nat) (reason : String) (w' : World) (run : w.reportPeerReady id reason = .ok w') : Effect licence w w'
  | hand (id : Nat) (agent : Block) (found : w.blocks id = some agent) (frame : Frame) (allowed : licence.hand agent frame) :
      Effect licence w (w.notify [.handed id frame agent])
  | acquire (id : Nat) (w' : World) (run : w.acquireAgentBlk id = .ok w') : Effect licence w w'
  | release (id : Nat) (dead : Bool) (w' : World) (run : w.releaseAgentBlk id dead = .ok w') : Effect licence w w'
  | releaseConn (id : Nat) (w' : World) (run : w.releaseAgentConn id = .ok w') : Effect licence w w'
  | alloc (addr : Addr) (add : Bool) : Effect licence w (w.allocAgentBlk addr add)
  | discard (id : Nat) (agent : Block) (found : w.blocks id = some agent) (unreported : agent.readyReported = false) :
      Effect licence w (w.freeAgentBlk id)
  | tell (notices : List Notice) (answers : ∀ notice ∈ notices, notice.isAnswer = true) :
      Effect licence w (w.notify notices)

abbrev Effects (licence : Licence) : World → World → Prop := Relation.ReflTransGen (Effect licence)

namespace Effects

open Relation.ReflTransGen

variable {licence : Licence} {w w' : World} {id : Nat}

theorem edit_ok {change : Block → Block} (run : w.edit id change = .ok w')
    (steady : ∀ agent, Block.Steady agent (change agent))
    (named : ∀ agent, (change agent).remoteUuid = agent.remoteUuid) : Effects licence w w' := by
  obtain ⟨agent, found, rfl⟩ := World.edit_ok_iff.mp run
  exact single (.edit id agent _ found (steady agent) (.inl (named agent)))

theorem leave {dead : Bool} {reason : Option String} (run : w.leave id dead reason = .ok w') : Effects licence w w' := by
  cases reason with
  | none => exact single (.release id dead w' run)
  | some reason =>
    obtain ⟨marked, edited, released⟩ := Except.bind_ok_iff.mp run
    have failing : Effects licence w marked :=
      edit_ok edited (fun agent => {}) (fun _ => rfl)
    exact failing.tail (.release _ dead w' released)

theorem wires (blocks : w'.blocks = w.blocks) (nextBlock : w'.nextBlock = w.nextBlock)
    (notices : w'.notices = w.notices) : Effects licence w w' := single (.wires w' blocks nextBlock notices)

theorem listenerReportPeerReady {reason : String} (run : w.listenerReportPeerReady id reason = .ok w') :
    Effects licence w w' := by
  obtain ⟨agent, found, rest⟩ := Except.bind_ok_iff.mp run
  split at rest
  · have active : Effects licence w (w.put id { agent with lastControlActivity := w.clock }) :=
      single (.edit id agent _ (World.deref_ok_iff.mp found)
        {} (.inl rfl))
    exact active.tail (.ready id reason w' rest)
  · cases rest
    exact refl

theorem listenerResumeFd (slot : Option Nat) : Effects licence w (w.listenerResumeFd slot) := by
  cases slot with
  | none => exact refl
  | some fd => exact wires rfl rfl rfl

theorem mergeSession {existing : Nat} {ses : Session} (run : w.mergeSession id existing ses = .ok w') :
    Effects licence w w' := by
  obtain ⟨agent, _, rest⟩ := Except.bind_ok_iff.mp run
  split at rest
  · obtain ⟨attached, edited, reported⟩ := Except.bind_ok_iff.mp rest
    have moved : Effects licence w attached :=
      edit_ok edited (fun known => {}) (fun _ => rfl)
    exact moved.trans (listenerReportPeerReady reported)
  · obtain ⟨attached, edited, rest⟩ := Except.bind_ok_iff.mp rest
    obtain ⟨known, _, reported⟩ := Except.bind_ok_iff.mp rest
    have moved : Effects licence w attached :=
      edit_ok edited (fun known => { isNew := nofun, control := fun _ => .inl rfl }) (fun _ => rfl)
    exact (moved.trans (listenerResumeFd known.iRpcFd)).trans (listenerReportPeerReady reported)

theorem listenerSuspendFd (slot : Option Nat) : Effects licence w (w.listenerSuspendFd slot) := by
  cases slot with
  | none => exact refl
  | some fd => exact wires rfl rfl rfl

theorem identify {ses : Session} (run : w.identify id ses = .ok w')
    (allowed : ∀ agent, w.blocks id = some agent → licence.rename agent ses.uuid) : Effects licence w w' := by
  obtain ⟨agent, found, rest⟩ := Except.bind_ok_iff.mp run
  have present := World.deref_ok_iff.mp found
  have named := allowed agent present
  split at rest
  · cases rest
    have learned : Effects licence w (w.put id (agent.learn ses w.clock).becomeRpc) :=
      single (.edit id agent _ present {} (.inr named))
    exact learned.trans (listenerSuspendFd _)
  · cases rest
    exact single (.edit id agent _ present { isNew := nofun, control := fun _ => .inl rfl } (.inr named))

theorem processMsgHb {hb : Session} {rc : DefwRc} (run : w.processMsgHb id hb = .ok (rc, w'))
    (allowed : ∀ agent, w.blocks id = some agent → agent.remoteUuid.isNull = true → licence.rename agent hb.uuid) :
    Effects licence w w' := by
  obtain ⟨agent, found, rest⟩ := Except.bind_ok_iff.mp run
  have present := World.deref_ok_iff.mp found
  have heard : Effects licence w (w.put id (agent.heard hb w.clock)) := by
    refine single (.edit id agent _ present {} ?_)
    by_cases null : agent.remoteUuid.isNull = true
    · have learned : (agent.heard hb w.clock).remoteUuid = hb.uuid := if_pos null
      rw [learned]
      exact .inr (allowed agent present null)
    · exact .inl (if_neg null)
  split at rest
  · obtain ⟨reported, ready, result⟩ := Except.bind_ok_iff.mp rest
    cases result
    exact heard.tail (.ready id _ w' ready)
  · cases rest
    exact heard

theorem processRpc {message : Message} {rc : DefwRc} (run : w.processRpc id message = .ok (rc, w'))
    (allowed : ∀ agent, w.blocks id = some agent →
      licence.hand agent ⟨message.header.type, message.header.sender, message.body⟩) : Effects licence w w' := by
  obtain ⟨agent, found, rest⟩ := Except.bind_ok_iff.mp run
  have present := World.deref_ok_iff.mp found
  have handed : Effects licence w (w.notify [.handed id ⟨message.header.type, message.header.sender, message.body⟩ agent]) :=
    single (.hand id agent present _ (allowed agent present))
  cases rest
  split
  · exact handed
  · exact handed.tail (.edit id agent _ present {} (.inl rfl))

theorem adopt {fd : Nat} (run : w.adopt id fd = .ok w') : Effects licence w w' := by
  obtain ⟨adopted, edited, result⟩ := Except.bind_ok_iff.mp run
  cases result
  have stored : Effects licence w adopted :=
    edit_ok edited (fun agent => {}) (fun _ => rfl)
  exact stored.trans (wires rfl rfl rfl)

theorem discard {agent : Block} (found : w.blocks id = some agent) (unreported : agent.readyReported = false) :
    Effects licence w (w.freeAgentBlk id) := single (.discard id agent found unreported)

theorem failConnect (req : ConnectReq) (rc : DefwRc) : Effects licence w (w.failConnect req rc) := by
  refine single (.tell _ fun notice member => ?_)
  rw [List.mem_singleton.mp member]
  rfl

/-- The block of the connect thread ends without a report, whatever the thread
has filled in. -/
theorem abandon {agent before : Block} (found : w.blocks id = some before) (unreported : before.readyReported = false)
    (req : ConnectReq) (rc : DefwRc) : Effects licence w (w.abandon id agent req rc) := by
  obtain ⟨highest, _, closed⟩ := World.closeAgentConnection_eq w id agent
  have shed : Effects licence w (w.shed agent.fds highest) := wires rfl rfl rfl
  have freed : Effects licence w ((w.shed agent.fds highest).freeAgentBlk id) :=
    shed.trans (discard (w := w.shed agent.fds highest) found unreported)
  rw [World.abandon, closed, World.free_put]
  exact freed.trans (failConnect req rc)

theorem dialRpc {agent before : Block} (found : w.blocks id = some before) (steady : before.Steady agent)
    (named : agent.remoteUuid = before.remoteUuid) (upgraded : agent.isNew = false)
    (unreported : before.readyReported = false) (req : ConnectReq) (dial : Dial) (rc : DefwRc) :
    Effects licence w (w.dialRpc id agent req dial rc).1 := by
  unfold World.dialRpc
  cases rpc : dial.rpc with
  | none => exact abandon found unreported req rc
  | some fd =>
    have opened : Effects licence w (w.establish fd) := wires rfl rfl rfl
    by_cases sent : dial.rpcSession = .ok
    · simp only [if_pos sent]
      exact opened.tail (.edit id before _ found { steady with control := fun _ => .inl upgraded } (.inl named))
    · simp only [if_neg sent]
      exact opened.trans (abandon (w := w.establish fd) found unreported req dial.rpcSession)

theorem dialControl {agent : Block} (found : w.blocks id = some agent) (unreported : agent.readyReported = false)
    (req : ConnectReq) (dial : Dial) : Effects licence w (w.dialControl id agent req dial).1 := by
  unfold World.dialControl
  cases control : dial.control with
  | none => exact (discard found unreported).trans (failConnect req _)
  | some fd =>
    have opened : Effects licence w (w.establish fd) := wires rfl rfl rfl
    by_cases sent : dial.controlSession = .ok
    · simp only [if_pos sent]
      refine opened.trans (dialRpc (w := w.establish fd) found ?_ ?_ rfl unreported req dial dial.controlSession)
      rotate_left
      · rfl
      exact { isNew := nofun, control := fun _ => .inl rfl }
    · simp only [if_neg sent]
      exact opened.trans (abandon (w := w.establish fd) found unreported req dial.controlSession)

theorem connectToAgentThread (req : ConnectReq) (dial : Dial) :
    Effects licence w (w.connectToAgentThread req dial).1 := by
  unfold World.connectToAgentThread
  cases dial.sinAddr with
  | none => exact failConnect req _
  | some sinAddr =>
    by_cases memory : (!dial.allocates) = true
    · simp only [if_pos memory]
      exact failConnect req _
    · simp only [if_neg memory]
      have allocated : Effects licence w (w.allocAgentBlk ⟨sinAddr, dial.port⟩ false) := single (.alloc _ false)
      have placed := allocated.tail (.edit w.nextBlock (Block.fresh ⟨sinAddr, dial.port⟩ w.clock)
        (Block.dialling ⟨sinAddr, dial.port⟩ w.clock dial req) World.blocks_put_self
        {} (.inl rfl))
      have told := placed.tail (.tell [.dialling req w.nextBlock] fun notice member => by
        rw [List.mem_singleton.mp member]
        rfl)
      refine told.trans (dialControl ?_ rfl req dial)
      exact World.blocks_put_self

theorem publish (run : w.publish id = .ok w') : Effects licence w w' := by
  obtain ⟨agent, _, reported⟩ := Except.bind_ok_iff.mp run
  have registered : Effects licence w (w.register id agent) := wires rfl rfl rfl
  exact registered.tail (.ready id _ w' reported)

theorem openRpcChannel {net : Net} {stage : Stage} (run : w.openRpcChannel id net = .ok (w', stage)) :
    Effects licence w w' := by
  obtain ⟨agent, found, rest⟩ := Except.bind_ok_iff.mp run
  have present := World.deref_ok_iff.mp found
  split at rest
  · cases rest
    exact refl
  · split at rest
    · cases rest
      exact single (.edit id agent (agent.plugRpc none) present {} (.inl rfl))
    · next fd _ =>
      have opened : Effects licence w (w.establish fd) := wires rfl rfl rfl
      simp only [] at rest
      split at rest
      · cases rest
        refine opened.tail (.edit id agent _ present ?_ (.inl ?_))
        · exact {}
        · rfl
      · cases rest
        exact opened.tail (.edit id agent (agent.plugRpc (some fd)) present {} (.inl rfl))

theorem advance {send : Send} {net : Net} {rest : Option Send} (run : w.advance send net = .ok (w', rest)) :
    Effects licence w w' := by
  unfold World.advance at run
  cases stage : send.stage with
  | found =>
    simp only [stage] at run
    obtain ⟨⟨opened, next⟩, channel, result⟩ := Except.bind_ok_iff.mp run
    cases result
    exact openRpcChannel channel
  | opened =>
    simp only [stage] at run
    obtain ⟨working, edited, result⟩ := Except.bind_ok_iff.mp run
    cases result
    exact edit_ok edited (fun agent => {}) (fun _ => rfl)
  | sending =>
    simp only [stage] at run
    cases run
    exact refl
  | finished dead =>
    simp only [stage] at run
    obtain ⟨rested, edited, result⟩ := Except.bind_ok_iff.mp run
    cases result
    exact edit_ok edited (fun agent => {}) (fun _ => rfl)
  | leaving dead =>
    simp only [stage] at run
    obtain ⟨left, released, result⟩ := Except.bind_ok_iff.mp run
    cases result
    exact single (.release _ dead _ released)

end Effects

namespace Process

variable {licence : Licence} {s s' : Process}

theorem delivery_eq_some_iff {action : Action} {id : Nat} {agent : Block} {message : Message} :
    s.delivery action = some (id, agent, message) ↔ action = .proceed ∧ ∃ task incoming,
      s.listener = .reading task id incoming ∧ s.world.blocks id = some agent ∧
        incoming.admitted agent.remoteUuid = .ok message := by
  constructor
  · intro delivered
    unfold delivery at delivered
    split at delivered
    · split at delivered
      · next task block incoming reading =>
        obtain ⟨found, present, rest⟩ := Option.bind_eq_some_iff.mp delivered
        obtain ⟨parsed, admission, result⟩ := Option.bind_eq_some_iff.mp rest
        cases result
        refine ⟨rfl, task, incoming, reading, present, ?_⟩
        cases admitted : incoming.admitted agent.remoteUuid with
        | error rc => simp [admitted, Except.toOption] at admission
        | ok other => simpa [admitted, Except.toOption] using admission
      · simp at delivered
    · simp at delivered
  · rintro ⟨rfl, task, incoming, reading, present, admission⟩
    simp [delivery, reading, present, admission, Except.toOption]

/-- What a licence has to allow for the message of a step to be processed. -/
structure Permits (licence : Licence) (s : Process) (action : Action) : Prop where
  rename : ∀ id agent message, s.delivery action = some (id, agent, message) →
    (message.header.type = .hb ∧ agent.remoteUuid.isNull = true) ∨
      (message.header.type = .sessionInfo ∧ (Session.read message.body).isValid = true ∧
        s.world.findAgentByUuidPassive (Session.read message.body).uuid = none) →
    licence.rename agent (Session.read message.body).uuid
  hand : ∀ id agent message, s.delivery action = some (id, agent, message) →
    message.header.type ≠ .hb → message.header.type ≠ .sessionInfo →
    licence.hand agent ⟨message.header.type, message.header.sender, message.body⟩

/-- Every step may be taken, whatever the frames say. -/
def anyFrame : Licence := ⟨fun _ _ => True, fun _ _ => True⟩

theorem anyFrame_permits {action : Action} : Permits anyFrame s action :=
  ⟨fun _ _ _ _ _ => trivial, fun _ _ _ _ _ _ => trivial⟩

theorem receive_effects {task : Task} {id : Nat} {incoming : Incoming} (reading : s.listener = .reading task id incoming)
    (permits : Permits licence s .proceed) (run : s.receive task id incoming = .ok s') :
    Effects licence s.world s'.world := by
  obtain ⟨agent, found, rest⟩ := Except.bind_ok_iff.mp run
  have present := World.deref_ok_iff.mp found
  have unique : ∀ other, s.world.blocks id = some other → other = agent := by
    intro other there
    rw [present] at there
    exact (Option.some.inj there).symm
  cases admission : incoming.admitted agent.remoteUuid with
  | error rc =>
    simp only [admission] at rest
    cases rest
    exact .refl
  | ok message =>
    have delivered : s.delivery .proceed = some (id, agent, message) :=
      delivery_eq_some_iff.mpr ⟨rfl, task, incoming, reading, present, admission⟩
    simp only [admission] at rest
    split at rest
    · next isHb =>
      obtain ⟨⟨rc, w⟩, heard, result⟩ := Except.bind_ok_iff.mp rest
      cases result
      refine Effects.processMsgHb heard fun other there null => ?_
      rw [unique other there] at null ⊢
      exact permits.rename id agent message delivered (.inl ⟨isHb, null⟩)
    · next isSession =>
      by_cases valid : (Session.read message.body).isValid = true
      · rw [if_neg (by simpa using valid)] at rest
        split at rest
        · obtain ⟨w, acquired, result⟩ := Except.bind_ok_iff.mp rest
          cases result
          exact .single (.acquire _ _ acquired)
        · next unknown =>
          obtain ⟨w, identified, result⟩ := Except.bind_ok_iff.mp rest
          cases result
          refine Effects.identify identified fun other there => ?_
          rw [unique other there]
          exact permits.rename id agent message delivered (.inr ⟨isSession, valid, unknown⟩)
      · rw [if_pos (by simpa using valid)] at rest
        cases rest
        exact .refl
    · next notHb notSession =>
      obtain ⟨⟨rc, w⟩, handed, result⟩ := Except.bind_ok_iff.mp rest
      cases result
      refine Effects.processRpc handed fun other there => ?_
      rw [unique other there]
      exact permits.hand id agent message delivered notHb notSession

theorem proceed_effects (permits : Permits licence s .proceed) (run : s.proceed = .ok s') :
    Effects licence s.world s'.world := by
  unfold proceed at run
  split at run
  · cases run
    exact .refl
  · obtain ⟨w, released, result⟩ := Except.bind_ok_iff.mp run
    cases result
    exact .single (.release _ false _ released)
  · obtain ⟨w, adopted, result⟩ := Except.bind_ok_iff.mp run
    cases result
    exact Effects.adopt adopted
  · obtain ⟨w, released, rest⟩ := Except.bind_ok_iff.mp run
    have returned : Effects licence s.world w := .single (.releaseConn _ _ released)
    split at rest
    · cases rest
      exact returned
    · cases rest
      exact returned
  · next reading => exact receive_effects reading permits run
  · obtain ⟨w, merged, result⟩ := Except.bind_ok_iff.mp run
    cases result
    exact Effects.mergeSession merged
  · obtain ⟨w, released, result⟩ := Except.bind_ok_iff.mp run
    cases result
    exact .single (.release _ false _ released)
  · split at run
    · cases run
    · obtain ⟨w, released, result⟩ := Except.bind_ok_iff.mp run
      cases result
      exact .single (.release _ false _ released)
  · obtain ⟨w, left, result⟩ := Except.bind_ok_iff.mp run
    cases result
    exact Effects.leave left

theorem visiting_effects {id : Nat} {next : Block → Listener} (run : s.visiting id next = .ok s') :
    Effects licence s.world s'.world := by
  obtain ⟨agent, _, rest⟩ := Except.bind_ok_iff.mp run
  obtain ⟨w, acquired, result⟩ := Except.bind_ok_iff.mp rest
  cases result
  exact .single (.acquire id _ acquired)

theorem acquire_effects {found : Option Nat} {stage : Stage} (run : s.acquire found stage = .ok s') :
    Effects licence s.world s'.world := by
  cases found with
  | none =>
    cases run
    exact .refl
  | some id =>
    obtain ⟨w, acquired, result⟩ := Except.bind_ok_iff.mp run
    cases result
    exact .single (.acquire id _ acquired)

/-- Every step is made of such effects. -/
theorem step_effects {action : Action} (permits : Permits licence s action) (run : s.step action = .ok s') : Effects licence s.world s'.world := by
  cases action with
  | tick seconds =>
    cases run
    exact Effects.wires rfl rfl rfl
  | selectFails =>
    cases run
    exact Effects.wires rfl rfl rfl
  | accept fd addr =>
    have opened : Effects licence s.world (s.world.establish fd) := Effects.wires rfl rfl rfl
    simp only [step] at run
    split at run
    · obtain ⟨w, adopted, result⟩ := Except.bind_ok_iff.mp run
      cases result
      exact (opened.tail (.alloc addr true)).trans (Effects.adopt adopted)
    · obtain ⟨w, acquired, result⟩ := Except.bind_ok_iff.mp run
      cases result
      exact opened.tail (.acquire _ _ acquired)
  | newAgent id hb rpcReady => exact visiting_effects run
  | visit id hb rpc => exact visiting_effects run
  | livenessCheck id t => exact visiting_effects run
  | sendHb id rc =>
    obtain ⟨agent, _, rest⟩ := Except.bind_ok_iff.mp run
    split_ifs at rest
    · exact visiting_effects rest
    · exact visiting_effects rest
    · obtain ⟨w, edited, visited⟩ := Except.bind_ok_iff.mp rest
      have sent : Effects licence s.world w := Effects.edit_ok edited (fun _ => {}) (fun _ => rfl)
      exact sent.trans (visiting_effects visited)
  | proceed => exact proceed_effects permits run
  | connect dial =>
    cases run
    exact Effects.connectToAgentThread _ dial
  | publish id =>
    obtain ⟨w, published, result⟩ := Except.bind_ok_iff.mp run
    cases result
    exact Effects.publish published
  | send remote blk => exact acquire_effects run
  | look blk => exact acquire_effects run
  | advance send net =>
    obtain ⟨⟨w, rest⟩, advanced, result⟩ := Except.bind_ok_iff.mp run
    cases result
    exact Effects.advance advanced

end Process

end DEFw.Agents
