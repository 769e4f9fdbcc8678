import DEFw.Workers.Correlation

namespace DEFw.Workers

/-- The next part of a blocking call goes well: a send is encoded and sent, and has its
event before its deadline; a connect is refused by the C layer. -/
def Caller.clean (caller : Caller) (choice : Choice) : Bool :=
  match caller.request.blocking, caller.stage with
  | true, .preparing => choice.raises.isNone
  | true, .sending => choice.rc = if caller.request.wrType = .sendMsg then .ok else .failed
  | true, .waiting t => t < caller.request.deadline
  | _, _ => true

/-- All calls go well, and nothing shuts down. -/
def Clean (s : State) : Action → Prop
  | .proceed uuid choice => (s.callers.get? uuid).all (fun caller => caller.clean choice) = true
  | .put event => event ≠ .shutdown
  | .systemShutdown => False
  | _ => True

instance : ∀ s action, Decidable (Clean s action)
  | s, .proceed uuid choice => inferInstanceAs (Decidable ((s.callers.get? uuid).all (fun caller => caller.clean choice) = true))
  | _, .put event => inferInstanceAs (Decidable (event ≠ .shutdown))
  | _, .systemShutdown => isFalse id
  | _, .call _ _ _ _ _ => isTrue trivial
  | _, .work => isTrue trivial
  | _, .tick => isTrue trivial

/-- The call has returned or raised. -/
def Stage.isEnded : Stage → Bool
  | .ended _ => true
  | _ => false

/-- The call waits for an event. -/
def Stage.isWaiting : Stage → Bool
  | .waiting _ | .getting => true
  | _ => false

/-- While nothing shuts down and no connect waits, no request of a call that has ended
is in the table. -/
structure Tidy (s : State) (log : List Entry) : Prop where
  live : s.live = true
  up : s.systemUp = true
  events : ∀ item ∈ s.queue, item.event ≠ .shutdown
  queues : ∀ uuid caller item, s.callers.get? uuid = some caller → item ∈ caller.queue → .delivered uuid item ∈ log
  waits : ∀ uuid caller, s.callers.get? uuid = some caller → caller.stage.isWaiting = true →
    caller.request.wrType = .sendMsg
  ended : ∀ uuid caller, s.callers.get? uuid = some caller → caller.stage.isEnded = true → s.reqDb.get? uuid = none

namespace Tidy

variable {s : State} {log : List Entry} {uuid : Nat} {caller : Caller}

/-- A call goes on, and may change the table at its own request. -/
theorem moved (was : Tidy s log) (uuid : Nat) (next : Caller) (db : Dict Nat WorkerRequest) {later : List Entry}
    (logged : ∀ entry ∈ log, entry ∈ later) (queue : ∀ item ∈ next.queue, .delivered uuid item ∈ later)
    (waits : next.stage.isWaiting = true → next.request.wrType = .sendMsg)
    (ended : next.stage.isEnded = true → db.get? uuid = none)
    (others : ∀ other, other ≠ uuid → s.reqDb.get? other = none → db.get? other = none) :
    Tidy { s with callers := s.callers.set uuid next, reqDb := db } later := by
  refine ⟨was.live, was.up, was.events, fun other now item found member => ?_, fun other now found => ?_,
    fun other now found done => ?_⟩
  · rw [Dict.get?_set] at found
    split at found
    next same =>
      cases found
      exact same ▸ queue item member
    next => exact logged _ (was.queues other now item found member)
  · rw [Dict.get?_set] at found
    split at found
    · cases found
      exact waits
    · exact was.waits other now found
  · rw [Dict.get?_set] at found
    split at found
    next same =>
      cases found
      exact same ▸ ended done
    next different => exact others other different (was.ended other now found done)

theorem goto (was : Tidy s log) (found : s.callers.get? uuid = some caller) {stage : Stage}
    (waits : stage.isWaiting = true → caller.request.wrType = .sendMsg)
    (ended : stage.isEnded = true → s.reqDb.get? uuid = none) : Tidy (s.goto uuid caller stage) log :=
  was.moved uuid { caller with stage := stage } s.reqDb (fun _ => id) (was.queues uuid caller · found) waits ended fun _ _ => id

/-- A call that does not wait has no entry in the table. -/
theorem unlisted (correlated : Correlated s log) (found : s.callers.get? uuid = some caller)
    (waitless : caller.request.blocking = false) : s.reqDb.get? uuid = none := by
  cases listed : s.reqDb.get? uuid with
  | none => rfl
  | some request =>
    obtain ⟨other, there, -, registered⟩ := correlated.listed uuid request listed
    cases there.symm.trans found
    simp [Caller.registered, waitless] at registered

/-- A send that has its event is not in the table any more. -/
theorem answered (was : Tidy s log) (correlated : Correlated s log) (found : s.callers.get? uuid = some caller)
    (sends : caller.request.wrType = .sendMsg) {item : Item} (queued : item ∈ caller.queue) : s.reqDb.get? uuid = none := by
  cases listed : s.reqDb.get? uuid with
  | none => rfl
  | some request =>
    obtain ⟨-, unheard⟩ := correlated.live was.live uuid caller found sends (by simp [listed])
    have heard := mem_received.mpr (was.queues uuid caller item found queued)
    simp [unheard] at heard

theorem proceed (was : Tidy s log) (correlated : Correlated s log) (found : s.callers.get? uuid = some caller)
    {choice : Choice} (clean : caller.clean choice = true) :
    Tidy (s.proceed uuid caller choice).1 (log ++ (s.proceed uuid caller choice).2) := by
  have still : Tidy s (log ++ []) := (List.append_nil log).symm ▸ was
  have go {stage : Stage} (waits : stage.isWaiting = true → caller.request.wrType = .sendMsg)
      (ended : stage.isEnded = true → s.reqDb.get? uuid = none) : Tidy (s.goto uuid caller stage) (log ++ []) :=
    (List.append_nil log).symm ▸ was.goto found waits ended
  unfold State.proceed
  unfold Caller.clean at clean
  cases stage : caller.stage with
  | created =>
    simp only []
    split
    · exact go (by simp [Stage.isWaiting]) (by simp [Stage.isEnded])
    · split
      · exact still
      · refine was.moved uuid { caller with stage := .preparing } _ (fun _ => List.mem_append_left _)
          (fun item member => List.mem_append_left _ (was.queues uuid caller item found member)) (by simp [Stage.isWaiting])
          (by simp [Stage.isEnded]) fun other different absent => ?_
        rw [Dict.get?_set, if_neg different]
        exact absent
  | preparing =>
    cases raises : choice.raises with
    | none => exact go (by simp [Stage.isWaiting]) (by simp [Stage.isEnded])
    | some message =>
      have waitless : caller.request.blocking = false := by
        cases blocking : caller.request.blocking with
        | false => rfl
        | true => simp [stage, raises, blocking] at clean
      exact go (by simp [Stage.isWaiting]) fun _ => unlisted correlated found waitless
  | sending =>
    cases blocking : caller.request.blocking with
    | false =>
      have absent := unlisted correlated found blocking
      cases type : caller.request.wrType <;> cases choice.rc <;> exact go (by simp [Stage.isWaiting]) fun _ => absent
    | true =>
      have rc : choice.rc = if caller.request.wrType = .sendMsg then .ok else .failed := by
        simpa [stage, blocking] using clean
      cases type : caller.request.wrType with
      | sendMsg =>
        simp only [type, if_true] at rc
        simp only [rc]
        exact go (fun _ => type) (by simp [Stage.isEnded])
      | connect =>
        simp only [type, reduceCtorEq, if_false] at rc
        simp only [rc]
        exact go (by simp [Stage.isWaiting]) (by simp [Stage.isEnded])
  | removing rc =>
    simp only []
    split
    · exact still
    · refine was.moved uuid { caller with stage := .ended (.raised (.connectFailed rc)) } _ (fun _ => List.mem_append_left _)
        (fun item member => List.mem_append_left _ (was.queues uuid caller item found member)) (by simp [Stage.isWaiting])
        (fun _ => by simp [Dict.get?_erase]) fun other different absent => ?_
      rw [Dict.get?_erase, absent, ite_self]
  | waiting t =>
    have sends := was.waits uuid caller found (by simp [stage, Stage.isWaiting])
    cases blocking : caller.request.blocking with
    | true =>
      have early : t < caller.request.deadline := by simpa [stage, blocking] using clean
      simp only [early, if_true, was.up]
      exact go (fun _ => sends) (by simp [Stage.isEnded])
    | false =>
      have absent := unlisted correlated found blocking
      simp only [was.up, if_true]
      split
      · exact go (fun _ => sends) fun _ => absent
      · exact go (by simp [Stage.isWaiting]) fun _ => absent
  | getting =>
    have sends := was.waits uuid caller found (by simp [stage, Stage.isWaiting])
    cases queued : caller.queue with
    | nil => exact go (fun _ => sends) (by simp [Stage.isEnded])
    | cons item rest =>
      have member : item ∈ caller.queue := by simp [queued]
      refine was.moved uuid { caller with queue := rest, stage := .ended (State.awaited caller.request item) } s.reqDb
        (fun _ => List.mem_append_left _) (fun other member => ?_) (by simp [Stage.isWaiting])
        (fun _ => was.answered correlated found sends member) fun _ _ => id
      exact List.mem_append_left _ (was.queues uuid caller other found (by simp [queued, member]))
  | ended outcome => exact still

theorem work (was : Tidy s log) (correlated : Correlated s log) : Tidy s.work.1 (log ++ s.work.2) := by
  have still : Tidy s (log ++ []) := (List.append_nil log).symm ▸ was
  unfold State.work
  cases working : s.worker with
  | stopped => exact still
  | idle =>
    cases queued : s.queue with
    | nil => exact still
    | cons item rest =>
      have routed := routes s item.event
      refine ⟨?_, was.up, fun other member => was.events other (queued ▸ List.mem_cons_of_mem item member),
        fun uuid caller other found member => List.mem_append_left _ (was.queues uuid caller other found member), was.waits,
        fun uuid caller found done => ?_⟩
      · simpa [State.live] using was.events item (by simp [queued])
      · have absent := was.ended uuid caller found done
        by_cases member : uuid ∈ (s.route item.event).1
        · obtain ⟨request, present, -⟩ := routed.concerned uuid member
          simp [absent] at present
        · exact (routed.others uuid member).trans absent
  | delivering item targets =>
    have live : item.event ≠ .shutdown := by simpa [State.live, working] using was.live
    cases targets with
    | nil =>
      refine ⟨by simp [State.live, live], was.up, was.events,
        fun uuid caller other found member => List.mem_append_left _ (was.queues uuid caller other found member), was.waits,
        was.ended⟩
    | cons uuid rest =>
      obtain ⟨caller, found⟩ := Option.isSome_iff_exists.mp ((correlated.targeted item _ working).2 uuid List.mem_cons_self)
      simp only [found]
      have delivered := was.moved uuid { caller with queue := caller.queue ++ [item] } s.reqDb
        (fun _ => List.mem_append_left [Entry.delivered uuid item]) (fun other member => ?_) (was.waits uuid caller found)
        (was.ended uuid caller found) fun _ _ => id
      · exact ⟨by simpa [State.live] using live, delivered.up, delivered.events, delivered.queues, delivered.waits, delivered.ended⟩
      · rcases List.mem_append.mp member with before | new
        · exact List.mem_append_left _ (was.queues uuid caller other found before)
        · simp [List.mem_singleton.mp new]

theorem step (was : Tidy s log) (correlated : Correlated s log) {action : Action} (clean : Clean s action) :
    Tidy (step s action).1 (log ++ (step s action).2) := by
  have still : Tidy s (log ++ []) := (List.append_nil log).symm ▸ was
  cases action with
  | call wrType remoteUuid blkUuid blocking timeout =>
    have later := still.moved s.created ⟨⟨wrType, remoteUuid, blkUuid, blocking, s.now + timeout⟩, .created, []⟩ s.reqDb
      (fun _ => id) (by simp) (by simp [Stage.isWaiting]) (by simp [Stage.isEnded]) fun _ _ => id
    exact ⟨later.live, later.up, later.events, later.queues, later.waits, later.ended⟩
  | proceed uuid choice =>
    simp only [Workers.step]
    cases found : s.callers.get? uuid with
    | none => exact still
    | some caller => exact was.proceed correlated found (by simpa [Clean, found] using clean)
  | put event =>
    simp only [Workers.step]
    split
    · refine ⟨still.live, still.up, fun item member => ?_, still.queues, still.waits, still.ended⟩
      rcases List.mem_append.mp member with before | new
      · exact was.events item before
      · cases List.mem_singleton.mp new
        exact clean
    · exact still
  | systemShutdown => exact absurd clean id
  | tick => exact ⟨still.live, still.up, still.events, still.queues, still.waits, still.ended⟩
  | work => exact was.work correlated

end Tidy

theorem tidy_start : Tidy .start [] where
  live := rfl
  up := rfl
  events := by simp [State.start]
  queues := by simp [State.start]
  waits := by simp [State.start]
  ended := by simp [State.start]

/-- While every blocking send is encoded, sent and answered in time, every blocking
connect is refused by the C layer and nothing shuts down: the request of a call that has
returned or raised is not in the table, so the table is empty once all calls have. -/
theorem no_request_outlives_caller (actions : List Action) (clean : machine.Admits Clean .start actions) :
    let s := machine.final .start actions
    (∀ uuid caller, s.callers.get? uuid = some caller → caller.stage.isEnded = true → s.reqDb.get? uuid = none) ∧
    ((∀ caller ∈ s.callers.values, caller.stage.isEnded = true) → ∀ uuid, s.reqDb.get? uuid = none) := by
  intro s
  have holds := machine.run_invariant (fun s log => Correlated s log ∧ Tidy s log) ⟨correlated_start, tidy_start⟩
    (fun s log action was clean => ⟨was.1.step (was.1.steps action), was.2.step was.1 clean⟩) clean
  refine ⟨holds.2.ended, fun all uuid => ?_⟩
  cases listed : s.reqDb.get? uuid with
  | none => rfl
  | some request =>
    obtain ⟨caller, found, -⟩ := holds.1.listed uuid request listed
    have gone := holds.2.ended uuid caller found (all caller (Dict.mem_values_iff.mpr ⟨uuid, found⟩))
    exact absurd (listed.symm.trans gone) (by simp)

/-- A part of a call that raises nothing and gets this code. -/
def gets (uuid : Nat) (rc : Rc) : Action := .proceed uuid ⟨none, rc⟩

/-- A blocking send that is answered. -/
theorem no_request_outlives_answered_caller :
    let actions := [.call .sendMsg "server" "block" true 300, gets 0 .ok, gets 0 .ok, gets 0 .ok,
      .put (.incomingResponse (some 0)), .work, .work, .work, gets 0 .ok, gets 0 .ok]
    machine.Admits Clean .start actions ∧
    ((machine.final .start actions).callers.get? 0).map Caller.stage =
      some (.ended (.message ⟨0, .incomingResponse (some 0)⟩)) ∧
    ∀ uuid, (machine.final .start actions).reqDb.get? uuid = none := by
  intro actions
  have clean : machine.Admits Clean .start actions := by decide +kernel
  have ended : ∀ caller ∈ (machine.final .start actions).callers.values, caller.stage.isEnded = true := by decide +kernel
  exact ⟨clean, by decide +kernel, (no_request_outlives_caller actions clean).2 ended⟩

/-- The requests of calls that have ended stay in the table: of a send that cannot be
encoded, of one that cannot be sent, of one that is not answered in time, and of a
connect that succeeds. -/
theorem requests_outlive_callers :
    let unencoded := [Action.call .sendMsg "server" "block" true 300, gets 0 .ok,
      .proceed 0 ⟨some "cannot represent an object", .ok⟩]
    let unsent := [Action.call .sendMsg "server" "block" true 300, gets 0 .ok, gets 0 .ok, gets 0 .failed]
    let unanswered := [Action.call .sendMsg "server" "block" true 1, gets 0 .ok, gets 0 .ok, .tick, gets 0 .ok, gets 0 .ok]
    let connected := [Action.call .connect "" "" true 300, gets 0 .ok, gets 0 .ok, gets 0 .inProgress,
      .put (.connComplete 0 0), .work, .work, .work, gets 0 .ok, gets 0 .ok]
    ((machine.final .start unencoded).callers.get? 0).map Caller.stage =
      some (.ended (.raised (.unprepared "cannot represent an object"))) ∧
    ((machine.final .start unencoded).reqDb.get? 0).isSome ∧
    ((machine.final .start unsent).callers.get? 0).map Caller.stage = some (.ended (.raised (.sendingFailed .failed))) ∧
    ((machine.final .start unsent).reqDb.get? 0).isSome ∧
    ((machine.final .start unanswered).callers.get? 0).map Caller.stage = some (.ended (.raised .responseTimedOut)) ∧
    ((machine.final .start unanswered).reqDb.get? 0).isSome ∧
    ((machine.final .start connected).callers.get? 0).map Caller.stage = some (.ended (.status 0)) ∧
    ((machine.final .start connected).reqDb.get? 0).isSome := by
  decide +kernel

end DEFw.Workers
