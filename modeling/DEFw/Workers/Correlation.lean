import DEFw.Workers.Model

namespace DEFw.Workers

/-- The events that were put into the queue of a request. -/
def received (uuid : Nat) (log : List Entry) : List Item :=
  log.filterMap fun
    | .delivered other item => if other = uuid then some item else none
    | _ => none

theorem received_append (uuid : Nat) (log new : List Entry) :
    received uuid (log ++ new) = received uuid log ++ received uuid new :=
  List.filterMap_append

theorem mem_received {uuid : Nat} {item : Item} {log : List Entry} :
    item ∈ received uuid log ↔ .delivered uuid item ∈ log := by
  simp only [received, List.mem_filterMap]
  constructor
  · rintro ⟨entry, member, found⟩
    cases entry with
    | delivered other there =>
      obtain ⟨rfl, rfl⟩ : other = uuid ∧ there = item := by simpa using found
      exact member
    | _ => cases found
  · exact fun member => ⟨_, member, by simp⟩

/-- The request is in the table, or was. -/
def Caller.registered (caller : Caller) : Bool := caller.request.blocking && caller.stage ≠ .created

/-- The event that the worker is about to put into the queue of a request. -/
def State.pending (s : State) (uuid : Nat) : List Item :=
  match s.worker with
  | .delivering item targets => if uuid ∈ targets then [item] else []
  | _ => []

/-- The worker has not come to a shutdown. -/
def State.live (s : State) : Bool :=
  match s.worker with
  | .idle => true
  | .delivering item _ => item.event ≠ .shutdown
  | .stopped => false

/-- The request is addressed to the connection that the event is about: to its runtime,
over its block or over any. An event that names no runtime, or no handle, is about all. -/
def Addressed (request : WorkerRequest) (event : LifecycleEvent) : Prop :=
  request.wrType = .sendMsg ∧
  (event.remoteRuntimeId = "" ∨ request.remoteUuid = event.remoteRuntimeId) ∧
  (event.peerHandle = "" ∨ request.blkUuid = event.peerHandle ∨ request.blkUuid = "" ∨ request.blkUuid = Peers.zeroUuid)

theorem targetsPeer_iff {request : WorkerRequest} {event : LifecycleEvent} :
    targetsPeer request event = true ↔ Addressed request event := by
  simp only [targetsPeer, Addressed, Bool.and_eq_true, Bool.or_eq_true, decide_eq_true_eq]
  tauto

/-- An event that completes this request. -/
def Concerns (uuid : Nat) (request : WorkerRequest) : WorkerEvent → Prop
  | .incomingRequest => False
  | .incomingResponse reqUuid => reqUuid = some uuid
  | .connComplete completed _ => completed = uuid
  | .shutdown => True
  | .peerLifecycle event => event.eventType.isLoss = true ∧ Addressed request event

/-- The life of a send request: it is registered, the worker takes an event for it and
puts it into its queue. Only the event of a shutdown leaves the request in the table. -/
inductive Fate (uuid : Nat) (request : WorkerRequest) : Bool → Bool → List Item → List Item → Prop
  | unregistered : Fate uuid request false false [] []
  | registered : Fate uuid request true true [] []
  | claimed (item : Item) (listed : Bool) (concerns : Concerns uuid request item.event)
      (kept : listed = true → item.event = .shutdown) : Fate uuid request true listed [item] []
  | served (item : Item) (listed : Bool) (concerns : Concerns uuid request item.event)
      (kept : listed = true → item.event = .shutdown) : Fate uuid request true listed [] [item]

namespace Fate

variable {uuid : Nat} {request : WorkerRequest} {registered listed : Bool} {pending received : List Item}

theorem of_unregistered (fate : Fate uuid request false listed pending received) :
    listed = false ∧ pending = [] ∧ received = [] := by
  cases fate with
  | unregistered => exact ⟨rfl, rfl, rfl⟩

theorem received_length_le (fate : Fate uuid request registered listed pending received) : received.length ≤ 1 := by
  cases fate <;> simp

/-- A request that is not in the table any more has its event, or the worker has it. -/
theorem of_unlisted (fate : Fate uuid request true false pending received) : pending ≠ [] ∨ received ≠ [] := by
  cases fate with
  | claimed => exact .inl (by simp)
  | served => exact .inr (by simp)

/-- The worker takes an event for a request that has none. -/
theorem claim (fate : Fate uuid request registered listed [] []) (present : listed = true) (item : Item) (after : Bool)
    (concerns : Concerns uuid request item.event) (kept : after = true → item.event = .shutdown) :
    Fate uuid request registered after [item] [] := by
  subst present
  cases fate with
  | registered => exact .claimed item after concerns kept

/-- The worker puts the event into the queue. -/
theorem serve {item : Item} (fate : Fate uuid request registered listed [item] received) :
    Fate uuid request registered listed [] (received ++ [item]) := by
  cases fate with
  | claimed _ _ concerns kept => exact .served item listed concerns kept

end Fate

structure Correlated (s : State) (log : List Entry) : Prop where
  listed : ∀ uuid request, s.reqDb.get? uuid = some request →
    ∃ caller, s.callers.get? uuid = some caller ∧ caller.request = request ∧ caller.registered = true
  numbered : ∀ uuid caller, s.callers.get? uuid = some caller → uuid < s.created
  targeted : ∀ item targets, s.worker = .delivering item targets →
    targets.Nodup ∧ ∀ uuid ∈ targets, (s.callers.get? uuid).isSome
  heard : ∀ uuid item, .delivered uuid item ∈ log → (s.callers.get? uuid).isSome
  removes : ∀ uuid caller rc, s.callers.get? uuid = some caller → caller.stage = .removing rc →
    caller.request.wrType = .connect
  completes : ∀ item ∈ s.queue, ∀ uuid status, item.event = .connComplete uuid status →
    ∃ caller, s.callers.get? uuid = some caller ∧ caller.request.wrType = .connect
  fates : ∀ uuid caller, s.callers.get? uuid = some caller → caller.request.wrType = .sendMsg →
    Fate uuid caller.request caller.registered (s.reqDb.get? uuid).isSome (s.pending uuid) (received uuid log)
  live : s.live = true → ∀ uuid caller, s.callers.get? uuid = some caller → caller.request.wrType = .sendMsg →
    (s.reqDb.get? uuid).isSome → s.pending uuid = [] ∧ received uuid log = []

section Inversion

/-- What a part of a call can do. -/
inductive Proceeds (s : State) (uuid : Nat) (caller : Caller) : State × List Entry → Prop
  | stuck : Proceeds s uuid caller (s, [])
  | moved (next : Caller) (request : next.request = caller.request) (registered : next.registered = caller.registered)
      (removing : ∀ rc, next.stage = .removing rc → caller.request.wrType = .connect) :
      Proceeds s uuid caller ({ s with callers := s.callers.set uuid next }, [])
  | added (stage : caller.stage = .created) (blocking : caller.request.blocking = true) (unlocked : s.locked = false) :
      Proceeds s uuid caller ({ s.goto uuid caller .preparing with reqDb := s.reqDb.set uuid caller.request }, [.registered uuid])
  | removed (rc : Rc) (stage : caller.stage = .removing rc) (unlocked : s.locked = false) :
      Proceeds s uuid caller
        ({ s.goto uuid caller (.ended (.raised (.connectFailed rc))) with reqDb := s.reqDb.erase uuid }, [])

variable {s : State} {uuid : Nat} {caller : Caller}

/-- A call that is past its registration stays so. -/
theorem Proceeds.goto {stage : Stage} (past : caller.stage ≠ .created) (behind : stage ≠ .created)
    (removing : ∀ rc, stage = .removing rc → caller.request.wrType = .connect) :
    Proceeds s uuid caller (s.goto uuid caller stage, []) :=
  .moved { caller with stage := stage } rfl (by simp [Caller.registered, past, behind]) removing

theorem Proceeds.ends {outcome : Outcome} (past : caller.stage ≠ .created) :
    Proceeds s uuid caller (s.goto uuid caller (.ended outcome), []) :=
  .goto past (by simp) (by simp)

theorem proceeds (s : State) (uuid : Nat) (caller : Caller) (choice : Choice) :
    Proceeds s uuid caller (s.proceed uuid caller choice) := by
  unfold State.proceed
  cases stage : caller.stage with
  | created =>
    cases blocking : caller.request.blocking with
    | false => exact .moved { caller with stage := .preparing } rfl (by simp [Caller.registered, blocking]) (by simp)
    | true =>
      cases locked : s.locked with
      | true => exact .stuck
      | false => exact .added stage blocking locked
  | preparing =>
    have past : caller.stage ≠ .created := by simp [stage]
    cases choice.raises with
    | some message => exact .ends past
    | none => exact .goto past (by simp) (by simp)
  | sending =>
    have past : caller.stage ≠ .created := by simp [stage]
    cases type : caller.request.wrType <;> cases choice.rc <;> cases caller.request.blocking <;>
      first
      | exact .ends past
      | exact .goto past (by simp) (by simp [type])
  | removing rc =>
    cases locked : s.locked with
    | true => exact .stuck
    | false => exact .removed rc stage locked
  | waiting t =>
    have past : caller.stage ≠ .created := by simp [stage]
    simp only []
    split
    · split
      · exact .goto past (by simp) (by simp)
      · exact .ends past
    · exact .ends past
  | getting =>
    have past : caller.stage ≠ .created := by simp [stage]
    cases caller.queue with
    | nil => exact .goto past (by simp) (by simp)
    | cons item rest =>
      exact .moved { caller with stage := .ended _, queue := rest } rfl (by simp [Caller.registered, past]) (by simp)
  | ended outcome => exact .stuck

end Inversion

/-- What taking an event does: the requests that it is for were in the table, and leave
it unless the event is a completion or a shutdown. -/
structure Routes (event : WorkerEvent) (db : Dict Nat WorkerRequest) (targets : List Nat) (rest : Dict Nat WorkerRequest) :
    Prop where
  distinct : targets.Nodup
  concerned : ∀ uuid ∈ targets, ∃ request, db.get? uuid = some request ∧ Concerns uuid request event
  others : ∀ uuid, uuid ∉ targets → rest.get? uuid = db.get? uuid
  leaves : ∀ uuid ∈ targets, rest.get? uuid = none ∨
    rest.get? uuid = db.get? uuid ∧ (event = .shutdown ∨ ∃ status, event = .connComplete uuid status)

theorem Routes.nobody (event : WorkerEvent) (db : Dict Nat WorkerRequest) : Routes event db [] db :=
  ⟨List.nodup_nil, by simp, by simp, by simp⟩

theorem routes (s : State) (event : WorkerEvent) : Routes event s.reqDb (s.route event).1 (s.route event).2 := by
  cases event with
  | incomingRequest => exact .nobody _ _
  | incomingResponse reqUuid =>
    cases reqUuid with
    | none => exact .nobody _ _
    | some uuid =>
      simp only [State.route]
      split
      next present =>
        obtain ⟨request, present⟩ := Option.isSome_iff_exists.mp present
        refine ⟨by simp, by simp [present, Concerns], fun other absent => ?_, by simp [Dict.get?_erase]⟩
        rw [Dict.get?_erase, if_neg (List.mem_singleton.not.mp absent)]
      next => exact .nobody _ _
  | connComplete uuid status =>
    simp only [State.route]
    split
    next present =>
      obtain ⟨request, present⟩ := Option.isSome_iff_exists.mp present
      exact ⟨by simp, by simp [present, Concerns], by simp, by simp⟩
    next => exact .nobody _ _
  | shutdown =>
    refine ⟨s.reqDb.nodup, fun uuid member => ?_, by simp [State.route], by simp [State.route]⟩
    obtain ⟨request, present⟩ := Option.isSome_iff_exists.mp (Dict.mem_keys_iff.mp member)
    exact ⟨request, present, trivial⟩
  | peerLifecycle event =>
    simp only [State.route]
    split
    next loss =>
      have targeted (uuid : Nat) : uuid ∈ (s.reqDb.filter (fun _ request => targetsPeer request event)).keys ↔
          ∃ request, s.reqDb.get? uuid = some request ∧ targetsPeer request event = true := by
        rw [Dict.mem_keys_iff, Option.isSome_iff_exists]
        simp [Dict.get?_filter, Option.filter_eq_some_iff]
      refine ⟨Dict.nodup _, fun uuid member => ?_, fun uuid absent => ?_, fun uuid member => .inl ?_⟩
      · obtain ⟨request, present, targets⟩ := (targeted uuid).mp member
        exact ⟨request, present, loss, targetsPeer_iff.mp targets⟩
      · rw [targeted] at absent
        cases present : s.reqDb.get? uuid with
        | none => simp [Dict.get?_filter, present]
        | some request =>
          have spared : targetsPeer request event = false := by
            cases targets : targetsPeer request event with
            | false => rfl
            | true => exact absurd ⟨request, present, targets⟩ absent
          simp [Dict.get?_filter, present, spared]
      · obtain ⟨request, present, targets⟩ := (targeted uuid).mp member
        simp [Dict.get?_filter, present, targets]
    next => exact .nobody _ _

namespace Correlated

variable {s : State} {log : List Entry} {uuid : Nat} {caller : Caller}

/-- A call goes on without a change of the table. -/
theorem moved (was : Correlated s log) (found : s.callers.get? uuid = some caller) (next : Caller)
    (request : next.request = caller.request) (registered : next.registered = caller.registered)
    (removing : ∀ rc, next.stage = .removing rc → caller.request.wrType = .connect) :
    Correlated { s with callers := s.callers.set uuid next } log := by
  have origin {other : Nat} {now : Caller} (present : (s.callers.set uuid next).get? other = some now) :
      ∃ before, s.callers.get? other = some before ∧ now.request = before.request ∧ now.registered = before.registered := by
    rw [Dict.get?_set] at present
    split at present
    next same =>
      cases present
      exact ⟨caller, same ▸ found, request, registered⟩
    next => exact ⟨now, present, rfl, rfl⟩
  have still {other : Nat} {before : Caller} (present : s.callers.get? other = some before) :
      ∃ now, (s.callers.set uuid next).get? other = some now ∧ now.request = before.request ∧
        now.registered = before.registered := by
    by_cases same : other = uuid
    · subst same
      cases present.symm.trans found
      exact ⟨next, by simp, request, registered⟩
    · exact ⟨before, by simpa [Dict.get?_set, same] using present, rfl, rfl⟩
  have known {other : Nat} (present : (s.callers.get? other).isSome) : ((s.callers.set uuid next).get? other).isSome := by
    obtain ⟨before, present⟩ := Option.isSome_iff_exists.mp present
    obtain ⟨now, there, -⟩ := still present
    simp [there]
  refine ⟨fun other listed present => ?_, fun other now present => ?_, fun item targets working => ?_,
    fun other item member => known (was.heard other item member), fun other now rc present stage => ?_,
    fun item member other status complete => ?_, fun other now present sends => ?_, fun live other now present sends => ?_⟩
  · obtain ⟨before, there, same, known⟩ := was.listed other listed present
    obtain ⟨now, present, request, registered⟩ := still there
    exact ⟨now, present, request.trans same, registered.trans known⟩
  · obtain ⟨before, there, -⟩ := origin present
    exact was.numbered other before there
  · exact ⟨(was.targeted item targets working).1, fun other member => known ((was.targeted item targets working).2 other member)⟩
  · rw [Dict.get?_set] at present
    split at present
    · cases present
      rw [request]
      exact removing rc stage
    · exact was.removes other now rc present stage
  · obtain ⟨before, there, connects⟩ := was.completes item member other status complete
    obtain ⟨now, present, request, -⟩ := still there
    exact ⟨now, present, request ▸ connects⟩
  · obtain ⟨before, there, request, registered⟩ := origin present
    rw [request, registered]
    exact was.fates other before there (request ▸ sends)
  · obtain ⟨before, there, request, -⟩ := origin present
    exact was.live live other before there (request ▸ sends)

/-- A new call has a uuid of its own. -/
theorem called (was : Correlated s log) (request : WorkerRequest) :
    Correlated { s with callers := s.callers.set s.created ⟨request, .created, []⟩, created := s.created + 1 } log := by
  have unknown : s.callers.get? s.created = none := by
    cases found : s.callers.get? s.created with
    | none => rfl
    | some caller => exact absurd (was.numbered _ _ found) (Nat.lt_irrefl _)
  have apart {other : Nat} (present : (s.callers.get? other).isSome) : other ≠ s.created := by
    rintro rfl
    simp [unknown] at present
  have still {other : Nat} {before : Caller} (present : s.callers.get? other = some before) :
      (s.callers.set s.created ⟨request, .created, []⟩).get? other = some before := by
    rw [Dict.get?_set, if_neg (apart (by rw [present]; rfl)), present]
  have known {other : Nat} (present : (s.callers.get? other).isSome) :
      ((s.callers.set s.created ⟨request, .created, []⟩).get? other).isSome := by
    simpa [Dict.get?_set, apart present] using present
  have unlisted : s.reqDb.get? s.created = none := by
    cases found : s.reqDb.get? s.created with
    | none => rfl
    | some listed =>
      obtain ⟨caller, present, -⟩ := was.listed _ _ found
      simp [unknown] at present
  have unpended : s.pending s.created = [] := by
    unfold State.pending
    split
    next item targets working =>
      rw [if_neg]
      exact fun member => apart ((was.targeted item targets working).2 _ member) rfl
    next => rfl
  have unheard : received s.created log = [] := by
    rw [List.eq_nil_iff_forall_not_mem]
    exact fun item member => apart (was.heard _ item (mem_received.mp member)) rfl
  refine ⟨fun other listed present => ?_, fun other now present => ?_, fun item targets working => ?_,
    fun other item member => known (was.heard other item member), fun other now rc present stage => ?_,
    fun item member other status complete => ?_, fun other now present sends => ?_, fun live other now present sends => ?_⟩
  · obtain ⟨before, there, same⟩ := was.listed other listed present
    exact ⟨before, still there, same⟩
  · rw [Dict.get?_set] at present
    split at present
    next same => exact same ▸ Nat.lt_succ_self _
    next => exact Nat.lt_succ_of_lt (was.numbered other now present)
  · exact ⟨(was.targeted item targets working).1, fun other member => known ((was.targeted item targets working).2 other member)⟩
  · rw [Dict.get?_set] at present
    split at present
    · cases present
      cases stage
    · exact was.removes other now rc present stage
  · obtain ⟨before, there, connects⟩ := was.completes item member other status complete
    exact ⟨before, still there, connects⟩
  · rw [Dict.get?_set] at present
    split at present
    next same =>
      cases present
      subst same
      change Fate s.created request _ (s.reqDb.get? s.created).isSome (s.pending s.created) (received s.created log)
      rw [unlisted, unpended, unheard]
      simpa [Caller.registered] using .unregistered
    next => exact was.fates other now present sends
  · rw [Dict.get?_set] at present
    split at present
    next same =>
      subst same
      exact fun _ => ⟨unpended, unheard⟩
    next => exact was.live live other now present sends

/-- `add_work_request`. -/
theorem added (was : Correlated s log) (found : s.callers.get? uuid = some caller) (stage : caller.stage = .created)
    (blocking : caller.request.blocking = true) :
    Correlated { s.goto uuid caller .preparing with reqDb := s.reqDb.set uuid caller.request } (log ++ [.registered uuid]) := by
  have heard (other : Nat) : received other (log ++ [.registered uuid]) = received other log := by
    simp [received]
  have fate (sends : caller.request.wrType = .sendMsg) : s.pending uuid = [] ∧ received uuid log = [] := by
    have before := was.fates uuid caller found sends
    have unregistered : caller.registered = false := by simp [Caller.registered, stage]
    rw [unregistered] at before
    exact before.of_unregistered.2
  have still {other : Nat} {before : Caller} (present : s.callers.get? other = some before) :
      ∃ now, (s.callers.set uuid { caller with stage := .preparing }).get? other = some now ∧
        now.request = before.request ∧ (before.registered = true → now.registered = true) := by
    by_cases same : other = uuid
    · subst same
      cases present.symm.trans found
      exact ⟨{ caller with stage := .preparing }, by simp, rfl, by simp [Caller.registered, blocking]⟩
    · exact ⟨before, by simpa [Dict.get?_set, same] using present, rfl, id⟩
  have known {other : Nat} (present : (s.callers.get? other).isSome) :
      ((s.callers.set uuid { caller with stage := .preparing }).get? other).isSome := by
    obtain ⟨before, present⟩ := Option.isSome_iff_exists.mp present
    obtain ⟨now, there, -⟩ := still present
    simp [there]
  refine ⟨fun other listed present => ?_, fun other now present => ?_, fun item targets working => ?_,
    fun other item member => ?_, fun other now rc present stage => ?_, fun item member other status complete => ?_,
    fun other now present sends => ?_, fun live other now present sends => ?_⟩
  · rw [Dict.get?_set] at present
    split at present
    next same =>
      cases present
      subst same
      exact ⟨{ caller with stage := .preparing }, by simp [State.goto], rfl, by simp [Caller.registered, blocking]⟩
    next =>
      obtain ⟨before, there, same, registered⟩ := was.listed other listed present
      obtain ⟨now, present, request, kept⟩ := still there
      exact ⟨now, present, request.trans same, kept registered⟩
  · simp only [State.goto, Dict.get?_set] at present
    split at present
    next same => exact same ▸ was.numbered uuid caller found
    next => exact was.numbered other now present
  · exact ⟨(was.targeted item targets working).1, fun other member => known ((was.targeted item targets working).2 other member)⟩
  · exact known (was.heard other item (by simpa using member))
  · simp only [State.goto, Dict.get?_set] at present
    split at present
    · cases present
      cases stage
    · exact was.removes other now rc present stage
  · obtain ⟨before, there, connects⟩ := was.completes item member other status complete
    obtain ⟨now, present, request, -⟩ := still there
    exact ⟨now, present, request ▸ connects⟩
  · simp only [State.goto, Dict.get?_set] at present ⊢
    rw [heard]
    split at present
    next same =>
      cases present
      subst same
      obtain ⟨unpended, unheard⟩ := fate sends
      change Fate other caller.request _ _ (s.pending other) _
      rw [unpended, unheard]
      simpa [Caller.registered, blocking] using .registered
    next different =>
      rw [if_neg different]
      exact was.fates other now present sends
  · simp only [State.goto, Dict.get?_set] at present ⊢
    rw [heard]
    split at present
    next same =>
      cases present
      subst same
      exact fun _ => fate sends
    next different =>
      rw [if_neg different]
      exact was.live live other now present sends

/-- `remove_work_request` of a connect. -/
theorem removed (was : Correlated s log) (connects : caller.request.wrType = .connect)
    (found : s.callers.get? uuid = some caller) : Correlated { s with reqDb := s.reqDb.erase uuid } log := by
  have different {other : Nat} {now : Caller} (present : s.callers.get? other = some now)
      (sends : now.request.wrType = .sendMsg) : other ≠ uuid := by
    rintro rfl
    cases present.symm.trans found
    simp [connects] at sends
  refine ⟨fun other listed present => ?_, was.numbered, was.targeted, was.heard, was.removes, was.completes,
    fun other now present sends => ?_, fun live other now present sends => ?_⟩
  · rw [Dict.get?_erase] at present
    split at present
    · cases present
    · exact was.listed other listed present
  · rw [Dict.get?_erase, if_neg (different present sends)]
    exact was.fates other now present sends
  · rw [Dict.get?_erase, if_neg (different present sends)]
    exact was.live live other now present sends

/-- An event comes in. -/
theorem put (was : Correlated s log) {event : WorkerEvent} (accepted : s.accepts event = true) :
    Correlated { s with queue := s.queue ++ [⟨s.events, event⟩], events := s.events + 1 } log := by
  refine ⟨was.listed, was.numbered, was.targeted, was.heard, was.removes, fun item member other status complete => ?_,
    was.fates, was.live⟩
  rcases List.mem_append.mp member with before | new
  · exact was.completes item before other status complete
  · cases List.mem_singleton.mp new
    cases complete
    unfold State.accepts at accepted
    cases present : s.callers.get? other with
    | none => simp [present] at accepted
    | some caller => exact ⟨caller, rfl, by simpa [present] using accepted⟩

/-- The worker takes the next event. -/
theorem begin (was : Correlated s log) {item : Item} {rest : List Item} (idle : s.worker = .idle)
    (queued : s.queue = item :: rest) {targets : List Nat} {db : Dict Nat WorkerRequest}
    (routed : Routes item.event s.reqDb targets db) :
    Correlated { s with queue := rest, reqDb := db, worker := .delivering item targets } (log ++ [.began item targets]) := by
  have heard (other : Nat) : received other (log ++ [.began item targets]) = received other log := by simp [received]
  have unpended (other : Nat) : s.pending other = [] := by simp [State.pending, idle]
  have live : s.live = true := by simp [State.live, idle]
  have pending (other : Nat) : ({ s with queue := rest, reqDb := db, worker := .delivering item targets } : State).pending other =
      if other ∈ targets then [item] else [] := rfl
  have shrinks {other : Nat} {request : WorkerRequest} (present : db.get? other = some request) :
      s.reqDb.get? other = some request := by
    by_cases member : other ∈ targets
    · rcases routed.leaves other member with gone | ⟨same, -⟩
      · simp [gone] at present
      · exact same ▸ present
    · exact routed.others other member ▸ present
  -- a completion is for a connect
  have leaves {other : Nat} {caller : Caller} (member : other ∈ targets) (found : s.callers.get? other = some caller)
      (sends : caller.request.wrType = .sendMsg) : (db.get? other).isSome = true → item.event = .shutdown := by
    intro stays
    rcases routed.leaves other member with gone | ⟨-, shutdown | ⟨status, complete⟩⟩
    · simp [gone] at stays
    · exact shutdown
    · obtain ⟨connecting, present, connects⟩ := was.completes item (by simp [queued]) other status complete
      cases present.symm.trans found
      simp [connects] at sends
  refine ⟨fun other request present => was.listed other request (shrinks present), was.numbered, ?_,
    fun other said member => was.heard other said (by simpa using member), was.removes,
    fun other member => was.completes other (queued ▸ List.mem_cons_of_mem item member), fun other caller found sends => ?_,
    fun stillLive other caller found sends stays => ?_⟩
  · rintro _ _ ⟨⟩
    refine ⟨routed.distinct, fun other member => ?_⟩
    obtain ⟨request, present, -⟩ := routed.concerned other member
    obtain ⟨caller, found, -⟩ := was.listed other request present
    simp [found]
  · have fate := was.fates other caller found sends
    rw [heard, pending]
    by_cases member : other ∈ targets
    · obtain ⟨request, present, concerns⟩ := routed.concerned other member
      obtain ⟨listed, there, rfl, -⟩ := was.listed other request present
      cases there.symm.trans found
      obtain ⟨-, unheard⟩ := was.live live other caller found sends (by simp [present])
      rw [unpended, unheard] at fate
      rw [if_pos member, unheard]
      exact fate.claim (by simp [present]) item _ concerns (leaves member found sends)
    · rw [if_neg member, routed.others other member]
      rwa [unpended] at fate
  · rw [heard, pending]
    by_cases member : other ∈ targets
    · have shutdown := leaves member found sends stays
      simp [State.live, shutdown] at stillLive
    · rw [if_neg member]
      rw [routed.others other member] at stays
      exact ⟨rfl, (was.live live other caller found sends stays).2⟩

/-- The worker puts the event into one queue. -/
theorem deliver (was : Correlated s log) {item : Item} {rest : List Nat} (working : s.worker = .delivering item (uuid :: rest)) :
    Correlated { s with worker := .delivering item rest } (log ++ [.delivered uuid item]) := by
  obtain ⟨distinct, known⟩ := was.targeted item _ working
  obtain ⟨fresh, distinct⟩ := List.nodup_cons.mp distinct
  have heard (other : Nat) : received other (log ++ [.delivered uuid item]) =
      received other log ++ if uuid = other then [item] else [] := by
    rw [received_append]
    by_cases same : uuid = other <;> simp [received, same]
  have before (other : Nat) : s.pending other = if other = uuid ∨ other ∈ rest then [item] else [] := by
    simp [State.pending, working]
  have pending (other : Nat) : ({ s with worker := .delivering item rest } : State).pending other =
      if other ∈ rest then [item] else [] := rfl
  refine ⟨was.listed, was.numbered, ?_, fun other said member => ?_, was.removes, was.completes,
    fun other caller found sends => ?_, fun live other caller found sends listed => ?_⟩
  · rintro _ _ ⟨⟩
    exact ⟨distinct, fun other member => known other (List.mem_cons_of_mem uuid member)⟩
  · rcases List.mem_append.mp member with earlier | new
    · exact was.heard other said earlier
    · cases List.mem_singleton.mp new
      exact known uuid List.mem_cons_self
  · have fate := was.fates other caller found sends
    rw [heard, pending]
    rw [before] at fate
    by_cases same : uuid = other
    · subst same
      rw [if_pos (.inl rfl)] at fate
      rw [if_neg fresh, if_pos rfl]
      exact fate.serve
    · rw [if_neg same, List.append_nil]
      simpa [Ne.symm same] using fate
  · have quiet := was.live (by simpa [State.live, working] using live) other caller found sends listed
    rw [heard, pending]
    rw [before] at quiet
    by_cases same : uuid = other
    · simp [same] at quiet
    · rw [if_neg same, List.append_nil]
      simpa [Ne.symm same] using quiet

/-- The worker is done with an event. -/
theorem finish (was : Correlated s log) {item : Item} (working : s.worker = .delivering item []) :
    Correlated { s with worker := if item.event = .shutdown then .stopped else .idle } (log ++ [.finished item]) := by
  have heard (other : Nat) : received other (log ++ [.finished item]) = received other log := by simp [received]
  have before (other : Nat) : s.pending other = [] := by simp [State.pending, working]
  have pending (other : Nat) :
      ({ s with worker := if item.event = .shutdown then .stopped else .idle } : State).pending other = [] := by
    unfold State.pending
    by_cases shutdown : item.event = .shutdown <;> simp [shutdown]
  refine ⟨was.listed, was.numbered, fun other targets => ?_, fun other said member => ?_, was.removes, was.completes,
    fun other caller found sends => ?_, fun live other caller found sends listed => ?_⟩
  · by_cases shutdown : item.event = .shutdown <;> simp [shutdown]
  · exact was.heard other said (by simpa using member)
  · rw [heard, pending, ← before other]
    exact was.fates other caller found sends
  · have running : s.live = true := by
      by_cases shutdown : item.event = .shutdown
      · simp [State.live, shutdown] at live
      · simp [State.live, working, shutdown]
    rw [heard, pending]
    exact ⟨rfl, (was.live running other caller found sends listed).2⟩

end Correlated

/-- What a step can do. -/
inductive Steps (s : State) : State × List Entry → Prop
  | idle : Steps s (s, [])
  | time (systemUp : Bool) (now : Nat) : Steps s ({ s with systemUp := systemUp, now := now }, [])
  | called (request : WorkerRequest) :
      Steps s ({ s with callers := s.callers.set s.created ⟨request, .created, []⟩, created := s.created + 1 }, [])
  | proceeded (uuid : Nat) (caller : Caller) (found : s.callers.get? uuid = some caller) (next : State × List Entry)
      (proceeds : Proceeds s uuid caller next) : Steps s next
  | put (event : WorkerEvent) (accepted : s.accepts event = true) :
      Steps s ({ s with queue := s.queue ++ [⟨s.events, event⟩], events := s.events + 1 }, [])
  | began (item : Item) (rest : List Item) (idle : s.worker = .idle) (queued : s.queue = item :: rest) :
      Steps s ({ s with queue := rest, reqDb := (s.route item.event).2, worker := .delivering item (s.route item.event).1 },
        [.began item (s.route item.event).1])
  | delivered (item : Item) (uuid : Nat) (rest : List Nat) (working : s.worker = .delivering item (uuid :: rest))
      (caller : Caller) (found : s.callers.get? uuid = some caller) :
      Steps s ({ s with
          worker := .delivering item rest
          callers := s.callers.set uuid { caller with queue := caller.queue ++ [item] } }, [.delivered uuid item])
  | finished (item : Item) (working : s.worker = .delivering item []) :
      Steps s ({ s with worker := if item.event = .shutdown then .stopped else .idle }, [.finished item])

theorem Correlated.steps {s : State} {log : List Entry} (was : Correlated s log) (action : Action) : Steps s (step s action) := by
  cases action with
  | call wrType remoteUuid blkUuid blocking timeout => exact .called _
  | proceed uuid choice =>
    simp only [step]
    cases found : s.callers.get? uuid with
    | none => exact .idle
    | some caller => exact .proceeded uuid caller found _ (proceeds s uuid caller choice)
  | put event =>
    simp only [step]
    split
    next accepted => exact .put event accepted
    next => exact .idle
  | systemShutdown => exact .time false s.now
  | tick => exact .time s.systemUp (s.now + 1)
  | work =>
    simp only [step, State.work]
    cases working : s.worker with
    | stopped => exact .idle
    | idle =>
      cases queued : s.queue with
      | nil => exact .idle
      | cons item rest => exact .began item rest working queued
    | delivering item targets =>
      cases targets with
      | nil => exact .finished item working
      | cons uuid rest =>
        have known := (was.targeted item _ working).2 uuid List.mem_cons_self
        obtain ⟨caller, found⟩ := Option.isSome_iff_exists.mp known
        simp only [found]
        exact .delivered item uuid rest working caller found

theorem Steps.short {s : State} {next : State × List Entry} (steps : Steps s next) : next.2.length ≤ 1 := by
  cases steps with
  | proceeded uuid caller found next proceeds => cases proceeds <;> simp
  | _ => simp

theorem Correlated.step {s : State} {log : List Entry} (was : Correlated s log) {next : State × List Entry}
    (steps : Steps s next) : Correlated next.1 (log ++ next.2) := by
  cases steps with
  | idle => simpa using was
  | time systemUp now =>
    rw [List.append_nil]
    exact ⟨was.listed, was.numbered, was.targeted, was.heard, was.removes, was.completes, was.fates, was.live⟩
  | called request =>
    rw [List.append_nil]
    exact was.called request
  | proceeded uuid caller found next proceeds =>
    cases proceeds with
    | stuck => simpa using was
    | moved next request registered removing =>
      rw [List.append_nil]
      exact was.moved found next request registered removing
    | added stage blocking unlocked => exact was.added found stage blocking
    | removed rc stage unlocked =>
      rw [List.append_nil]
      have connects := was.removes uuid caller rc found stage
      exact (was.removed connects found).moved found { caller with stage := .ended (.raised (.connectFailed rc)) } rfl
        (by simp [Caller.registered, stage]) (by simp)
  | put event accepted =>
    rw [List.append_nil]
    exact was.put accepted
  | began item rest idle queued => exact was.begin idle queued (routes s item.event)
  | delivered item uuid rest working caller found =>
    refine (was.deliver working).moved found { caller with queue := caller.queue ++ [item] } rfl rfl fun rc stage => ?_
    exact was.removes uuid caller rc found stage
  | finished item working => exact was.finish working

theorem correlated_start : Correlated .start [] where
  listed := by simp [State.start]
  numbered := by simp [State.start]
  targeted := by simp [State.start]
  heard := by simp
  removes := by simp [State.start]
  completes := by simp [State.start]
  fates := by simp [State.start]
  live := by simp [State.start]

end DEFw.Workers
