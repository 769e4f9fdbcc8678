import DEFw.Workers.Correlation

namespace DEFw.Workers

/-- The requests into whose queues an event was put. -/
def deliveredTo (item : Item) (log : List Entry) : List Nat :=
  log.filterMap fun
    | .delivered uuid other => if other = item then some uuid else none
    | _ => none

theorem deliveredTo_append (item : Item) (log new : List Entry) :
    deliveredTo item (log ++ new) = deliveredTo item log ++ deliveredTo item new :=
  List.filterMap_append

theorem mem_deliveredTo {item : Item} {uuid : Nat} {log : List Entry} (member : .delivered uuid item ∈ log) :
    uuid ∈ deliveredTo item log :=
  List.mem_filterMap.mpr ⟨_, member, by simp⟩

/-- The requests into whose queues the worker has yet to put an event. -/
def State.remaining (s : State) (item : Item) : List Nat :=
  match s.worker with
  | .delivering other rest => if other = item then rest else []
  | _ => []

/-- What became of every event object: it is in the queue of the worker, or the worker
has put it into the queues of the first of the requests that it found for it. -/
structure History (s : State) (log : List Entry) : Prop where
  queued : ∀ item ∈ s.queue, item.object < s.events ∧ ∀ targets, .began item targets ∉ log
  distinct : s.queue.Nodup
  begun : ∀ item targets, .began item targets ∈ log →
    item.object < s.events ∧ deliveredTo item log ++ s.remaining item = targets ∧ targets.Nodup ∧
      ∀ uuid ∈ targets, ∃ request, Concerns uuid request item.event
  unbegun : ∀ item, (∀ targets, .began item targets ∉ log) → deliveredTo item log = []
  current : ∀ item targets, s.worker = .delivering item targets → ∃ all, .began item all ∈ log
  finished : ∀ before item later, log = before ++ .finished item :: later →
    ∃ targets, .began item targets ∈ before ∧ deliveredTo item before = targets

namespace History

variable {s next : State} {log new : List Entry}

/-- A step that is none of the worker. -/
theorem frame (was : History s log) (short : new.length ≤ 1) (worker : next.worker = s.worker) (grown : s.events ≤ next.events)
    (quiet : ∀ entry ∈ new, ∃ uuid, entry = .registered uuid)
    (queued : ∀ item ∈ next.queue, item.object < next.events ∧ ∀ targets, .began item targets ∉ log)
    (distinct : next.queue.Nodup) : History next (log ++ new) := by
  have begins {item : Item} {targets : List Nat} : .began item targets ∈ log ++ new ↔ .began item targets ∈ log := by
    refine ⟨fun member => (List.mem_append.mp member).resolve_right fun said => ?_, List.mem_append_left new⟩
    obtain ⟨uuid, impossible⟩ := quiet _ said
    cases impossible
  have silent (item : Item) : deliveredTo item new = [] := by
    rw [deliveredTo, List.filterMap_eq_nil_iff]
    intro entry member
    obtain ⟨uuid, rfl⟩ := quiet entry member
    rfl
  have remaining (item : Item) : next.remaining item = s.remaining item := by simp only [State.remaining, worker]
  refine ⟨by simpa only [begins] using queued, distinct, fun item targets member => ?_, fun item absent => ?_,
    fun item targets working => ?_, fun before item later split => ?_⟩
  · obtain ⟨old, done, rest⟩ := was.begun item targets (begins.mp member)
    refine ⟨Nat.lt_of_lt_of_le old grown, ?_, rest⟩
    rwa [deliveredTo_append, silent, List.append_nil, remaining]
  · rw [deliveredTo_append, silent, List.append_nil]
    exact was.unbegun item fun targets member => absent targets (begins.mpr member)
  · obtain ⟨all, member⟩ := was.current item targets (worker ▸ working)
    exact ⟨all, begins.mpr member⟩
  · rcases Machine.split_append short split with ⟨-, only, -⟩ | ⟨rest, -, rfl⟩
    · obtain ⟨uuid, impossible⟩ := quiet (.finished item) (by simp [only])
      cases impossible
    · exact was.finished before item rest rfl

theorem put (was : History s log) (event : WorkerEvent) :
    History { s with queue := s.queue ++ [⟨s.events, event⟩], events := s.events + 1 } log := by
  have later : History { s with queue := s.queue ++ [⟨s.events, event⟩], events := s.events + 1 } (log ++ []) := by
    refine was.frame (by simp) rfl (Nat.le_succ _) (by simp) (fun item member => ?_) ?_
    · rcases List.mem_append.mp member with before | new
      · obtain ⟨old, fresh⟩ := was.queued item before
        exact ⟨Nat.lt_succ_of_lt old, fresh⟩
      · cases List.mem_singleton.mp new
        refine ⟨Nat.lt_succ_self _, fun targets begun => ?_⟩
        exact Nat.lt_irrefl _ (was.begun _ targets begun).1
    · refine List.nodup_append.mpr ⟨was.distinct, by simp, fun item member other new same => ?_⟩
      cases List.mem_singleton.mp new
      subst same
      exact Nat.lt_irrefl _ (was.queued _ member).1
  rwa [List.append_nil] at later

theorem begin (was : History s log) {item : Item} {rest : List Item} (idle : s.worker = .idle)
    (queued : s.queue = item :: rest) {targets : List Nat} {db : Dict Nat WorkerRequest}
    (routed : Routes item.event s.reqDb targets db) :
    History { s with queue := rest, reqDb := db, worker := .delivering item targets } (log ++ [.began item targets]) := by
  obtain ⟨old, fresh⟩ := was.queued item (by simp [queued])
  have distinct := was.distinct
  rw [queued, List.nodup_cons] at distinct
  have silent (other : Item) : deliveredTo other (log ++ [.began item targets]) = deliveredTo other log := by
    simp [deliveredTo]
  have before (other : Item) : s.remaining other = [] := by simp [State.remaining, idle]
  refine ⟨fun other member => ?_, distinct.2, fun other all member => ?_, fun other absent => ?_, ?_,
    fun first other later split => ?_⟩
  · obtain ⟨young, unbegun⟩ := was.queued other (queued ▸ List.mem_cons_of_mem item member)
    refine ⟨young, fun all begun => ?_⟩
    rcases List.mem_append.mp begun with earlier | new
    · exact unbegun all earlier
    · cases List.mem_singleton.mp new
      exact distinct.1 member
  · rcases List.mem_append.mp member with earlier | new
    · obtain ⟨young, done, rest⟩ := was.begun other all earlier
      refine ⟨young, ?_, rest⟩
      have different : item ≠ other := fun same => fresh all (same ▸ earlier)
      rw [before, List.append_nil] at done
      simp [silent, State.remaining, different, done]
    · cases List.mem_singleton.mp new
      refine ⟨old, ?_, routed.distinct, fun uuid member => ?_⟩
      · simp [silent, State.remaining, was.unbegun item fresh]
      · obtain ⟨request, -, concerns⟩ := routed.concerned uuid member
        exact ⟨request, concerns⟩
  · rw [silent]
    exact was.unbegun other fun all member => absent all (List.mem_append_left _ member)
  · rintro _ _ ⟨⟩
    exact ⟨targets, by simp⟩
  · rcases Machine.split_append (by simp) split with ⟨-, only, -⟩ | ⟨rest, -, rfl⟩
    · cases only
    · exact was.finished first other rest rfl

theorem deliver (was : History s log) {item : Item} {uuid : Nat} {rest : List Nat}
    (working : s.worker = .delivering item (uuid :: rest)) (worker : next.worker = .delivering item rest)
    (queue : next.queue = s.queue) (events : next.events = s.events) : History next (log ++ [.delivered uuid item]) := by
  have begins {other : Item} {targets : List Nat} :
      .began other targets ∈ log ++ [.delivered uuid item] ↔ .began other targets ∈ log := by simp
  have moves (other : Item) : deliveredTo other (log ++ [.delivered uuid item]) ++ next.remaining other =
      deliveredTo other log ++ s.remaining other := by
    rw [deliveredTo_append]
    by_cases same : item = other <;> simp [deliveredTo, State.remaining, working, worker, same]
  refine ⟨fun other member => ?_, queue ▸ was.distinct, fun other targets member => ?_, fun other absent => ?_,
    fun other targets working => ?_, fun before other later split => ?_⟩
  · rw [queue] at member
    simpa only [begins, events] using was.queued other member
  · rw [moves, events]
    exact was.begun other targets (begins.mp member)
  · have different : item ≠ other := by
      rintro rfl
      obtain ⟨all, member⟩ := was.current item _ working
      exact absent all (begins.mpr member)
    have unheard := was.unbegun other fun targets member => absent targets (begins.mpr member)
    rw [deliveredTo_append, unheard]
    simp [deliveredTo, different]
  · obtain ⟨all, member⟩ := was.current item _ ‹s.worker = _›
    cases worker.symm.trans working
    exact ⟨all, begins.mpr member⟩
  · rcases Machine.split_append (by simp) split with ⟨-, only, -⟩ | ⟨rest, -, rfl⟩
    · cases only
    · exact was.finished before other rest rfl

theorem finish (was : History s log) {item : Item} (working : s.worker = .delivering item []) :
    History { s with worker := if item.event = .shutdown then .stopped else .idle } (log ++ [.finished item]) := by
  have begins {other : Item} {targets : List Nat} :
      .began other targets ∈ log ++ [.finished item] ↔ .began other targets ∈ log := by simp
  have silent (other : Item) : deliveredTo other (log ++ [.finished item]) = deliveredTo other log := by simp [deliveredTo]
  have before (other : Item) : s.remaining other = [] := by
    by_cases same : item = other <;> simp [State.remaining, working, same]
  have after (other : Item) :
      ({ s with worker := if item.event = .shutdown then .stopped else .idle } : State).remaining other = [] := by
    by_cases shutdown : item.event = .shutdown <;> simp [State.remaining, shutdown]
  refine ⟨by simpa only [begins] using was.queued, was.distinct, fun other targets member => ?_, fun other absent => ?_,
    fun other targets working => ?_, fun first other later split => ?_⟩
  · rw [silent, after, ← before other]
    exact was.begun other targets (begins.mp member)
  · rw [silent]
    exact was.unbegun other fun targets member => absent targets (begins.mpr member)
  · by_cases shutdown : item.event = .shutdown <;> simp [shutdown] at working
  · rcases Machine.split_append (by simp) split with ⟨rfl, only, -⟩ | ⟨rest, -, rfl⟩
    · cases only
      obtain ⟨targets, member⟩ := was.current item [] working
      obtain ⟨-, done, -⟩ := was.begun item targets member
      rw [before, List.append_nil] at done
      exact ⟨targets, member, done⟩
    · exact was.finished first other rest rfl

theorem step (was : History s log) {next : State × List Entry} (steps : Steps s next) : History next.1 (log ++ next.2) := by
  have short := steps.short
  cases steps with
  | idle => exact was.frame short rfl le_rfl (by simp) was.queued was.distinct
  | time systemUp now => exact was.frame short rfl le_rfl (by simp) was.queued was.distinct
  | called request => exact was.frame short rfl le_rfl (by simp) was.queued was.distinct
  | proceeded uuid caller found next proceeds =>
    cases proceeds with
    | stuck => exact was.frame short rfl le_rfl (by simp) was.queued was.distinct
    | moved => exact was.frame short rfl le_rfl (by simp) was.queued was.distinct
    | added => exact was.frame short rfl le_rfl (by simp) was.queued was.distinct
    | removed => exact was.frame short rfl le_rfl (by simp) was.queued was.distinct
  | put event accepted =>
    rw [List.append_nil]
    exact was.put event
  | began item rest idle queued => exact was.begin idle queued (routes s item.event)
  | delivered item uuid rest working caller found => exact was.deliver working rfl rfl rfl
  | finished item working => exact was.finish working

/-- A response is for one request, the one that it names. -/
theorem response (was : History s log) {uuid : Nat} {item : Item} {reqUuid : Option Nat} (said : .delivered uuid item ∈ log)
    (response : item.event = .incomingResponse reqUuid) : reqUuid = some uuid ∧ deliveredTo item log = [uuid] := by
  have member := mem_deliveredTo said
  obtain ⟨targets, begun⟩ : ∃ targets, .began item targets ∈ log := by
    by_contra unbegun
    rw [not_exists] at unbegun
    simp [was.unbegun item unbegun] at member
  obtain ⟨-, done, distinct, concerned⟩ := was.begun item targets begun
  have named {other : Nat} (delivered : other ∈ deliveredTo item log) : reqUuid = some other := by
    obtain ⟨request, concerns⟩ := concerned other (done ▸ List.mem_append_left _ delivered)
    rwa [response] at concerns
  have all : ∀ other ∈ deliveredTo item log, other = uuid := fun other delivered =>
    Option.some.inj ((named delivered).symm.trans (named member))
  have once : (deliveredTo item log).Nodup := (List.nodup_append.mp (done ▸ distinct)).1
  rw [List.eq_replicate_of_mem all, List.nodup_replicate] at once
  have some_ := List.length_pos_of_mem member
  refine ⟨named member, ?_⟩
  rw [List.eq_replicate_of_mem all, show (deliveredTo item log).length = 1 by omega]
  rfl

end History

theorem history_start : History .start [] where
  queued := by simp [State.start]
  distinct := List.nodup_nil
  begun := by simp
  unbegun := by simp [deliveredTo]
  current := by simp [State.start]
  finished := by simp

section Callers

variable {s : State} {log : List Entry} {next : State × List Entry} {uuid : Nat} {caller : Caller}

/-- A call keeps its request, and its registration. -/
theorem Steps.keeps (steps : Steps s next) (was : Correlated s log) (found : s.callers.get? uuid = some caller) :
    ∃ now, next.1.callers.get? uuid = some now ∧ now.request = caller.request ∧
      (caller.registered = true → now.registered = true) := by
  have set {other : Nat} {before now : Caller} (present : s.callers.get? other = some before)
      (request : now.request = before.request) (registered : before.registered = true → now.registered = true) :
      ∃ after, (s.callers.set other now).get? uuid = some after ∧ after.request = caller.request ∧
        (caller.registered = true → after.registered = true) := by
    by_cases same : uuid = other
    · subst same
      cases present.symm.trans found
      exact ⟨now, by simp, request, registered⟩
    · exact ⟨caller, by simpa [Dict.get?_set, same] using found, rfl, id⟩
  cases steps with
  | called request =>
    have different : uuid ≠ s.created := Nat.ne_of_lt (was.numbered uuid caller found)
    exact ⟨caller, by simpa [Dict.get?_set, different] using found, rfl, id⟩
  | proceeded other before present next proceeds =>
    cases proceeds with
    | stuck => exact ⟨caller, found, rfl, id⟩
    | moved now request registered removing => exact set present request fun was => registered.trans was
    | added stage blocking unlocked => exact set present rfl (by simp [Caller.registered, blocking])
    | removed rc stage unlocked => exact set present rfl (by simp [Caller.registered, stage])
  | delivered item other rest working before present => exact set present rfl id
  | _ => exact ⟨caller, found, rfl, id⟩

/-- A request that has left the table does not come back. -/
theorem Steps.unlisted (steps : Steps s next) (found : s.callers.get? uuid = some caller) (registered : caller.registered = true)
    (absent : s.reqDb.get? uuid = none) : next.1.reqDb.get? uuid = none := by
  cases steps with
  | proceeded other before present next proceeds =>
    cases proceeds with
    | stuck => exact absent
    | moved => exact absent
    | added stage blocking unlocked =>
      have different : uuid ≠ other := by
        rintro rfl
        cases present.symm.trans found
        simp [Caller.registered, stage] at registered
      rw [Dict.get?_set, if_neg different]
      exact absent
    | removed rc stage unlocked =>
      rw [Dict.get?_erase, absent, ite_self]
  | began item rest idle queued =>
    have routed := routes s item.event
    by_cases member : uuid ∈ (s.route item.event).1
    · obtain ⟨request, present, -⟩ := routed.concerned uuid member
      simp [absent] at present
    · exact (routed.others uuid member).trans absent
  | _ => exact absent

theorem Steps.registers (steps : Steps s next) (said : .registered uuid ∈ next.2) :
    ∃ now, next.1.callers.get? uuid = some now ∧ now.registered = true := by
  cases steps with
  | proceeded other before present next proceeds =>
    cases proceeds with
    | added stage blocking unlocked =>
      cases List.mem_singleton.mp said
      exact ⟨{ before with stage := .preparing }, by simp [State.goto], by simp [Caller.registered, blocking]⟩
    | _ => simp at said
  | _ => simp at said

theorem Steps.begins (steps : Steps s next) {item : Item} {targets : List Nat} (said : next.2 = [.began item targets]) :
    next.1.reqDb = (s.route item.event).2 := by
  cases steps with
  | began => simp_all
  | proceeded other before present next proceeds => cases proceeds <;> simp at said
  | _ => simp at said

theorem Steps.finishes (steps : Steps s next) {item : Item} (said : next.2 = [.finished item]) :
    s.worker = .delivering item [] := by
  cases steps with
  | finished => simp_all
  | proceeded other before present next proceeds => cases proceeds <;> simp at said
  | _ => simp at said

end Callers

/-- What the loss of a connection does to the requests that were registered before the
worker took it: they leave the table, and have an event when the worker is done. -/
structure Losses (s : State) (log : List Entry) : Prop where
  joined : ∀ uuid, .registered uuid ∈ log → ∃ caller, s.callers.get? uuid = some caller ∧ caller.registered = true
  cleared : ∀ before item targets later event, log = before ++ .began item targets :: later →
    item.event = .peerLifecycle event → event.eventType.isLoss = true →
    ∀ uuid caller, .registered uuid ∈ before → s.callers.get? uuid = some caller → Addressed caller.request event →
      s.reqDb.get? uuid = none
  settled : ∀ first item later event, log = first ++ .finished item :: later → item.event = .peerLifecycle event →
    event.eventType.isLoss = true → ∀ before targets middle, first = before ++ .began item targets :: middle →
    ∀ uuid caller, .registered uuid ∈ before → s.callers.get? uuid = some caller → Addressed caller.request event →
      received uuid first ≠ []

/-- A loss takes the requests that are addressed to it out of the table. -/
theorem route_loss (s : State) {event : LifecycleEvent} (loss : event.eventType.isLoss = true) (uuid : Nat) :
    (uuid ∈ (s.route (.peerLifecycle event)).1 ↔ ∃ request, s.reqDb.get? uuid = some request ∧ Addressed request event) ∧
    ((s.route (.peerLifecycle event)).2.get? uuid =
      if uuid ∈ (s.route (.peerLifecycle event)).1 then none else s.reqDb.get? uuid) := by
  have targeted : uuid ∈ (s.route (.peerLifecycle event)).1 ↔
      ∃ request, s.reqDb.get? uuid = some request ∧ Addressed request event := by
    simp only [State.route, loss, if_true, Dict.mem_keys_iff, Dict.get?_filter, Option.isSome_iff_exists,
      Option.filter_eq_some_iff, targetsPeer_iff]
  refine ⟨targeted, ?_⟩
  split
  next member =>
    obtain ⟨request, present, addressed⟩ := targeted.mp member
    simp [State.route, loss, Dict.get?_filter, present, targetsPeer_iff.mpr addressed]
  next absent => exact (routes s (.peerLifecycle event)).others uuid absent

namespace Losses

variable {s : State} {log : List Entry} {next : State × List Entry}

theorem step (was : Losses s log) (correlated : Correlated s log) (steps : Steps s next) : Losses next.1 (log ++ next.2) := by
  have short := steps.short
  -- the caller of a request that is registered already
  have origin {uuid : Nat} {now : Caller} (registered : .registered uuid ∈ log) (found : next.1.callers.get? uuid = some now) :
      ∃ caller, s.callers.get? uuid = some caller ∧ caller.registered = true ∧ now.request = caller.request := by
    obtain ⟨caller, present, joined⟩ := was.joined uuid registered
    obtain ⟨after, there, request, -⟩ := steps.keeps correlated present
    cases there.symm.trans found
    exact ⟨caller, present, joined, request⟩
  refine ⟨fun uuid member => ?_, fun before item targets later event split lifecycle loss uuid now registered found addressed => ?_,
    fun first item later event split lifecycle loss before targets middle earlier uuid now registered found addressed => ?_⟩
  · rcases List.mem_append.mp member with earlier | new
    · obtain ⟨caller, present, joined⟩ := was.joined uuid earlier
      obtain ⟨now, there, -, kept⟩ := steps.keeps correlated present
      exact ⟨now, there, kept joined⟩
    · exact steps.registers new
  · rcases Machine.split_append short split with ⟨rfl, only, -⟩ | ⟨rest, -, rfl⟩
    · obtain ⟨caller, present, joined, request⟩ := origin registered found
      rw [steps.begins only, lifecycle]
      obtain ⟨targeted, rest⟩ := route_loss s loss uuid
      rw [rest]
      split
      · rfl
      next absent =>
        cases listed : s.reqDb.get? uuid with
        | none => rfl
        | some entry =>
          obtain ⟨owner, there, same, -⟩ := correlated.listed uuid entry listed
          cases there.symm.trans present
          exact absurd (targeted.mpr ⟨entry, listed, same ▸ request ▸ addressed⟩) absent
    · obtain ⟨caller, present, joined, request⟩ := origin (by simp [registered]) found
      refine steps.unlisted present joined ?_
      exact was.cleared before item targets rest event rfl lifecycle loss uuid caller registered present (request ▸ addressed)
  · rcases Machine.split_append short split with ⟨rfl, only, -⟩ | ⟨rest, -, rfl⟩
    · obtain ⟨caller, present, joined, request⟩ := origin (by simp [earlier, registered]) found
      rw [request] at addressed
      have gone := was.cleared before item targets middle event earlier lifecycle loss uuid caller registered present addressed
      have fate := correlated.fates uuid caller present addressed.1
      rw [joined, gone] at fate
      refine fate.of_unlisted.resolve_left ?_
      simp [State.pending, steps.finishes only]
    · obtain ⟨caller, present, joined, request⟩ := origin (by simp [earlier, registered]) found
      exact was.settled first item rest event rfl lifecycle loss before targets middle earlier uuid caller registered present
        (request ▸ addressed)

end Losses

theorem losses_start : Losses .start [] where
  joined := by simp
  cleared := by simp
  settled := by simp

/-- What holds after every run. -/
structure Consistent (s : State) (log : List Entry) : Prop where
  correlated : Correlated s log
  history : History s log
  losses : Losses s log

theorem consistent_run (actions : List Action) :
    Consistent (machine.final .start actions) (machine.log .start actions) := by
  have admits : machine.Admits (fun _ _ => True) .start actions := machine.admits_of_forall (fun _ _ => trivial)
  refine machine.run_invariant Consistent ⟨correlated_start, history_start, losses_start⟩ (fun s log action was _ => ?_) admits
  have steps := was.correlated.steps action
  exact ⟨was.correlated.step steps, was.history.step steps, was.losses.step was.correlated steps⟩

end DEFw.Workers
