import DEFw.Directory.Fencing

namespace DEFw.Directory
open Py

variable {τ : Type}

/-- A subscriber's picture of the directory: the services it has seen connect
and not disconnect since. -/
def view (events : List (ServiceEvent τ)) : Finset String :=
  events.foldl (fun seen event =>
    match event.event with
    | .connected => insert event.serviceId seen
    | .disconnected => seen.erase event.serviceId) ∅

/-- The services whose record is UP. -/
def upServices (d : Directory τ) : Finset String :=
  ((d.records.entries.filter (fun entry => entry.2.state = .up)).map Prod.fst).toFinset

/-- A stored value that is an active record. -/
def Active (stored : Option (ServiceRecord τ)) : Prop := ∃ record, stored = some record ∧ record.state = .up

theorem mem_upServices {d : Directory τ} {serviceId : String} :
    serviceId ∈ d.upServices ↔ Active (d.records.get? serviceId) := by
  simp only [upServices, List.mem_toFinset, List.mem_map, List.mem_filter, decide_eq_true_eq, Active]
  constructor
  · rintro ⟨⟨key, record⟩, ⟨member, isUp⟩, rfl⟩
    exact ⟨record, Dict.get?_eq_some_iff.mpr member, isUp⟩
  · rintro ⟨record, found, isUp⟩
    exact ⟨(serviceId, record), ⟨Dict.get?_eq_some_iff.mp found, isUp⟩, rfl⟩

/-- The picture of one service is the last thing heard about it. -/
theorem mem_view_iff (events : List (ServiceEvent τ)) (serviceId : String) :
    serviceId ∈ view events ↔
      ((events.filter (fun event => event.serviceId = serviceId)).map ServiceEvent.event).getLast? = some .connected := by
  induction events using List.reverseRecOn with
  | nil => simp [view]
  | append_singleton events event ih =>
    have folded : view (events ++ [event]) =
        match event.event with
        | .connected => insert event.serviceId (view events)
        | .disconnected => (view events).erase event.serviceId := by
      simp only [view, List.foldl_append, List.foldl_cons, List.foldl_nil]
    rw [folded]
    by_cases own : event.serviceId = serviceId
    · cases type : event.event <;> simp [own, type]
    · cases type : event.event <;> simp [own, Ne.symm own, ih]

theorem mem_view_delivered (callback : Nat) (effects : List (Effect τ)) (serviceId : String) :
    serviceId ∈ view (deliveredTo callback effects) ↔
      (heard callback serviceId effects).getLast? = some .connected :=
  mem_view_iff (deliveredTo callback effects) serviceId

/-- The callback hears both kinds of service events without a filter, on
behalf of the given runtime. -/
def Subscribed (callback : Nat) (runtimeId : String) (d : Directory τ) : Prop :=
  ∀ type, ∃ registration ∈ d.registrations type,
    registration.callback = callback ∧ registration.subscriberRuntimeId = runtimeId ∧ registration.filters = []

theorem Subscribed.hearers_pos {callback : Nat} {runtimeId : String} {d : Directory τ}
    (subscribed : Subscribed callback runtimeId d) (type : ServiceEventType) (record : ServiceRecord τ) :
    0 < d.hearers callback type record := by
  obtain ⟨registration, member, own, _, unfiltered⟩ := subscribed type
  refine List.countP_pos_iff.mpr ⟨registration, ?_, by simpa using own⟩
  exact List.mem_filter.mpr ⟨member, by simp [unfiltered, eventMatches]⟩

@[simp] theorem registrations_store (d : Directory τ) (record : ServiceRecord τ) (type : ServiceEventType) :
    (d.store record).registrations type = d.registrations type := rfl

/-- Removing a subscriber removes its registrations and nothing else. -/
theorem registrations_removeSubscriber (d : Directory τ) (runtimeId : String) (type : ServiceEventType) :
    (d.removeSubscriber runtimeId).registrations type =
      (d.registrations type).filter (fun registration => registration.subscriberRuntimeId ≠ runtimeId) := by
  simp only [registrations, removeSubscriber, Dict.get?_filter, Dict.get?_mapValues]
  cases d.eventRegistrations.get? type with
  | none => rfl
  | some known =>
    generalize remaining : known.filter (fun _ registration => registration.subscriberRuntimeId ≠ runtimeId) = left
    have values : left.values =
        known.values.filter (fun registration => registration.subscriberRuntimeId ≠ runtimeId) := by
      rw [← remaining]
      simp only [Dict.filter, Dict.values, List.filter_map]
      rfl
    rw [Option.getD_some, ← values, Option.map_some, remaining]
    -- An event type left without registrations is dropped, and reads as one without any.
    cases nothing : left.entries.isEmpty with
    | true =>
      have empty : left.entries = [] := List.isEmpty_iff.mp nothing
      simp [Option.filter, Dict.values, Dict.empty, empty]
    | false => simp [Option.filter, nothing]

/-- The calls that leave event registrations alone. -/
def Op.keepsRegistrations : Op τ → Bool
  | .registerEventNotification .. => false
  | .unregisterEventNotification _ => false
  | _ => true

/-- The call does not report the given runtime as lost. -/
def Op.spares (runtimeId : String) : Op τ → Bool
  | .applyPeerEvent event _ => !event.eventType.isLoss || event.runtime != some runtimeId
  | _ => true

section Run

variable [Add τ] [LinearOrder τ] [Zero τ]

/-- Registrations change only by the loss of their own runtime. -/
theorem registrations_step {d : Directory τ} {op : Op τ} (keeps : op.keepsRegistrations = true) (type : ServiceEventType) :
    (d.step op).1.registrations type = d.registrations type ∨
      ∃ event clock lost, op = .applyPeerEvent event clock ∧ event.eventType.isLoss = true ∧ event.runtime = some lost ∧
        (d.step op).1.registrations type =
          (d.registrations type).filter (fun registration => registration.subscriberRuntimeId ≠ lost) := by
  cases op with
  | registerService record peer now =>
    left
    cases outcome : d.registerService record peer now with
    | error exception => simp only [step, outcome]
    | ok result =>
      obtain ⟨stored, new, effects⟩ := result
      obtain ⟨_, _, _, _, same, _⟩ := registerService_ok outcome
      simp only [step, outcome, same, registrations_store]
  | deregisterService target runtimeId generation now =>
    left
    cases outcome : d.deregisterService target runtimeId generation now with
    | error exception => simp only [step, outcome]
    | ok result =>
      obtain ⟨stored, new, effects⟩ := result
      obtain ⟨_, _, _, _, _, same, _⟩ := deregisterService_ok outcome
      simp only [step, outcome, same, registrations_store]
  | applyPeerEvent event clock =>
    have updated : (d.step (.applyPeerEvent event clock)).1.registrations type =
        (d.forgetSubscriber event).registrations type := rfl
    rw [updated]
    cases loss : event.eventType.isLoss with
    | false =>
      left
      simp only [forgetSubscriber, loss]
    | true =>
      cases lost : event.runtime with
      | none =>
        left
        simp only [forgetSubscriber, loss, lost]
      | some runtimeId =>
        refine Or.inr ⟨event, clock, runtimeId, rfl, loss, lost, ?_⟩
        simp only [forgetSubscriber, loss, lost, registrations_removeSubscriber]
  | purgeExpired now clock => exact Or.inl rfl
  | resolveServices filters clock => exact Or.inl rfl
  | query includeInactive clock => exact Or.inl rfl
  | registerEventNotification => simp [Op.keepsRegistrations] at keeps
  | unregisterEventNotification => simp [Op.keepsRegistrations] at keeps
  | addLifecycleListener listener =>
    left
    simp only [step, addLifecycleListener]
    split <;> rfl
  | removeLifecycleListener listener => exact Or.inl rfl

theorem Subscribed.step {callback : Nat} {runtimeId : String} {d : Directory τ} {op : Op τ}
    (subscribed : Subscribed callback runtimeId d) (keeps : op.keepsRegistrations = true)
    (spares : op.spares runtimeId = true) :
    Subscribed callback runtimeId (d.step op).1 := by
  intro type
  obtain ⟨registration, member, own, subscriber, unfiltered⟩ := subscribed type
  refine ⟨registration, ?_, own, subscriber, unfiltered⟩
  rcases registrations_step keeps type with same | ⟨event, clock, lost, rfl, loss, reported, filtered⟩
  · rw [same]
    exact member
  · rw [filtered]
    refine List.mem_filter.mpr ⟨member, ?_⟩
    have other : lost ≠ runtimeId := by simpa [Op.spares, loss, reported] using spares
    simpa [subscriber] using Ne.symm other

/-- Whether a service is active after an operation is decided by the event the
operation publishes about it, and nothing changes silently. -/
theorem RecordChange.active_iff {d : Directory τ} {serviceId : String} {op : Op τ} {new : Option (ServiceRecord τ)}
    {published : Option ServiceEventType} (change : RecordChange d serviceId op new published) :
    (Active new ↔ published = some .connected ∨ (published = none ∧ Active (d.records.get? serviceId))) ∧
      (published.isSome → new.isSome) := by
  cases change with
  | kept _ => simp
  | @registered _ _ _ _ new _ active previous outcome own isUp decided =>
    have nowActive : Active (some new) := ⟨new, rfl, isUp⟩
    refine ⟨?_, fun _ => rfl⟩
    rcases nextGeneration_ok decided with ⟨_, _, rfl⟩ | ⟨old, found, wasUp, _, _, rfl⟩ | ⟨_, _, _, _, rfl⟩
    · simp [nowActive]
    · have wasActive : Active (d.records.get? serviceId) := ⟨old, found, wasUp⟩
      simp [nowActive, wasActive]
    · simp [nowActive]
  | deregistered found _ _ => simp [Active, ServiceRecord.deregister]
  | @applied old event clock found =>
    refine ⟨?_, fun _ => rfl⟩
    rcases old.applyPeerEvent_cases event (event.timestamp.getD clock) d.retentionSeconds with
      ⟨_, same⟩ | ⟨_, _, same⟩ | ⟨_, _, _, same⟩ | ⟨_, _, _, same⟩ <;> rw [same]
    · simp [found]
    · simp [Active, peerServiceEvent, ServiceRecord.lose_not_up]
    · simp [Active, peerServiceEvent, ServiceRecord.revive]
    · simp [Active, found, ServiceRecord.touch]
  | @purged _ old now found purges expired =>
    -- An active record has no deadline, so it does not expire.
    have inactive : old.state ≠ .up := by
      intro isUp
      simp [ServiceRecord.expired, (old.up_clean isUp).2] at expired
    simp [Active, found, inactive]

theorem getLast?_append_replicate {α : Type} (items : List α) {count : Nat} (some_copy : 0 < count) (item : α) :
    (items ++ List.replicate count item).getLast? = some item := by
  rw [List.getLast?_append_of_ne_nil]
  · simp [List.getLast?_replicate, some_copy.ne']
  · simp [some_copy.ne']

/-- What the subscriber last heard about a service stays in step with the
record through every operation. -/
theorem last_heard_step {callback : Nat} {runtimeId serviceId : String} {d : Directory τ} {op : Op τ}
    {log : List (Effect τ)} (subscribed : Subscribed callback runtimeId (d.step op).1)
    (before : (heard callback serviceId log).getLast? = some .connected ↔ Active (d.records.get? serviceId)) :
    (heard callback serviceId (log ++ (d.step op).2)).getLast? = some .connected ↔
      Active ((d.step op).1.records.get? serviceId) := by
  obtain ⟨published, change, echoed⟩ := d.step_explained op serviceId
  obtain ⟨active, stored⟩ := change.active_iff
  rw [heard_append, echoed callback, active]
  cases published with
  | none => simpa [echo_none] using before
  | some type =>
    obtain ⟨record, atRecord⟩ := Option.isSome_iff_exists.mp (stored rfl)
    have heardIt := subscribed.hearers_pos type record
    rw [atRecord]
    simp only [echo]
    rw [getLast?_append_replicate _ heardIt]
    simp

/-- After every operation of every run, folding the events delivered to a
subscriber gives exactly the services whose record is UP. -/
theorem subscriber_view_exact (start : Directory τ) (callback : Nat) (runtimeId : String)
    (inactive : start.upServices = ∅) (subscribed : Subscribed callback runtimeId start) (ops : List (Op τ))
    (calls : ∀ op ∈ ops, op.keepsRegistrations = true ∧ op.spares runtimeId = true) :
    view (deliveredTo callback (machine.log start ops)) = (machine.final start ops).upServices := by
  have invariant : Subscribed callback runtimeId (machine.final start ops) ∧
      ∀ serviceId, (heard callback serviceId (machine.log start ops)).getLast? = some .connected ↔
        Active ((machine.final start ops).records.get? serviceId) := by
    refine machine.run_invariant (fun d log => Subscribed callback runtimeId d ∧ ∀ serviceId,
      (heard callback serviceId log).getLast? = some .connected ↔ Active (d.records.get? serviceId)) ?_ ?_
      (Machine.admits_of_forall machine calls)
    · refine ⟨subscribed, ?_⟩
      intro serviceId
      rw [← mem_upServices, inactive]
      simp
    · intro d log op ⟨still, known⟩ ⟨keeps, spares⟩
      have next := still.step keeps spares
      exact ⟨next, fun serviceId => last_heard_step next (known serviceId)⟩
  ext serviceId
  rw [mem_view_delivered, mem_upServices]
  exact invariant.2 serviceId

/-- A directory with one subscriber for both kinds of events. -/
def watched : Directory Nat :=
  machine.final (new 300 "dir")
    [.registerEventNotification (some 7) "SERVICE_CONNECTED" (some "watcher") [] "reg-1",
      .registerEventNotification (some 7) "SERVICE_DISCONNECTED" (some "watcher") [] "reg-2"]

theorem subscriber_view_exact_restart :
    view (deliveredTo 7 (machine.log watched restartRun)) = {"svc"} ∧
      view (deliveredTo 7 (machine.log watched restartRun)) = (machine.final watched restartRun).upServices :=
  ⟨by decide, subscriber_view_exact watched 7 "watcher" (by decide) (by
    intro type
    cases type <;> decide) restartRun (by decide)⟩

end Run

end DEFw.Directory
