import DEFw.Directory.View

namespace DEFw.Directory
open Py

variable {τ : Type}

/-- CONNECTED and DISCONNECTED take turns, and CONNECTED comes first. -/
def Alternates (events : List ServiceEventType) : Prop :=
  (.disconnected :: events).IsChain (· ≠ ·)

instance (events : List ServiceEventType) : Decidable (Alternates events) :=
  inferInstanceAs (Decidable (List.IsChain _ _))

theorem alternates_concat {events : List ServiceEventType} {type : ServiceEventType} :
    Alternates (events ++ [type]) ↔
      Alternates events ∧ (type = .connected ↔ events.getLast? ≠ some .connected) := by
  unfold Alternates
  rw [← List.cons_append, List.isChain_append, List.getLast?_cons]
  have turn : (∀ earlier ∈ some (events.getLast?.getD .disconnected), ∀ later ∈ [type].head?, earlier ≠ later) ↔
      (type = .connected ↔ events.getLast? ≠ some .connected) := by
    rcases events.getLast? with _ | last
    · cases type <;> simp
    · cases type <;> cases last <;> simp
  rw [turn]
  simp

/-- The callback has one registration for each kind of service event, without
a filter and on behalf of the given runtime. -/
def SubscribedOnce (callback : Nat) (runtimeId : String) (d : Directory τ) : Prop :=
  ∀ type, ∃ registration,
    (d.registrations type).filter (fun registration => registration.callback = callback) = [registration] ∧
      registration.subscriberRuntimeId = runtimeId ∧ registration.filters = []

theorem SubscribedOnce.subscribed {callback : Nat} {runtimeId : String} {d : Directory τ}
    (once : SubscribedOnce callback runtimeId d) : Subscribed callback runtimeId d := by
  intro type
  obtain ⟨registration, only, subscriber, unfiltered⟩ := once type
  have member : registration ∈ (d.registrations type).filter (fun other => other.callback = callback) := by
    rw [only]
    exact List.mem_singleton_self registration
  obtain ⟨registered, own⟩ := List.mem_filter.mp member
  exact ⟨registration, registered, of_decide_eq_true own, subscriber, unfiltered⟩

theorem SubscribedOnce.hearers {callback : Nat} {runtimeId : String} {d : Directory τ}
    (once : SubscribedOnce callback runtimeId d) (type : ServiceEventType) (record : ServiceRecord τ) :
    d.hearers callback type record = 1 := by
  obtain ⟨registration, only, _, unfiltered⟩ := once type
  unfold Directory.hearers
  rw [List.countP_eq_length_filter, List.filter_comm, only]
  simp [eventMatches, unfiltered]

/-- A removal that finishes the report of a lost connection: same peer, same
runtime and no earlier than the loss. -/
def cleanupOf [LE τ] (lost removed : PeerEvent τ) : Prop :=
  removed.eventType = .removed ∧ removed.reason = some "transport-cleanup" ∧
    removed.peerHandle = lost.peerHandle ∧ removed.runtime = lost.runtime ∧
    ∃ lostAt ∈ lost.timestamp, ∃ removedAt ∈ removed.timestamp, lostAt ≤ removedAt

/-- Every lost connection is reported as the transport reports it: a loss with
its reason and, later, the clean-up of the same connection. -/
def LossesReported [LE τ] : List (PeerEvent τ) → Prop
  | [] => True
  | event :: later =>
    (event.eventType = .lost → (orStr event.reason none).isSome ∧ ∃ removed ∈ later, cleanupOf event removed) ∧
      LossesReported later

def peerEvents (ops : List (Op τ)) : List (PeerEvent τ) :=
  ops.filterMap (fun op =>
    match op with
    | .applyPeerEvent event _ => some event
    | _ => none)

section Run

variable [Add τ] [LinearOrder τ] [Zero τ]

theorem SubscribedOnce.step {callback : Nat} {runtimeId : String} {d : Directory τ} {op : Op τ}
    (once : SubscribedOnce callback runtimeId d) (keeps : op.keepsRegistrations = true)
    (spares : op.spares runtimeId = true) : SubscribedOnce callback runtimeId (d.step op).1 := by
  intro type
  obtain ⟨registration, only, subscriber, unfiltered⟩ := once type
  refine ⟨registration, ?_, subscriber, unfiltered⟩
  rcases registrations_step keeps type with same | ⟨event, clock, lost, rfl, loss, reported, filtered⟩
  · rw [same]
    exact only
  · have other : lost ≠ runtimeId := by simpa [Op.spares, loss, reported] using spares
    rw [filtered, List.filter_comm, only]
    simp [subscriber, Ne.symm other]

/-- A loss or a deregistration that takes effect on the service finds its
record UP. -/
def LossFindsUp (serviceId : String) (d : Directory τ) (op : Op τ) : Prop :=
  ∀ record, d.records.get? serviceId = some record → op.endsService record → record.state = .up

instance (serviceId : String) (d : Directory τ) (op : Op τ) : Decidable (LossFindsUp serviceId d op) :=
  decidable_of_iff
    ((d.records.get? serviceId).all (fun record => op.endsService record → record.state = .up) = true)
    (by simp [LossFindsUp, Option.all_eq_true, imp_iff_not_or])

/-- A record that went down keeps its state and reason unless the operation
purges it, makes it UP again or deregisters it. -/
def LossKept (serviceId : String) (d : Directory τ) (op : Op τ) : Prop :=
  ∀ old new, d.records.get? serviceId = some old → (old.state = .down ∨ old.state = .timedOut) →
    (d.step op).1.records.get? serviceId = some new →
      new.state = .up ∨ new.state = .deregistered ∨ (new.state = old.state ∧ new.downReason = old.downReason)

/-- The published event is the one whose turn it is exactly when a loss finds
the record UP. -/
theorem RecordChange.turn_iff {d : Directory τ} {serviceId : String} {op : Op τ} {new : Option (ServiceRecord τ)}
    {published : Option ServiceEventType} (change : RecordChange d serviceId op new published) :
    (∀ type, published = some type → (type = .connected ↔ ¬Active (d.records.get? serviceId))) ↔
      LossFindsUp serviceId d op := by
  cases change with
  | kept spared =>
    have found : LossFindsUp serviceId d op := fun record atRecord ends => absurd ends (spared record atRecord)
    simp [found]
  | @registered record peer now _ new _ active previous outcome own isUp decided =>
    have found : LossFindsUp serviceId d (.registerService record peer now) := fun _ _ ends => nomatch ends
    rcases nextGeneration_ok decided with ⟨absent, _, rfl⟩ | ⟨_, _, _, _, _, rfl⟩ | ⟨old, atOld, notUp, _, rfl⟩
    · simp [found, absent, Active]
    · simp [found]
    · simp [found, atOld, notUp, Active]
  | @deregistered old runtimeId generation now found runtime current =>
    have ends : (Op.deregisterService serviceId runtimeId generation now).endsService old :=
      ⟨(d.keyed serviceId old found).symm, runtime, current⟩
    simp [LossFindsUp, found, ends, Active]
  | @applied old event clock found =>
    rcases old.applyPeerEvent_cases event (event.timestamp.getD clock) d.retentionSeconds with
      ⟨refused, same⟩ | ⟨accepted, loss, same⟩ | ⟨_, ready, down, same⟩ | ⟨_, notLoss, _, same⟩
    · simp [same, LossFindsUp, found, Op.endsService, refused]
    · simp [same, LossFindsUp, found, Op.endsService, accepted, loss, Active, peerServiceEvent]
    · have notUp : old.state ≠ .up := by
        rcases down with down | down <;> simp [down]
      simp [same, LossFindsUp, found, Op.endsService, ready, PeerEventType.isLoss, Active, peerServiceEvent, notUp]
    · simp [same, LossFindsUp, found, Op.endsService, notLoss]
  | @purged op old now found purges expired =>
    have spared : LossFindsUp serviceId d op := by
      intro record _ ends
      cases op <;> simp [Op.purgesAt, Op.endsService] at purges ends
    simp [spared]

theorem LossFindsUp.kept {d : Directory τ} {serviceId : String} {op : Op τ} (findsUp : LossFindsUp serviceId d op) :
    LossKept serviceId d op := by
  intro old new atOld down atNew
  have notUp : old.state ≠ .up := by
    rcases down with down | down <;> simp [down]
  obtain ⟨published, change, _⟩ := d.step_explained op serviceId
  rw [atNew] at change
  generalize after : some new = result at change
  cases change with
  | kept _ =>
    rw [atOld] at after
    cases after
    exact Or.inr (Or.inr ⟨rfl, rfl⟩)
  | registered _ _ isUp _ =>
    cases after
    exact Or.inl isUp
  | deregistered found _ _ =>
    cases after
    exact Or.inr (Or.inl rfl)
  | @applied other event clock found =>
    rw [found] at atOld
    cases atOld
    rcases old.applyPeerEvent_cases event (event.timestamp.getD clock) d.retentionSeconds with
      ⟨_, same⟩ | ⟨accepted, loss, _⟩ | ⟨_, _, _, same⟩ | ⟨_, _, _, same⟩
    · rw [same] at after
      cases after
      exact Or.inr (Or.inr ⟨rfl, rfl⟩)
    · exact absurd (findsUp old found ⟨loss, accepted⟩) notUp
    · rw [same] at after
      cases after
      exact Or.inl rfl
    · rw [same] at after
      cases after
      exact Or.inr (Or.inr ⟨rfl, rfl⟩)
  | purged => cases after

/-- One more operation keeps the alternation exactly when a loss finds the
record UP. -/
theorem alternates_step {callback : Nat} {runtimeId serviceId : String} {d : Directory τ} {op : Op τ}
    {log : List (Effect τ)} (once : SubscribedOnce callback runtimeId (d.step op).1)
    (known : (heard callback serviceId log).getLast? = some .connected ↔ Active (d.records.get? serviceId)) :
    Alternates (heard callback serviceId (log ++ (d.step op).2)) ↔
      Alternates (heard callback serviceId log) ∧ LossFindsUp serviceId d op := by
  obtain ⟨published, change, echoed⟩ := d.step_explained op serviceId
  rw [heard_append, echoed callback, ← change.turn_iff, ← known]
  cases published with
  | none => simp [echo_none]
  | some type =>
    obtain ⟨record, atRecord⟩ := Option.isSome_iff_exists.mp (change.active_iff.2 rfl)
    have single : (d.step op).1.echo callback (some record) (some type) = [type] := by
      simp only [echo, once.hearers, List.replicate_one]
    rw [atRecord, single, alternates_concat]
    simp

/-- The events heard about a service alternate, and what the first loss wrote
stays, exactly in the runs where every loss and every deregistration that takes
effect on the service finds its record UP. -/
theorem one_disconnect_per_loss_iff (start : Directory τ) (callback : Nat) (runtimeId : String)
    (inactive : start.upServices = ∅) (once : SubscribedOnce callback runtimeId start) (ops : List (Op τ))
    (calls : ∀ op ∈ ops, op.keepsRegistrations = true ∧ op.spares runtimeId = true) (serviceId : String) :
    (Alternates (heard callback serviceId (machine.log start ops)) ∧ machine.Admits (LossKept serviceId) start ops) ↔
      machine.Admits (LossFindsUp serviceId) start ops := by
  have invariant : SubscribedOnce callback runtimeId (machine.final start ops) ∧
      ((heard callback serviceId (machine.log start ops)).getLast? = some .connected ↔
        Active ((machine.final start ops).records.get? serviceId)) ∧
      (Alternates (heard callback serviceId (machine.log start ops)) ↔
        machine.Admits (LossFindsUp serviceId) start ops) := by
    induction ops using List.reverseRecOn with
    | nil =>
      have unseen : ¬Active (start.records.get? serviceId) := by
        rw [← mem_upServices, inactive]
        simp
      simp [Machine.final, Machine.log, Machine.Admits, once, unseen, Alternates]
    | append_singleton ops op ih =>
      obtain ⟨keeps, spares⟩ := calls op (List.mem_append_right ops (List.mem_singleton_self op))
      obtain ⟨earlier, known, turns⟩ := ih (fun other member => calls other (List.mem_append_left _ member))
      have next := earlier.step keeps spares
      rw [machine.final_concat, machine.log_concat, machine.admits_append]
      refine ⟨next, last_heard_step next.subscribed known, ?_⟩
      rw [← turns]
      exact (alternates_step next known).trans (by simp [Machine.Admits])
  obtain ⟨_, _, turns⟩ := invariant
  rw [turns]
  exact ⟨And.left, fun findsUp => ⟨findsUp, machine.admits_mono (fun d op => LossFindsUp.kept) findsUp⟩⟩

end Run

/-- A service is lost, restarts elsewhere and only then is the old connection
cleaned up. -/
def lateCleanupRun : List (Op Nat) :=
  [.registerService (.minimal "svc" "r1" "p1") none 10,
    .applyPeerEvent { eventType := .lost, peerHandle := some "p1", remoteRuntimeId := some "r1",
                      reason := some "heartbeat-timeout", timestamp := some 20 } 0,
    .registerService (.minimal "svc" "r2" "p2") none 30,
    .applyPeerEvent { eventType := .removed, peerHandle := some "p1", remoteRuntimeId := some "r1",
                      reason := some "transport-cleanup", timestamp := some 40 } 0]

theorem one_disconnect_per_loss_late :
    heard 7 "svc" (machine.log watched lateCleanupRun) = [.connected, .disconnected, .connected] ∧
      Alternates (heard 7 "svc" (machine.log watched lateCleanupRun)) ∧
      machine.Admits (LossKept "svc") watched lateCleanupRun := by
  refine ⟨by decide, (one_disconnect_per_loss_iff watched 7 "watcher" (by decide) ?_ lateCleanupRun (by decide)
    "svc").mpr (by decide)⟩
  intro type
  cases type <;> exact ⟨_, rfl, rfl, rfl⟩

/-- The transport's own report of one timed-out connection. -/
def timeoutRun : List (Op Nat) :=
  [.registerService (.minimal "svc" "r1" "p1") none 10,
    .applyPeerEvent { eventType := .lost, peerHandle := some "p1", remoteRuntimeId := some "r1",
                      reason := some "heartbeat-timeout", timestamp := some 20 } 0,
    .applyPeerEvent { eventType := .removed, peerHandle := some "p1", remoteRuntimeId := some "r1",
                      reason := some "transport-cleanup", timestamp := some 20 } 0]

/-- The clean-up of a connection already reported lost disconnects its service
a second time and overwrites the state and the reason of the loss. -/
theorem cleanup_disconnects_again :
    LossesReported (peerEvents timeoutRun) ∧ SubscribedOnce 7 "watcher" watched ∧
      (∀ op ∈ timeoutRun, op.keepsRegistrations = true ∧ op.spares "watcher" = true) ∧
      heard 7 "svc" (machine.log watched timeoutRun) = [.connected, .disconnected, .disconnected] ∧
      ¬Alternates (heard 7 "svc" (machine.log watched timeoutRun)) ∧
      ((machine.final watched (timeoutRun.take 2)).records.get? "svc").map
        (fun record => (record.state, record.downReason)) = some (.timedOut, "heartbeat-timeout") ∧
      ((machine.final watched timeoutRun).records.get? "svc").map
        (fun record => (record.state, record.downReason)) = some (.down, "transport-cleanup") ∧
      ¬machine.Admits (LossKept "svc") watched timeoutRun := by
  refine ⟨?_, ?_, by decide, by decide, by decide, by decide, by decide, ?_⟩
  · simp [peerEvents, timeoutRun, LossesReported, cleanupOf, orStr, PeerEvent.runtime]
  · intro type
    cases type <;> exact ⟨_, rfl, rfl, rfl⟩
  · rintro ⟨_, _, third, _⟩
    have kept := third _ _ rfl (Or.inr rfl) rfl
    revert kept
    decide

end DEFw.Directory
