import DEFw.Directory.Steps

namespace DEFw.Directory
open Py

variable {τ : Type}

/-- The service and the runtime a registration is for, after the fallbacks of
`register_service`. -/
def RecordArg.names (record : RecordArg) (serviceId : String) : Prop :=
  orStr record.serviceId record.name = some serviceId

def claimedRuntime (record : RecordArg) (peer : Option PeerArg) : Option String :=
  orStr record.runtimeId (peer.getD {}).runtimeId

/-- The generations handed out for a service, each with the runtime id that
received it, in the order of the registrations that returned. -/
def handouts (serviceId : String) (effects : List (Effect τ)) : List (Nat × String) :=
  effects.filterMap (fun effect =>
    match effect with
    | .registered record => if record.serviceId = serviceId then some (record.generation, record.runtimeId) else none
    | _ => none)

@[simp] theorem handouts_nil (serviceId : String) : handouts serviceId ([] : List (Effect τ)) = [] := rfl

@[simp] theorem handouts_append (serviceId : String) (before after : List (Effect τ)) :
    handouts serviceId (before ++ after) = handouts serviceId before ++ handouts serviceId after :=
  List.filterMap_append

@[simp] theorem handouts_notifyLifecycle (d : Directory τ) (serviceId : String) (notice : LifecycleNotice τ) :
    handouts serviceId (d.notifyLifecycle notice) = [] := by
  simp [handouts, notifyLifecycle]

@[simp] theorem handouts_publishServiceEvent (d : Directory τ) (serviceId : String) (type : ServiceEventType)
    (record : ServiceRecord τ) (reason : String) :
    handouts serviceId (d.publishServiceEvent type record reason) = [] := by
  simp [handouts, publishServiceEvent]

theorem handouts_flatMap {α : Type} (serviceId : String) {items : List α} {effects : α → List (Effect τ)}
    (silent : ∀ item, handouts serviceId (effects item) = []) : handouts serviceId (items.flatMap effects) = [] := by
  induction items with
  | nil => rfl
  | cons item rest ih => rw [List.flatMap_cons, handouts_append, silent, ih, List.append_nil]

theorem nextGeneration_up {current : ServiceRecord τ} {serviceId runtimeId : String} (isUp : current.state = .up)
    (other : current.runtimeId ≠ runtimeId) :
    nextGeneration (some current) serviceId runtimeId =
      .error (.error ("service_id " ++ serviceId ++ " already has a live runtime")) := by
  simp [nextGeneration, isUp, other]

/-- The generation of a registration is the first, the current one of the same
live runtime, or the successor of an inactive record's. -/
theorem nextGeneration_ok {current : Option (ServiceRecord τ)} {serviceId runtimeId : String} {generation : Nat}
    {active : Bool} {previous : Option Nat}
    (decided : nextGeneration current serviceId runtimeId = .ok (generation, active, previous)) :
    (current = none ∧ generation = 1 ∧ active = true) ∨
      (∃ old, current = some old ∧ old.state = .up ∧ old.runtimeId = runtimeId ∧
        generation = old.generation ∧ active = false) ∨
      (∃ old, current = some old ∧ old.state ≠ .up ∧ generation = old.generation + 1 ∧ active = true) := by
  unfold nextGeneration at decided
  split at decided
  · cases decided
    exact Or.inl ⟨rfl, rfl, rfl⟩
  · rename_i old
    split at decided
    · rename_i isUp
      split at decided
      · cases decided
      · rename_i same
        cases decided
        exact Or.inr (Or.inl ⟨old, rfl, isUp, not_not.mp same, rfl, rfl⟩)
    · rename_i notUp
      cases decided
      exact Or.inr (Or.inr ⟨old, rfl, notUp, rfl, rfl⟩)

/-- What the stored record says about the generations handed out so far: each
is behind the stored one, or is the stored one and belongs to its runtime. -/
structure FencedBy (serviceId : String) (d : Directory τ) (handed : List (Nat × String)) : Prop where
  ordered : handed.Pairwise (fun earlier later => earlier.1 ≤ later.1 ∧ (earlier.1 = later.1 → earlier.2 = later.2))
  behind : ∀ pair ∈ handed, ∃ current, d.records.get? serviceId = some current ∧
    (pair.1 < current.generation ∨ (pair.1 = current.generation ∧ pair.2 = current.runtimeId))

theorem FencedBy.of_same_identity {serviceId : String} {d after : Directory τ} {handed : List (Nat × String)}
    (fenced : FencedBy serviceId d handed)
    (same : ∀ old, d.records.get? serviceId = some old → ∃ new, after.records.get? serviceId = some new ∧
      new.generation = old.generation ∧ new.runtimeId = old.runtimeId) : FencedBy serviceId after handed := by
  refine ⟨fenced.ordered, ?_⟩
  intro pair member
  obtain ⟨old, atOld, before⟩ := fenced.behind pair member
  obtain ⟨new, atNew, generation, runtime⟩ := same old atOld
  exact ⟨new, atNew, by rw [generation, runtime]; exact before⟩

theorem FencedBy.register {serviceId : String} {d after : Directory τ} {handed : List (Nat × String)}
    {new : ServiceRecord τ} {active : Bool} {previous : Option Nat} (fenced : FencedBy serviceId d handed)
    (decided : nextGeneration (d.records.get? serviceId) serviceId new.runtimeId = .ok (new.generation, active, previous))
    (atNew : after.records.get? serviceId = some new) :
    FencedBy serviceId after (handed ++ [(new.generation, new.runtimeId)]) := by
  have latest : ∀ pair ∈ handed,
      pair.1 < new.generation ∨ (pair.1 = new.generation ∧ pair.2 = new.runtimeId) := by
    intro pair member
    obtain ⟨current, atCurrent, before⟩ := fenced.behind pair member
    rcases nextGeneration_ok decided with ⟨absent, _⟩ | ⟨old, atOld, _, runtime, generation, _⟩ |
      ⟨old, atOld, _, generation, _⟩
    · rw [absent] at atCurrent
      cases atCurrent
    · rw [atOld] at atCurrent
      cases atCurrent
      rw [generation, ← runtime]
      exact before
    · rw [atOld] at atCurrent
      cases atCurrent
      left
      omega
  refine ⟨?_, ?_⟩
  · rw [List.pairwise_append]
    refine ⟨fenced.ordered, List.pairwise_singleton _ _, ?_⟩
    intro pair member last atLast
    rw [List.mem_singleton] at atLast
    subst atLast
    rcases latest pair member with less | ⟨same, runtime⟩
    · exact ⟨less.le, fun equal => absurd equal less.ne⟩
    · exact ⟨same.le, fun _ => runtime⟩
  · intro pair member
    refine ⟨new, atNew, ?_⟩
    rcases List.mem_append.mp member with old | last
    · exact latest pair old
    · rw [List.mem_singleton] at last
      subst last
      exact Or.inr ⟨rfl, rfl⟩

theorem registerService_conflict {d : Directory τ} {serviceId : String} {current : ServiceRecord τ}
    (atCurrent : d.records.get? serviceId = some current) (isUp : current.state = .up) {record : RecordArg}
    {peer : Option PeerArg} (now : τ) (names : record.names serviceId)
    (other : claimedRuntime record peer ≠ some current.runtimeId) :
    ∃ exception, d.registerService record peer now = .error exception := by
  cases outcome : d.registerService record peer now with
  | error exception => exact ⟨exception, rfl⟩
  | ok result =>
    exfalso
    obtain ⟨stored, new, effects⟩ := result
    obtain ⟨named, claimed, _, _, _, active, previous, decided, _⟩ := registerService_ok outcome
    have same : new.serviceId = serviceId := Option.some.inj (named.symm.trans names)
    have different : current.runtimeId ≠ new.runtimeId := by
      intro equal
      exact other (by rw [equal]; exact claimed)
    rw [same, atCurrent, nextGeneration_up isUp different] at decided
    cases decided

section Purge

variable [LinearOrder τ] [Zero τ]

theorem handouts_purgeExpired (d : Directory τ) (now : Option τ) (clock : τ) (serviceId : String) :
    handouts serviceId (d.purgeExpired now clock).2 = [] :=
  handouts_flatMap serviceId (fun _ => handouts_notifyLifecycle ..)

end Purge

section Run

variable [Add τ] [LinearOrder τ]

theorem ServiceRecord.applyPeerEvent_identity (record : ServiceRecord τ) (event : PeerEvent τ) (now retention : τ) :
    (record.applyPeerEvent event now retention).1.generation = record.generation ∧
      (record.applyPeerEvent event now retention).1.runtimeId = record.runtimeId := by
  rcases record.applyPeerEvent_cases event now retention with
    ⟨_, same⟩ | ⟨_, _, same⟩ | ⟨_, _, _, same⟩ | ⟨_, _, _, same⟩ <;> rw [same] <;> exact ⟨rfl, rfl⟩

variable [Zero τ]

/-- Only a registration that returns hands a generation out. -/
theorem handouts_step (d : Directory τ) (op : Op τ) (serviceId : String) :
    handouts serviceId (d.step op).2 = [] ∨
      ∃ record peer now stored new effects, op = .registerService record peer now ∧
        d.registerService record peer now = .ok (stored, new, effects) ∧ new.serviceId = serviceId ∧
        handouts serviceId (d.step op).2 = [(new.generation, new.runtimeId)] := by
  cases op with
  | registerService record peer now =>
    cases outcome : d.registerService record peer now with
    | error exception => exact Or.inl (by simp [step, outcome, handouts])
    | ok result =>
      obtain ⟨stored, new, effects⟩ := result
      obtain ⟨_, _, _, _, _, active, previous, _, effectsSame⟩ := registerService_ok outcome
      have quiet : handouts serviceId effects = [] := by
        rw [effectsSame]
        cases active <;> simp
      have shown : handouts serviceId (d.step (.registerService record peer now)).2 =
          handouts serviceId [.registered new] := by
        simp only [step, outcome, handouts_append, quiet, List.nil_append]
      by_cases own : new.serviceId = serviceId
      · refine Or.inr ⟨record, peer, now, stored, new, effects, rfl, outcome, own, ?_⟩
        rw [shown]
        simp [handouts, own]
      · left
        rw [shown]
        simp [handouts, own]
  | deregisterService target runtimeId generation now =>
    left
    cases outcome : d.deregisterService target runtimeId generation now with
    | error exception => simp [step, outcome, handouts]
    | ok result =>
      obtain ⟨stored, new, effects⟩ := result
      obtain ⟨_, _, _, _, _, _, effectsSame⟩ := deregisterService_ok outcome
      simp only [step, outcome, effectsSame, handouts_append, handouts_notifyLifecycle, handouts_publishServiceEvent]
      rfl
  | applyPeerEvent event clock =>
    refine Or.inl (handouts_flatMap serviceId ?_)
    intro notification
    simp
  | purgeExpired now clock => exact Or.inl (d.handouts_purgeExpired now clock serviceId)
  | resolveServices filters clock =>
    left
    simp only [step, resolveServices, handouts_append, handouts_purgeExpired]
    rfl
  | query includeInactive clock =>
    left
    simp only [step, query, handouts_append, handouts_purgeExpired]
    rfl
  | registerEventNotification callback eventType subscriber filters registrationId =>
    left
    cases outcome : d.registerEventNotification callback eventType subscriber filters registrationId <;>
      simp [step, outcome, handouts]
  | unregisterEventNotification registrationId => exact Or.inl rfl
  | addLifecycleListener listener => exact Or.inl rfl
  | removeLifecycleListener listener => exact Or.inl rfl

/-- The operation removes the record of the service. Only a purge does. -/
def PurgesService (serviceId : String) (d : Directory τ) (op : Op τ) : Prop :=
  (d.records.get? serviceId).isSome ∧ (d.step op).1.records.get? serviceId = none

instance (serviceId : String) (d : Directory τ) (op : Op τ) : Decidable (PurgesService serviceId d op) :=
  inferInstanceAs (Decidable ((d.records.get? serviceId).isSome ∧ (d.step op).1.records.get? serviceId = none))

theorem FencedBy.step {serviceId : String} {d : Directory τ} {handed : List (Nat × String)}
    (fenced : FencedBy serviceId d handed) {op : Op τ} (kept : ¬PurgesService serviceId d op) :
    FencedBy serviceId (d.step op).1 (handed ++ handouts serviceId (d.step op).2) := by
  rcases d.handouts_step op serviceId with silent | ⟨record, peer, now, stored, new, effects, rfl, outcome, own, shown⟩
  · rw [silent, List.append_nil]
    -- Nothing was handed out, so the record can only have been kept, marked or dropped.
    refine fenced.of_same_identity ?_
    intro old atOld
    obtain ⟨published, change, _⟩ := d.step_explained op serviceId
    generalize after : (d.step op).1.records.get? serviceId = result at change
    cases change with
    | kept _ => exact ⟨old, atOld, rfl, rfl⟩
    | registered outcome own isUp decided =>
      exfalso
      obtain ⟨_, _, _, _, _, active, _, _, effectsSame⟩ := registerService_ok outcome
      simp only [Directory.step, outcome, handouts_append] at silent
      simp [handouts, own] at silent
    | deregistered found _ _ =>
      rw [found] at atOld
      cases atOld
      exact ⟨_, rfl, rfl, rfl⟩
    | applied found =>
      rw [found] at atOld
      cases atOld
      obtain ⟨generation, runtime⟩ := old.applyPeerEvent_identity _ _ _
      exact ⟨_, rfl, generation, runtime⟩
    | purged found purges expired => exact absurd ⟨by rw [found]; rfl, after⟩ kept
  · rw [shown]
    obtain ⟨_, _, _, _, storedSame, active, previous, decided, _⟩ := registerService_ok outcome
    subst own
    refine fenced.register decided ?_
    simp only [Directory.step, outcome, storedSame, records_store, if_true]

/-- The fencing rules at one state: a live runtime refuses every other one, a
generation moves only by restarting an inactive record, and only the current
runtime and generation may deregister. -/
structure Fencing (serviceId : String) (d : Directory τ) : Prop where
  live_conflict : ∀ current, d.records.get? serviceId = some current → current.state = .up →
    ∀ record peer now, record.names serviceId → claimedRuntime record peer ≠ some current.runtimeId →
      ∃ exception, d.registerService record peer now = .error exception ∧
        (d.step (.registerService record peer now)).1 = d
  generation_changes : ∀ op old new, d.records.get? serviceId = some old →
    (d.step op).1.records.get? serviceId = some new → new.generation ≠ old.generation →
      old.state ≠ .up ∧ new.generation = old.generation + 1 ∧
        ∃ record peer now, op = .registerService record peer now ∧ record.names serviceId
  restart : ∀ record peer now stored new effects old,
    d.registerService record peer now = .ok (stored, new, effects) → new.serviceId = serviceId →
      d.records.get? serviceId = some old → old.state ≠ .up → new.generation = old.generation + 1
  peer_event_keeps : ∀ event clock old, d.records.get? serviceId = some old →
    ∃ new, (d.step (.applyPeerEvent event clock)).1.records.get? serviceId = some new ∧
      new.generation = old.generation ∧ new.runtimeId = old.runtimeId
  deregister_current : ∀ runtimeId generation now stored record effects,
    d.deregisterService serviceId runtimeId generation now = .ok (stored, record, effects) →
      ∃ old, d.records.get? serviceId = some old ∧ old.runtimeId = runtimeId ∧ (old.generation : Int) = generation

theorem generation_step {d : Directory τ} {serviceId : String} {op : Op τ} {old new : ServiceRecord τ}
    (atOld : d.records.get? serviceId = some old) (atNew : (d.step op).1.records.get? serviceId = some new)
    (changed : new.generation ≠ old.generation) :
    old.state ≠ .up ∧ new.generation = old.generation + 1 ∧
      ∃ record peer now, op = .registerService record peer now ∧ record.names serviceId := by
  obtain ⟨published, change, _⟩ := d.step_explained op serviceId
  rw [atNew] at change
  generalize after : some new = result at change
  cases change with
  | kept _ =>
    rw [atOld] at after
    cases after
    exact absurd rfl changed
  | registered outcome own isUp decided =>
    cases after
    obtain ⟨named, _⟩ := registerService_ok outcome
    rw [atOld] at decided
    rcases nextGeneration_ok decided with ⟨absent, _⟩ | ⟨_, same, _, _, generation, _⟩ | ⟨_, same, notUp, generation, _⟩
    · cases absent
    · cases same
      exact absurd generation changed
    · cases same
      exact ⟨notUp, generation, _, _, _, rfl, by rw [RecordArg.names, named, own]⟩
  | deregistered found _ _ =>
    cases after
    rw [found] at atOld
    cases atOld
    exact absurd rfl changed
  | applied found =>
    cases after
    rw [found] at atOld
    cases atOld
    exact absurd (old.applyPeerEvent_identity _ _ _).1 changed
  | purged => cases after

theorem fencing (d : Directory τ) (serviceId : String) : Fencing serviceId d where
  live_conflict := by
    intro current atCurrent isUp record peer now names other
    obtain ⟨exception, raises⟩ := registerService_conflict atCurrent isUp now names other
    exact ⟨exception, raises, by simp only [step, raises]⟩
  generation_changes := fun op old new atOld atNew changed => generation_step atOld atNew changed
  restart := by
    intro record peer now stored new effects old outcome own atOld notUp
    obtain ⟨_, _, _, _, _, active, previous, decided, _⟩ := registerService_ok outcome
    rw [own, atOld] at decided
    rcases nextGeneration_ok decided with ⟨absent, _⟩ | ⟨_, same, isUp, _⟩ | ⟨_, same, _, generation, _⟩
    · cases absent
    · cases same
      exact absurd isUp notUp
    · cases same
      exact generation
  peer_event_keeps := by
    intro event clock old atOld
    have records := d.records_applyPeerEvent event clock serviceId
    rw [atOld] at records
    obtain ⟨generation, runtime⟩ := old.applyPeerEvent_identity event (event.timestamp.getD clock) d.retentionSeconds
    exact ⟨_, records, generation, runtime⟩
  deregister_current := by
    intro runtimeId generation now stored record effects outcome
    obtain ⟨old, atOld, runtime, same, _⟩ := deregisterService_ok outcome
    exact ⟨old, atOld, runtime, same⟩

/-- Fencing holds in every state of every run, and the generations handed out
between two purges of a service never decrease nor change hands. -/
theorem directory_fencing (start : Directory τ) (ops later : List (Op τ)) (serviceId : String)
    (unpurged : machine.Admits (fun d op => ¬PurgesService serviceId d op) (machine.final start ops) later) :
    Fencing serviceId (machine.final start ops) ∧
      (handouts serviceId (machine.log (machine.final start ops) later)).Pairwise
        (fun earlier later => earlier.1 ≤ later.1 ∧ (earlier.1 = later.1 → earlier.2 = later.2)) := by
  refine ⟨fencing _ _, ?_⟩
  have fenced : FencedBy serviceId (machine.final (machine.final start ops) later)
      (handouts serviceId (machine.log (machine.final start ops) later)) := by
    refine machine.run_invariant (fun d log => FencedBy serviceId d (handouts serviceId log))
      ⟨List.Pairwise.nil, by simp⟩ ?_ unpurged
    intro d log op old kept
    rw [handouts_append]
    exact old.step kept
  exact fenced.ordered

/-- A service is lost and comes back under a new runtime id. -/
def restartRun : List (Op Nat) :=
  [.registerService (.minimal "svc" "r1" "p1") none 10,
    .applyPeerEvent { eventType := .lost, peerHandle := some "p1", remoteRuntimeId := some "r1" } 20,
    .registerService (.minimal "svc" "r2" "p2") none 30]

theorem directory_fencing_restart :
    handouts "svc" (machine.log (new 300 "dir") restartRun) = [(1, "r1"), (2, "r2")] ∧
      (handouts "svc" (machine.log (machine.final (new 300 "dir") []) restartRun)).Pairwise
        (fun earlier later => earlier.1 ≤ later.1 ∧ (earlier.1 = later.1 → earlier.2 = later.2)) :=
  ⟨by decide, (directory_fencing (new 300 "dir") [] restartRun "svc" (by decide)).2⟩

end Run

end DEFw.Directory
