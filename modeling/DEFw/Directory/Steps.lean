import DEFw.Directory.Operations

namespace DEFw.Directory
open Py

variable {τ : Type}

/-- The events one callback receives, in order. -/
def deliveredTo (callback : Nat) (effects : List (Effect τ)) : List (ServiceEvent τ) :=
  effects.filterMap (fun effect =>
    match effect with
    | .put other event => if other = callback then some event else none
    | _ => none)

/-- The types of the events a callback receives about one service. -/
def heard (callback : Nat) (serviceId : String) (effects : List (Effect τ)) : List ServiceEventType :=
  ((deliveredTo callback effects).filter (fun event => event.serviceId = serviceId)).map ServiceEvent.event

/-- How many registrations of a callback an event about the record reaches. -/
def hearers (d : Directory τ) (callback : Nat) (type : ServiceEventType) (record : ServiceRecord τ) : Nat :=
  ((d.registrations type).filter (fun registration => eventMatches registration.filters record)).countP
    (fun registration => registration.callback = callback)

@[simp] theorem heard_nil (callback : Nat) (serviceId : String) :
    heard callback serviceId ([] : List (Effect τ)) = [] := rfl

@[simp] theorem heard_append (callback : Nat) (serviceId : String) (before after : List (Effect τ)) :
    heard callback serviceId (before ++ after) = heard callback serviceId before ++ heard callback serviceId after := by
  simp [heard, deliveredTo]

@[simp] theorem heard_notifyLifecycle (d : Directory τ) (callback : Nat) (serviceId : String)
    (notice : LifecycleNotice τ) : heard callback serviceId (d.notifyLifecycle notice) = [] := by
  simp [heard, deliveredTo, notifyLifecycle]

@[simp] theorem heard_subscribed (callback : Nat) (serviceId registrationId : String) :
    heard callback serviceId [(.subscribed registrationId : Effect τ)] = [] := rfl

@[simp] theorem heard_unsubscribed (callback : Nat) (serviceId : String) (found : Bool) :
    heard callback serviceId [(.unsubscribed found : Effect τ)] = [] := rfl

theorem heard_flatMap {α : Type} (callback : Nat) (serviceId : String) (items : List α) (effects : α → List (Effect τ)) :
    heard callback serviceId (items.flatMap effects) =
      items.flatMap (fun item => heard callback serviceId (effects item)) := by
  induction items with
  | nil => rfl
  | cons item rest ih => rw [List.flatMap_cons, heard_append, ih, List.flatMap_cons]

theorem heard_publishServiceEvent (d : Directory τ) (callback : Nat) (serviceId : String)
    (type : ServiceEventType) (record : ServiceRecord τ) (reason : String) :
    heard callback serviceId (d.publishServiceEvent type record reason) =
      if record.serviceId = serviceId then List.replicate (d.hearers callback type record) type else [] := by
  unfold heard deliveredTo publishServiceEvent hearers
  induction (d.registrations type).filter (fun registration => eventMatches registration.filters record) with
  | nil => simp
  | cons registration rest ih =>
    by_cases same : record.serviceId = serviceId
    · by_cases own : registration.callback = callback
      · simp [same, own, serviceEvent, List.replicate_succ] at ih ⊢
        exact ih
      · simp [same, own, serviceEvent] at ih ⊢
        exact ih
    · by_cases own : registration.callback = callback
      · simp [same, own, serviceEvent] at ih ⊢
        exact ih
      · simp [same, own, serviceEvent] at ih ⊢
        exact ih

@[simp] theorem heard_registered (callback : Nat) (serviceId : String) (record : ServiceRecord τ) :
    heard callback serviceId [.registered record] = [] := rfl

@[simp] theorem heard_deregistered (callback : Nat) (serviceId : String) (record : ServiceRecord τ) :
    heard callback serviceId [.deregistered record] = [] := rfl

@[simp] theorem heard_raised (callback : Nat) (serviceId : String) (exception : DEFwException) :
    heard callback serviceId [(.raised exception : Effect τ)] = [] := rfl

@[simp] theorem heard_resolved (callback : Nat) (serviceId : String) (found : List (ServiceMatch τ)) :
    heard callback serviceId [.resolved found] = [] := rfl

@[simp] theorem heard_queried (callback : Nat) (serviceId : String) (records : List (ServiceRecord τ)) :
    heard callback serviceId [.queried records] = [] := rfl

/-- A successful registration, field by field of what it decides. -/
theorem registerService_ok {d stored : Directory τ} {record : RecordArg} {peer : Option PeerArg} {now : τ}
    {new : ServiceRecord τ} {effects : List (Effect τ)}
    (ok : d.registerService record peer now = .ok (stored, new, effects)) :
    orStr record.serviceId record.name = some new.serviceId ∧
      orStr record.runtimeId (peer.getD {}).runtimeId = some new.runtimeId ∧
      new.state = .up ∧ new.lastSeen = now ∧ stored = d.store new ∧
      ∃ active previous,
        nextGeneration (d.records.get? new.serviceId) new.serviceId new.runtimeId =
          .ok (new.generation, active, previous) ∧
        effects = stored.notifyLifecycle { eventType := .registration, serviceRecord := new,
                                           previousGeneration := previous } ++
          if active then stored.publishServiceEvent .connected new "" else [] := by
  unfold registerService at ok
  dsimp only at ok
  split at ok
  · cases ok
  · rename_i serviceId atService
    split at ok
    · rename_i runtimeId peerHandle atRuntime atHandle
      split at ok
      · cases ok
      · rename_i generation active previous decided
        split at ok
        · cases ok
        · rename_i bindings normalized
          cases ok
          exact ⟨atService, atRuntime, rfl, rfl, rfl, active, previous, decided, rfl⟩
    · cases ok

/-- A registration is bound to the connection it names. -/
theorem registerService_peerHandle {d stored : Directory τ} {record : RecordArg} {peer : Option PeerArg} {now : τ}
    {new : ServiceRecord τ} {effects : List (Effect τ)}
    (ok : d.registerService record peer now = .ok (stored, new, effects)) :
    orStr record.peerHandle (peer.getD {}).peerHandle = some new.peerHandle := by
  unfold registerService at ok
  dsimp only at ok
  split at ok
  · cases ok
  · split at ok
    · rename_i atHandle
      split at ok
      · cases ok
      · split at ok
        · cases ok
        · cases ok
          exact atHandle
    · cases ok

/-- What a callback hears about a service whose record becomes `new`. -/
def echo (d : Directory τ) (callback : Nat) (new : Option (ServiceRecord τ)) (published : Option ServiceEventType) :
    List ServiceEventType :=
  match new, published with
  | some record, some type => List.replicate (d.hearers callback type record) type
  | _, _ => []

theorem echo_none (d : Directory τ) (callback : Nat) (new : Option (ServiceRecord τ)) : d.echo callback new none = [] := by
  cases new <;> rfl

theorem records_store (d : Directory τ) (record : ServiceRecord τ) (serviceId : String) :
    (d.store record).records.get? serviceId =
      if serviceId = record.serviceId then some record else d.records.get? serviceId :=
  Dict.get?_set d.records record.serviceId serviceId record

@[simp] theorem records_forgetSubscriber (d : Directory τ) (event : PeerEvent τ) :
    (d.forgetSubscriber event).records = d.records := by
  unfold forgetSubscriber
  split <;> rfl

@[simp] theorem retentionSeconds_forgetSubscriber (d : Directory τ) (event : PeerEvent τ) :
    (d.forgetSubscriber event).retentionSeconds = d.retentionSeconds := by
  unfold forgetSubscriber
  split <;> rfl

theorem registerEventNotification_records {d subscribed : Directory τ} {callback : Option Nat} {eventType : String}
    {subscriber : Option String} {filters : List (String × Value)} {registrationId : String}
    (ok : d.registerEventNotification callback eventType subscriber filters registrationId = .ok subscribed) :
    subscribed.records = d.records := by
  unfold registerEventNotification at ok
  split at ok
  · cases ok
  · split at ok
    · cases ok
    · split at ok
      · cases ok
      · dsimp only at ok
        split at ok
        · cases ok
        · cases ok
          rfl

theorem ServiceRecord.lose_not_up (record : ServiceRecord τ) (reason : String) (now deadline : τ) :
    (record.lose reason now deadline).state ≠ .up := by
  unfold lose
  split <;> simp

section Clock

variable [Add τ]

theorem deregisterService_ok {d stored : Directory τ} {serviceId runtimeId : String} {generation : Int} {now : τ}
    {new : ServiceRecord τ} {effects : List (Effect τ)}
    (ok : d.deregisterService serviceId runtimeId generation now = .ok (stored, new, effects)) :
    ∃ old, d.records.get? serviceId = some old ∧ old.runtimeId = runtimeId ∧ (old.generation : Int) = generation ∧
      new = old.deregister now (now + d.retentionSeconds) ∧ stored = d.store new ∧
      effects = stored.notifyLifecycle { eventType := .deregistration, serviceRecord := new } ++
        stored.publishServiceEvent .disconnected new "deregistered" := by
  unfold deregisterService at ok
  split at ok
  · cases ok
  · rename_i old atOld
    split at ok
    · cases ok
    · rename_i current
      cases ok
      rw [not_or, not_not, not_not] at current
      exact ⟨old, atOld, current.1, current.2, rfl, rfl, rfl⟩

variable [LinearOrder τ]

/-- The four ways a peer event meets a record: it is not for it or too old, it
takes it down, it revives it, or it only moves `last_seen`. -/
theorem ServiceRecord.applyPeerEvent_cases (record : ServiceRecord τ) (event : PeerEvent τ) (now retention : τ) :
    (¬record.accepts event now ∧ record.applyPeerEvent event now retention = (record, none)) ∨
      (record.accepts event now ∧ event.eventType.isLoss = true ∧
        record.applyPeerEvent event now retention =
          (record.lose (lossReason event) now (now + retention), some (.peerLost, lossReason event))) ∨
      (record.accepts event now ∧ event.eventType = .ready ∧ (record.state = .down ∨ record.state = .timedOut) ∧
        record.applyPeerEvent event now retention = (record.revive now, some (.peerReady, event.reason.getD ""))) ∨
      (record.accepts event now ∧ event.eventType.isLoss = false ∧
        ¬(event.eventType = .ready ∧ (record.state = .down ∨ record.state = .timedOut)) ∧
        record.applyPeerEvent event now retention = (record.touch now, none)) := by
  unfold applyPeerEvent
  split
  · rename_i accepted
    split
    · rename_i loss
      exact Or.inr (Or.inl ⟨accepted, loss, rfl⟩)
    · rename_i notLoss
      split
      · rename_i ready
        exact Or.inr (Or.inr (Or.inl ⟨accepted, ready.1, ready.2, rfl⟩))
      · rename_i notReady
        exact Or.inr (Or.inr (Or.inr ⟨accepted, Bool.eq_false_iff.mpr notLoss, notReady, rfl⟩))
  · rename_i refused
    exact Or.inl ⟨refused, rfl⟩

theorem records_updateRecords (d : Directory τ) (event : PeerEvent τ) (now : τ) (serviceId : String) :
    (d.updateRecords event now).records.get? serviceId =
      (d.records.get? serviceId).map (fun record => (record.applyPeerEvent event now d.retentionSeconds).1) :=
  Dict.get?_mapValues d.records _ serviceId

theorem records_applyPeerEvent (d : Directory τ) (event : PeerEvent τ) (clock : τ) (serviceId : String) :
    (d.applyPeerEvent event clock).1.records.get? serviceId =
      (d.records.get? serviceId).map (fun record =>
        (record.applyPeerEvent event (event.timestamp.getD clock) d.retentionSeconds).1) := by
  simp only [applyPeerEvent, records_updateRecords, records_forgetSubscriber, retentionSeconds_forgetSubscriber]

/-- Of all the notifications of a peer event, only the one of the service's own
record is about the service. -/
theorem heard_applyPeerEvent (d : Directory τ) (event : PeerEvent τ) (clock : τ) (callback : Nat) (serviceId : String) :
    heard callback serviceId (d.applyPeerEvent event clock).2 =
      (d.applyPeerEvent event clock).1.echo callback
        ((d.records.get? serviceId).map (fun record =>
          (record.applyPeerEvent event (event.timestamp.getD clock) d.retentionSeconds).1))
        ((d.records.get? serviceId).bind (fun record =>
          (record.applyPeerEvent event (event.timestamp.getD clock) d.retentionSeconds).2.map
            (fun notification => peerServiceEvent notification.1))) := by
  simp only [applyPeerEvent, heard_flatMap, peerNotifications]
  rw [List.filterMap_eq_flatMap_toList, List.flatMap_assoc, d.records.flatMap_values_key d.keyed]
  · cases found : d.records.get? serviceId with
    | none => simp [echo]
    | some record =>
      have own := d.keyed serviceId record found
      have same := record.applyPeerEvent_serviceId event (event.timestamp.getD clock) d.retentionSeconds
      cases applied : record.applyPeerEvent event (event.timestamp.getD clock) d.retentionSeconds with
      | mk updated notification =>
        rw [applied] at same
        cases notification with
        | none => simp [echo, applied]
        | some pair =>
          have atUpdated : updated.serviceId = serviceId := same.trans own
          simp [echo, applied, heard_publishServiceEvent, atUpdated]
  · intro record different
    have same := record.applyPeerEvent_serviceId event (event.timestamp.getD clock) d.retentionSeconds
    cases applied : record.applyPeerEvent event (event.timestamp.getD clock) d.retentionSeconds with
    | mk updated notification =>
      rw [applied] at same
      cases notification with
      | none => rfl
      | some pair =>
        have elsewhere : updated.serviceId ≠ serviceId := by
          rw [same]
          exact different
        simp [heard_publishServiceEvent, elsewhere]

end Clock

section Purge

variable [LinearOrder τ] [Zero τ]

theorem records_purgeExpired (d : Directory τ) (now : Option τ) (clock : τ) (serviceId : String) :
    (d.purgeExpired now clock).1.records.get? serviceId =
      (d.records.get? serviceId).filter (fun record => !record.expired (purgeTime now clock)) :=
  Dict.get?_filter d.records _ serviceId

theorem heard_purgeExpired (d : Directory τ) (now : Option τ) (clock : τ) (callback : Nat) (serviceId : String) :
    heard callback serviceId (d.purgeExpired now clock).2 = [] := by
  simp [purgeExpired, heard_flatMap]

end Purge

section Change

variable [Add τ] [LinearOrder τ] [Zero τ]

/-- The time up to which an operation purges, if it does. -/
def Op.purgesAt : Op τ → Option τ
  | .purgeExpired now clock => some (purgeTime now clock)
  | .resolveServices _ clock => some (purgeTime none clock)
  | .query _ clock => some (purgeTime none clock)
  | _ => none

/-- The operation takes the record out of service: an accepted loss event, or
a deregistration by the current runtime and generation. -/
def Op.endsService (op : Op τ) (record : ServiceRecord τ) : Prop :=
  match op with
  | .applyPeerEvent event clock =>
    event.eventType.isLoss = true ∧ record.accepts event (event.timestamp.getD clock)
  | .deregisterService serviceId runtimeId generation _ =>
    serviceId = record.serviceId ∧ record.runtimeId = runtimeId ∧ (record.generation : Int) = generation
  | _ => False

instance (op : Op τ) (record : ServiceRecord τ) : Decidable (op.endsService record) :=
  match op with
  | .applyPeerEvent _ _ => inferInstanceAs (Decidable (_ ∧ _))
  | .deregisterService _ _ _ _ => inferInstanceAs (Decidable (_ ∧ _ ∧ _))
  | .registerService .. | .purgeExpired .. | .resolveServices .. | .query .. | .registerEventNotification ..
  | .unregisterEventNotification _ | .addLifecycleListener _ | .removeLifecycleListener _ =>
    inferInstanceAs (Decidable False)

/-- Everything one operation can do to the record of one service, and the
service event it publishes about it. All invariants are read off this list. -/
inductive RecordChange (d : Directory τ) (serviceId : String) :
    Op τ → Option (ServiceRecord τ) → Option ServiceEventType → Prop
  | kept {op} : (∀ record, d.records.get? serviceId = some record → ¬op.endsService record) →
      RecordChange d serviceId op (d.records.get? serviceId) none
  | registered {record peer now stored new effects active previous} :
      d.registerService record peer now = .ok (stored, new, effects) → new.serviceId = serviceId →
      new.state = .up →
      nextGeneration (d.records.get? serviceId) serviceId new.runtimeId = .ok (new.generation, active, previous) →
      RecordChange d serviceId (.registerService record peer now) (some new) (if active then some .connected else none)
  | deregistered {old runtimeId generation now} : d.records.get? serviceId = some old →
      old.runtimeId = runtimeId → (old.generation : Int) = generation →
      RecordChange d serviceId (.deregisterService serviceId runtimeId generation now)
        (some (old.deregister now (now + d.retentionSeconds))) (some .disconnected)
  | applied {old event clock} : d.records.get? serviceId = some old →
      RecordChange d serviceId (.applyPeerEvent event clock)
        (some (old.applyPeerEvent event (event.timestamp.getD clock) d.retentionSeconds).1)
        ((old.applyPeerEvent event (event.timestamp.getD clock) d.retentionSeconds).2.map
          (fun notification => peerServiceEvent notification.1))
  | purged {op old now} : d.records.get? serviceId = some old → op.purgesAt = some now →
      old.expired now = true → RecordChange d serviceId op none none

/-- The operation is one of the changes listed, and what it lets a callback
hear about the service is the event that change publishes. -/
def Explained (d : Directory τ) (op : Op τ) (serviceId : String) : Prop :=
  ∃ published, RecordChange d serviceId op ((d.step op).1.records.get? serviceId) published ∧
    ∀ callback, heard callback serviceId (d.step op).2 =
      (d.step op).1.echo callback ((d.step op).1.records.get? serviceId) published

theorem explained_of_frame {d : Directory τ} {op : Op τ} {serviceId : String}
    (spared : ∀ record, d.records.get? serviceId = some record → ¬op.endsService record)
    (same : (d.step op).1.records.get? serviceId = d.records.get? serviceId)
    (quiet : ∀ callback, heard callback serviceId (d.step op).2 = []) : d.Explained op serviceId := by
  refine ⟨none, ?_, ?_⟩
  · rw [same]
    exact .kept spared
  · intro callback
    rw [quiet, echo_none]

theorem register_explained (d : Directory τ) (record : RecordArg) (peer : Option PeerArg) (now : τ)
    (serviceId : String) : d.Explained (.registerService record peer now) serviceId := by
  cases outcome : d.registerService record peer now with
  | error exception => exact explained_of_frame (fun _ _ => id) (by simp [step, outcome]) (by simp [step, outcome])
  | ok result =>
    obtain ⟨stored, new, effects⟩ := result
    obtain ⟨_, _, isUp, _, same, active, previous, decided, effectsSame⟩ := registerService_ok outcome
    have stepSame : d.step (.registerService record peer now) = (stored, effects ++ [.registered new]) := by
      simp only [step, outcome]
    have stores : stored.records.get? serviceId =
        if serviceId = new.serviceId then some new else d.records.get? serviceId := by
      rw [same, records_store]
    by_cases own : serviceId = new.serviceId
    · subst own
      rw [if_pos rfl] at stores
      unfold Explained
      rw [stepSame]
      dsimp only
      rw [stores]
      refine ⟨_, .registered outcome rfl isUp decided, ?_⟩
      intro callback
      rw [effectsSame]
      cases active <;> simp [echo, heard_publishServiceEvent]
    · rw [if_neg own] at stores
      refine explained_of_frame (fun _ _ => id) (by rw [stepSame]; exact stores) ?_
      intro callback
      rw [stepSame, effectsSame]
      cases active <;> simp [heard_publishServiceEvent, Ne.symm own]

theorem deregister_explained (d : Directory τ) (target runtimeId : String) (generation : Int) (now : τ)
    (serviceId : String) : d.Explained (.deregisterService target runtimeId generation now) serviceId := by
  cases outcome : d.deregisterService target runtimeId generation now with
  | error exception =>
    refine explained_of_frame ?_ (by simp [step, outcome]) (by simp [step, outcome])
    rintro record found ⟨own, runtime, current⟩
    have key := d.keyed serviceId record found
    rw [own, key] at outcome
    simp [deregisterService, found, runtime, current] at outcome
  | ok result =>
    obtain ⟨stored, new, effects⟩ := result
    obtain ⟨old, atOld, sameRuntime, sameGeneration, newSame, same, effectsSame⟩ := deregisterService_ok outcome
    have stepSame : d.step (.deregisterService target runtimeId generation now) =
        (stored, effects ++ [.deregistered new]) := by
      simp only [step, outcome]
    have key : new.serviceId = target := by
      rw [newSame]
      exact d.keyed target old atOld
    have stores : stored.records.get? serviceId =
        if serviceId = target then some new else d.records.get? serviceId := by
      rw [same, records_store, key]
    by_cases own : serviceId = target
    · subst own
      rw [if_pos rfl, newSame] at stores
      unfold Explained
      rw [stepSame]
      dsimp only
      rw [stores]
      refine ⟨_, .deregistered atOld sameRuntime sameGeneration, ?_⟩
      intro callback
      rw [effectsSame, ← newSame]
      simp [echo, heard_publishServiceEvent, key]
    · rw [if_neg own] at stores
      refine explained_of_frame ?_ (by rw [stepSame]; exact stores) ?_
      · rintro record found ⟨same, _⟩
        exact own ((d.keyed serviceId record found).symm.trans same.symm)
      · intro callback
        rw [stepSame, effectsSame]
        simp [heard_publishServiceEvent, key, Ne.symm own]

theorem peer_explained (d : Directory τ) (event : PeerEvent τ) (clock : τ) (serviceId : String) :
    d.Explained (.applyPeerEvent event clock) serviceId := by
  have echoed := fun callback => d.heard_applyPeerEvent event clock callback serviceId
  have changed := d.records_applyPeerEvent event clock serviceId
  cases found : d.records.get? serviceId with
  | none =>
    rw [found] at changed
    refine explained_of_frame ?_ (changed.trans found.symm) (fun callback => by simp [step, echoed, found, echo])
    intro record present
    rw [found] at present
    cases present
  | some old =>
    unfold Explained
    simp only [step, changed, echoed, found]
    exact ⟨_, .applied found, fun _ => rfl⟩

theorem purge_explained {d : Directory τ} {op : Op τ} {now : Option τ} {clock : τ} {serviceId : String}
    (purges : op.purgesAt = some (purgeTime now clock)) (same : (d.step op).1 = (d.purgeExpired now clock).1)
    (quiet : ∀ callback, heard callback serviceId (d.step op).2 = []) : d.Explained op serviceId := by
  have records := d.records_purgeExpired now clock serviceId
  have spared : ∀ record, d.records.get? serviceId = some record → ¬op.endsService record := by
    intro record _
    cases op <;> simp [Op.purgesAt, Op.endsService] at purges ⊢
  rw [← same] at records
  cases found : d.records.get? serviceId with
  | none => exact explained_of_frame spared (by simpa [found] using records) quiet
  | some old =>
    rw [found] at records
    cases expired : old.expired (purgeTime now clock) with
    | true =>
      have gone : (d.step op).1.records.get? serviceId = none := by simpa [Option.filter, expired] using records
      refine ⟨none, ?_, fun callback => by rw [quiet, echo_none]⟩
      rw [gone]
      exact .purged found purges expired
    | false =>
      have stays : (d.step op).1.records.get? serviceId = some old := by simpa [Option.filter, expired] using records
      exact explained_of_frame spared (stays.trans found.symm) quiet

/-- Every operation, seen from one service: how its record changes and what
any callback hears about it. -/
theorem step_explained (d : Directory τ) (op : Op τ) (serviceId : String) : d.Explained op serviceId := by
  cases op with
  | registerService record peer now => exact d.register_explained record peer now serviceId
  | deregisterService target runtimeId generation now =>
    exact d.deregister_explained target runtimeId generation now serviceId
  | applyPeerEvent event clock => exact d.peer_explained event clock serviceId
  | purgeExpired now clock => exact purge_explained rfl rfl (fun callback => by simp [step, heard_purgeExpired])
  | resolveServices filters clock =>
    exact purge_explained rfl rfl (fun callback => by simp [step, resolveServices, heard_purgeExpired])
  | query includeInactive clock =>
    exact purge_explained rfl rfl (fun callback => by simp [step, query, heard_purgeExpired])
  | registerEventNotification callback eventType subscriber filters registrationId =>
    cases outcome : d.registerEventNotification callback eventType subscriber filters registrationId with
    | error exception => exact explained_of_frame (fun _ _ => id) (by simp [step, outcome]) (by simp [step, outcome])
    | ok subscribed =>
      have same : subscribed.records = d.records := registerEventNotification_records outcome
      exact explained_of_frame (fun _ _ => id) (by simp [step, outcome, same]) (by simp [step, outcome])
  | unregisterEventNotification registrationId =>
    have same : (d.unregisterEventNotification registrationId).1.records = d.records := by
      unfold unregisterEventNotification
      split <;> rfl
    exact explained_of_frame (fun _ _ => id) (by simp [step, same]) (by simp [step])
  | addLifecycleListener listener =>
    have same : (d.addLifecycleListener listener).records = d.records := by
      unfold addLifecycleListener
      split <;> rfl
    exact explained_of_frame (fun _ _ => id) (by simp [step, same]) (by simp [step])
  | removeLifecycleListener listener => exact explained_of_frame (fun _ _ => id) rfl (by simp [step])

end Change

end DEFw.Directory
