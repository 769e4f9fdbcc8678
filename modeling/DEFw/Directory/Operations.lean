import DEFw.Directory.Record
import DEFw.Lib.Machine

namespace DEFw.Directory
open Py

variable {τ : Type}

/-- A fresh directory: no records, listeners or registrations. -/
def new (retentionSeconds : τ) (runtimeId : String) : Directory τ where
  records := .empty
  retentionSeconds := retentionSeconds
  lifecycleListeners := []
  eventRegistrations := .empty
  runtimeId := runtimeId
  keyed := by simp

def addLifecycleListener (d : Directory τ) (listener : Nat) : Directory τ :=
  if listener ∈ d.lifecycleListeners then d
  else { d with lifecycleListeners := d.lifecycleListeners ++ [listener] }

def removeLifecycleListener (d : Directory τ) (listener : Nat) : Directory τ :=
  { d with lifecycleListeners := d.lifecycleListeners.erase listener }

/-- `SERVICE_EVENT_FILTERS`. -/
def serviceEventFilters : List String := ["service_id", "service_type"]

/-- `callback` is `none` for an object without a callable `put`, and
`registrationId` is the text of the fresh uuid. -/
def registerEventNotification (d : Directory τ) (callback : Option Nat) (eventType : String)
    (subscriberRuntimeId : Option String) (filters : List (String × Value)) (registrationId : String) :
    Except DEFwException (Directory τ) :=
  match ServiceEventType.ofString? eventType with
  | none => .error (.error ("Unsupported directory event type '" ++ eventType ++ "'"))
  | some type =>
    match orStr subscriberRuntimeId none with
    | none => .error (.error "Directory event registration missing subscriber runtime ID")
    | some subscriber =>
      match callback with
      | none => .error (.error "Directory event callback must expose put(event)")
      | some callback =>
        let unsupported := (filters.map Prod.fst).dedup.filter (fun name => name ∉ serviceEventFilters)
        if unsupported ≠ [] then
          .error (.error ("Unsupported directory event filters: " ++ ", ".intercalate unsupported.mergeSort))
        else
          let registrations := ((d.eventRegistrations.get? type).getD .empty).set registrationId
            ⟨registrationId, type, subscriber, callback, filters⟩
          .ok { d with eventRegistrations := d.eventRegistrations.set type registrations }

/-- The first event type that holds the id gives it up. -/
def unregisterEventNotification (d : Directory τ) (registrationId : String) : Directory τ × Bool :=
  match d.eventRegistrations.entries.find? (fun entry => (entry.2.get? registrationId).isSome) with
  | none => (d, false)
  | some (type, registrations) =>
    ({ d with eventRegistrations := d.eventRegistrations.set type (registrations.erase registrationId) }, true)

def notifyLifecycle (d : Directory τ) (notice : LifecycleNotice τ) : List (Effect τ) :=
  d.lifecycleListeners.map (fun listener => .lifecycle listener notice)

/-- The registrations of a lost runtime id go, and an event type left without
registrations is dropped. -/
def removeSubscriber (d : Directory τ) (runtimeId : String) : Directory τ :=
  let remaining := d.eventRegistrations.mapValues (fun registrations =>
    registrations.filter (fun _ registration => registration.subscriberRuntimeId ≠ runtimeId))
  { d with eventRegistrations := remaining.filter (fun _ registrations => !registrations.entries.isEmpty) }

/-- The string fields a filter can name. -/
def ServiceRecord.field (record : ServiceRecord τ) (name : String) : Value :=
  match name with
  | "service_id" => .str record.serviceId
  | "service_name" => .str record.serviceName
  | "service_type" => .str record.serviceType
  | _ => .none

def eventMatches (filters : List (String × Value)) (record : ServiceRecord τ) : Bool :=
  filters.all (fun filter => !filter.2.truthy || (record.field filter.1).pyEq filter.2)

/-- The registrations of an event type, in the order they were made. -/
def registrations (d : Directory τ) (type : ServiceEventType) : List Registration :=
  ((d.eventRegistrations.get? type).getD .empty).values

def serviceEvent (d : Directory τ) (type : ServiceEventType) (record : ServiceRecord τ) (reason : String) :
    ServiceEvent τ where
  event := type
  directoryRuntimeId := d.runtimeId
  serviceId := record.serviceId
  serviceType := record.serviceType
  runtimeId := record.runtimeId
  peerHandle := record.peerHandle
  serviceRecord := if type = .connected then some record else none
  reason := if type = .connected then none else some (if reason = "" then record.downReason else reason)

/-- One `put` for every matching registration. A callback that raises is
logged by the source and changes nothing else, so it is not distinguished. -/
def publishServiceEvent (d : Directory τ) (type : ServiceEventType) (record : ServiceRecord τ)
    (reason : String) : List (Effect τ) :=
  ((d.registrations type).filter (fun registration => eventMatches registration.filters record)).map
    (fun registration => .put registration.callback (d.serviceEvent type record reason))

/-- The generation of a registration, whether it activates the record and the
generation it replaces. A live record of another runtime refuses it. -/
def nextGeneration (current : Option (ServiceRecord τ)) (serviceId runtimeId : String) :
    Except DEFwException (Nat × Bool × Option Nat) :=
  match current with
  | none => .ok (1, true, none)
  | some current =>
    if current.state = .up then
      if current.runtimeId ≠ runtimeId then
        .error (.error ("service_id " ++ serviceId ++ " already has a live runtime"))
      else .ok (current.generation, false, none)
    else .ok (current.generation + 1, true, some current.generation)

/-- The dictionary `registered` of `register_service`. -/
def registeredRecord (record : RecordArg) (peer : PeerArg) (serviceId runtimeId peerHandle : String)
    (generation : Nat) (bindings : List Entries) (now : τ) : ServiceRecord τ :=
  let properties := record.properties.getD []
  let qpmType := recordValue record.qpmType properties "qpm_type"
  let qpmCapabilities := recordValue record.qpmCapabilities properties "qpm_capabilities"
  { serviceId := serviceId
    serviceName := (orStr record.serviceName none).getD serviceId
    serviceType := record.serviceType.getD "defw.service"
    runtimeId := runtimeId
    peerHandle := peerHandle
    generation := generation
    endpoint := orEntries record.endpoint peer.endpoint
    apiBindings := bindings
    selector := record.selector.getD []
    properties := setDefault (setDefault properties "qpm_type" qpmType) "qpm_capabilities" qpmCapabilities
    capability := record.capability.getD []
    qpmType := qpmType
    qpmCapabilities := qpmCapabilities
    state := .up
    lastSeen := now
    stateChangedAt := now
    downReason := ""
    retentionDeadline := none
    up_clean := fun _ => ⟨rfl, rfl⟩ }

/-- `self.__records[service_id] = record`. -/
def store (d : Directory τ) (record : ServiceRecord τ) : Directory τ :=
  { d with
    records := d.records.set record.serviceId record
    keyed := by
      intro key found atKey
      rw [Dict.get?_set] at atKey
      split at atKey
      · rename_i same
        cases atKey
        exact same.symm
      · exact d.keyed key found atKey }

def registerService (d : Directory τ) (record : RecordArg) (peer : Option PeerArg) (now : τ) :
    Except DEFwException (Directory τ × ServiceRecord τ × List (Effect τ)) :=
  let peer := peer.getD {}
  match orStr record.serviceId record.name with
  | none => .error (.error "Directory registration missing service_id")
  | some serviceId =>
    match orStr record.runtimeId peer.runtimeId, orStr record.peerHandle peer.peerHandle with
    | some runtimeId, some peerHandle =>
      match nextGeneration (d.records.get? serviceId) serviceId runtimeId with
      | .error exception => .error exception
      | .ok (generation, becameActive, previousGeneration) =>
        -- The bindings are checked last, after the fencing decision and before the assignment.
        match normalizeBindings record with
        | .error exception => .error exception
        | .ok bindings =>
          let registered := registeredRecord record peer serviceId runtimeId peerHandle generation bindings now
          let stored := d.store registered
          .ok (stored, registered,
            stored.notifyLifecycle { eventType := .registration, serviceRecord := registered,
                                     previousGeneration := previousGeneration } ++
              if becameActive then stored.publishServiceEvent .connected registered "" else [])
    | _, _ => .error (.error "Directory registration missing peer binding")

section Clock

variable [Add τ]

def ServiceRecord.deregister (record : ServiceRecord τ) (now deadline : τ) : ServiceRecord τ :=
  { record with
    state := .deregistered
    endpoint := []
    stateChangedAt := now
    retentionDeadline := some deadline
    up_clean := fun isUp => nomatch isUp }

def deregisterService (d : Directory τ) (serviceId runtimeId : String) (generation : Int) (now : τ) :
    Except DEFwException (Directory τ × ServiceRecord τ × List (Effect τ)) :=
  match d.records.get? serviceId with
  | none => .error (.notFound ("service_id " ++ serviceId ++ " not registered"))
  | some record =>
    if record.runtimeId ≠ runtimeId ∨ (record.generation : Int) ≠ generation then
      .error (.error "stale deregistration request")
    else
      let record := record.deregister now (now + d.retentionSeconds)
      let stored := d.store record
      .ok (stored, record,
        stored.notifyLifecycle { eventType := .deregistration, serviceRecord := record } ++
          stored.publishServiceEvent .disconnected record "deregistered")

variable [LinearOrder τ]

/-- The three `continue` guards of the loop in `apply_peer_event`. -/
def ServiceRecord.accepts (record : ServiceRecord τ) (event : PeerEvent τ) (now : τ) : Prop :=
  event.peerHandle = some record.peerHandle ∧
    (∀ runtime, event.runtime = some runtime → record.runtimeId = runtime) ∧ record.lastSeen ≤ now

instance (record : ServiceRecord τ) (event : PeerEvent τ) (now : τ) : Decidable (record.accepts event now) :=
  have : Decidable (∀ runtime, event.runtime = some runtime → record.runtimeId = runtime) :=
    decidable_of_iff (event.runtime.all (record.runtimeId == ·) = true) (by simp [Option.all_eq_true])
  inferInstanceAs (Decidable (_ ∧ _ ∧ _))

/-- `event.get('reason', '') or 'peer-removed'`. -/
def lossReason (event : PeerEvent τ) : String := (orStr event.reason none).getD "peer-removed"

def ServiceRecord.lose (record : ServiceRecord τ) (reason : String) (now deadline : τ) : ServiceRecord τ :=
  { record with
    lastSeen := now
    state := if reason = "heartbeat-timeout" then .timedOut else .down
    downReason := reason
    stateChangedAt := now
    retentionDeadline := some deadline
    up_clean := fun isUp => by split at isUp <;> cases isUp }

def ServiceRecord.revive (record : ServiceRecord τ) (now : τ) : ServiceRecord τ :=
  { record with
    lastSeen := now
    state := .up
    downReason := ""
    stateChangedAt := now
    retentionDeadline := none
    up_clean := fun _ => ⟨rfl, rfl⟩ }

def ServiceRecord.touch (record : ServiceRecord τ) (now : τ) : ServiceRecord τ :=
  { record with lastSeen := now }

/-- The body of the loop for one record: its new value and the notification
it appends, a lifecycle event with its reason. -/
def ServiceRecord.applyPeerEvent (record : ServiceRecord τ) (event : PeerEvent τ) (now retention : τ) :
    ServiceRecord τ × Option (LifecycleEvent × String) :=
  if record.accepts event now then
    if event.eventType.isLoss then
      let reason := lossReason event
      (record.lose reason now (now + retention), some (.peerLost, reason))
    else if event.eventType = .ready ∧ (record.state = .down ∨ record.state = .timedOut) then
      (record.revive now, some (.peerReady, event.reason.getD ""))
    else (record.touch now, none)
  else (record, none)

theorem ServiceRecord.applyPeerEvent_serviceId (record : ServiceRecord τ) (event : PeerEvent τ) (now retention : τ) :
    (record.applyPeerEvent event now retention).1.serviceId = record.serviceId := by
  unfold applyPeerEvent
  split
  · split
    · rfl
    · split <;> rfl
  · rfl

/-- The loop of `apply_peer_event` over the whole table. -/
def updateRecords (d : Directory τ) (event : PeerEvent τ) (now : τ) : Directory τ :=
  { d with
    records := d.records.mapValues (fun record => (record.applyPeerEvent event now d.retentionSeconds).1)
    keyed := by
      intro key found atKey
      rw [Dict.get?_mapValues] at atKey
      obtain ⟨record, atRecord, same⟩ := Option.map_eq_some_iff.mp atKey
      rw [← same, ServiceRecord.applyPeerEvent_serviceId]
      exact d.keyed key record atRecord }

/-- The notifications the loop collects, in table order. -/
def peerNotifications (d : Directory τ) (event : PeerEvent τ) (now : τ) :
    List (LifecycleEvent × ServiceRecord τ × String) :=
  d.records.values.filterMap (fun record =>
    match record.applyPeerEvent event now d.retentionSeconds with
    | (updated, some (lifecycleEvent, reason)) => some (lifecycleEvent, updated, reason)
    | (_, none) => none)

/-- The subscribers of a lost runtime id go before anything is published. -/
def forgetSubscriber (d : Directory τ) (event : PeerEvent τ) : Directory τ :=
  match event.eventType.isLoss, event.runtime with
  | true, some runtime => d.removeSubscriber runtime
  | _, _ => d

def peerServiceEvent (lifecycleEvent : LifecycleEvent) : ServiceEventType :=
  if lifecycleEvent = .peerReady then .connected else .disconnected

def applyPeerEvent (d : Directory τ) (event : PeerEvent τ) (clock : τ) : Directory τ × List (Effect τ) :=
  let now := event.timestamp.getD clock
  let updated := (d.forgetSubscriber event).updateRecords event now
  (updated, (d.peerNotifications event now).flatMap (fun notification =>
    updated.notifyLifecycle { eventType := notification.1, serviceRecord := notification.2.1,
                              peerEvent := some event, reason := some notification.2.2 } ++
      updated.publishServiceEvent (peerServiceEvent notification.1) notification.2.1 notification.2.2))

variable [Zero τ]

/-- A deadline of zero is falsy and never expires. -/
def ServiceRecord.expired (record : ServiceRecord τ) (now : τ) : Bool :=
  match record.retentionDeadline with
  | none => false
  | some deadline => deadline ≠ 0 ∧ deadline ≤ now

def dropExpired (d : Directory τ) (now : τ) : Directory τ :=
  { d with
    records := d.records.filter (fun _ record => !record.expired now)
    keyed := by
      intro key found atKey
      rw [Dict.get?_filter, Option.filter_eq_some_iff] at atKey
      exact d.keyed key found atKey.1 }

/-- `now or time.time()`: a zero `now` falls back to the clock as well. -/
def purgeTime (now : Option τ) (clock : τ) : τ := (now.filter (· ≠ 0)).getD clock

def purgeExpired (d : Directory τ) (now : Option τ) (clock : τ) : Directory τ × List (Effect τ) :=
  let now := purgeTime now clock
  let purged := d.dropExpired now
  (purged, (d.records.values.filter (fun record => record.expired now)).flatMap (fun record =>
    purged.notifyLifecycle { eventType := .retentionPurge, serviceRecord := record, purgedAt := some now }))

/-- `value and text != value` is false. -/
def textMatches (text : Value) (value : Option String) : Bool :=
  match orStr value none with
  | none => true
  | some value => text.pyEq (.str value)

def recordMatches (record : ServiceRecord τ) (filters : ResolveFilters) : Bool :=
  textMatches (.str record.serviceId) filters.serviceId &&
  textMatches (.str record.serviceName) filters.serviceName &&
  textMatches (.str record.serviceType) filters.serviceType &&
  bitsMatch (recordValue (some record.qpmType) record.properties "qpm_type")
    (filters.qpmType.getD (.int (-1))) &&
  bitsMatch (recordValue (some record.qpmCapabilities) record.properties "qpm_capabilities")
    (filters.qpmCapabilities.getD (.int (-1))) &&
  (filters.properties.getD []).all (fun entry =>
    ((record.properties.lookup entry.1).getD .none).pyEq entry.2) &&
  textMatches ((record.selector.get? "name").getD .none) filters.selectorName &&
  (match orStr filters.selectorAlias none with
    | none => true
    | some name => ((record.selector.get? "aliases").getD (.list [])).contains (.str name)) &&
  (match orStr filters.selectorResource none with
    | none => true
    | some name => ((record.selector.get? "resources").getD (.list [])).contains (.str name))

def bindingMatches (binding : Entries) (filters : ResolveFilters) : Bool :=
  textMatches ((binding.get? "binding_name").getD .none) filters.bindingName &&
  textMatches ((binding.get? "client_class").getD .none) filters.clientClass &&
  textMatches ((binding.get? "service_class").getD .none) filters.serviceClass

/-- The double loop of `resolve_services` after its purge. -/
def serviceMatches (d : Directory τ) (filters : ResolveFilters) : List (ServiceMatch τ) :=
  (d.records.values.filter (fun record => record.state = .up && recordMatches record filters)).flatMap
    (fun record => (record.apiBindings.filter (fun binding => bindingMatches binding filters)).map
      (fun binding => ⟨record, binding, record.generation⟩))

def resolveServices (d : Directory τ) (filters : ResolveFilters) (clock : τ) :
    Directory τ × List (ServiceMatch τ) × List (Effect τ) :=
  let purged := d.purgeExpired none clock
  (purged.1, purged.1.serviceMatches filters, purged.2)

def query (d : Directory τ) (includeInactive : Bool) (clock : τ) :
    Directory τ × List (ServiceRecord τ) × List (Effect τ) :=
  let purged := d.purgeExpired none clock
  (purged.1, purged.1.records.values.filter (fun record => includeInactive || record.state = .up), purged.2)

def getServiceGeneration (d : Directory τ) (serviceId : String) (clock : τ) :
    Directory τ × Option Nat × List (Effect τ) :=
  let purged := d.purgeExpired none clock
  (purged.1, (purged.1.records.get? serviceId).map ServiceRecord.generation, purged.2)

/-- The calls a directory receives, each under its transition lock, with the
clock value it reads. -/
inductive Op (τ : Type) where
  | registerService (record : RecordArg) (peer : Option PeerArg) (now : τ)
  | deregisterService (serviceId runtimeId : String) (generation : Int) (now : τ)
  | applyPeerEvent (event : PeerEvent τ) (clock : τ)
  | purgeExpired (now : Option τ) (clock : τ)
  | resolveServices (filters : ResolveFilters) (clock : τ)
  | query (includeInactive : Bool) (clock : τ)
  | registerEventNotification (callback : Option Nat) (eventType : String) (subscriber : Option String)
      (filters : List (String × Value)) (registrationId : String)
  | unregisterEventNotification (registrationId : String)
  | addLifecycleListener (listener : Nat)
  | removeLifecycleListener (listener : Nat)

/-- One call. A call that raises leaves the directory as it was. -/
def step (d : Directory τ) : Op τ → Directory τ × List (Effect τ)
  | .registerService record peer now =>
    match d.registerService record peer now with
    | .ok (stored, registered, effects) => (stored, effects ++ [.registered registered])
    | .error exception => (d, [.raised exception])
  | .deregisterService serviceId runtimeId generation now =>
    match d.deregisterService serviceId runtimeId generation now with
    | .ok (stored, record, effects) => (stored, effects ++ [.deregistered record])
    | .error exception => (d, [.raised exception])
  | .applyPeerEvent event clock => d.applyPeerEvent event clock
  | .purgeExpired now clock => d.purgeExpired now clock
  | .resolveServices filters clock =>
    let (purged, found, effects) := d.resolveServices filters clock
    (purged, effects ++ [.resolved found])
  | .query includeInactive clock =>
    let (purged, records, effects) := d.query includeInactive clock
    (purged, effects ++ [.queried records])
  | .registerEventNotification callback eventType subscriber filters registrationId =>
    match d.registerEventNotification callback eventType subscriber filters registrationId with
    | .ok subscribed => (subscribed, [.subscribed registrationId])
    | .error exception => (d, [.raised exception])
  | .unregisterEventNotification registrationId =>
    let (unsubscribed, found) := d.unregisterEventNotification registrationId
    (unsubscribed, [.unsubscribed found])
  | .addLifecycleListener listener => (d.addLifecycleListener listener, [])
  | .removeLifecycleListener listener => (d.removeLifecycleListener listener, [])

def machine : Machine (Directory τ) (Op τ) (Effect τ) := ⟨step⟩

end Clock

end DEFw.Directory
