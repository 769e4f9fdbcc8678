import DEFw.Lib.Dict
import DEFw.PeerEvent

namespace DEFw.Directory
open Py

inductive RecordState where
  | up
  | down
  | timedOut
  | deregistered
  deriving DecidableEq

/-- A stored service record. Only an active record lacks a down reason and a
retention deadline, so a purge can never meet an active one. -/
structure ServiceRecord (τ : Type) where
  serviceId : String
  serviceName : String
  serviceType : String
  runtimeId : String
  peerHandle : String
  generation : Nat
  endpoint : Entries
  apiBindings : List Entries
  selector : Entries
  properties : Entries
  capability : Entries
  qpmType : Value
  qpmCapabilities : Value
  state : RecordState
  lastSeen : τ
  stateChangedAt : τ
  downReason : String
  retentionDeadline : Option τ
  up_clean : state = .up → downReason = "" ∧ retentionDeadline = none

/-- The `record` argument of `register_service`; an absent key is `none`. -/
structure RecordArg where
  serviceId : Option String := none
  name : Option String := none
  runtimeId : Option String := none
  peerHandle : Option String := none
  serviceName : Option String := none
  serviceType : Option String := none
  endpoint : Option Entries := none
  apiBindings : Option (List Entries) := none
  selector : Option Entries := none
  properties : Option Entries := none
  capability : Option Entries := none
  qpmType : Option Value := none
  qpmCapabilities : Option Value := none

/-- The least a registration has to carry: the three ids and one API binding. -/
def RecordArg.minimal (serviceId runtimeId peerHandle : String) : RecordArg where
  serviceId := some serviceId
  runtimeId := some runtimeId
  peerHandle := some peerHandle
  apiBindings := some [[]]

/-- The `peer` argument of `register_service`. -/
structure PeerArg where
  runtimeId : Option String := none
  peerHandle : Option String := none
  endpoint : Option Entries := none

inductive DEFwException where
  | error (message : String)
  | notFound (message : String)
  deriving DecidableEq

def normalizeBindings (record : RecordArg) : Except DEFwException (List Entries) :=
  match record.apiBindings with
  | none => .error (.error "Directory registration missing api_bindings")
  | some [] => .error (.error "Directory registration missing api_bindings")
  | some bindings => .ok bindings

/-- `value in (-1, None)`. -/
def isUnset (value : Value) : Bool := value.pyEq (.int (-1)) || value.eqv .none

/-- `_record_value` for one name: the field, else the property, else -1. -/
def recordValue (field : Option Value) (properties : Entries) (name : String) : Value :=
  let value := field.getD .none
  if !isUnset value then value
  else
    let value := (properties.get? name).getD .none
    if !isUnset value then value else .int (-1)

def bitsMatch (recordBits requestedBits : Value) : Bool :=
  if isUnset requestedBits then true
  else if isUnset recordBits then false
  else
    match recordBits.toInt?, requestedBits.toInt? with
    | some recordBits, some requestedBits =>
      if requestedBits = 0 then true
      else if recordBits = 0 then false
      else Int.land requestedBits recordBits = requestedBits
    | _, _ => false

/-- `properties.setdefault(name, value)` under the test `value != -1`. -/
def setDefault (properties : Entries) (name : String) (value : Value) : Entries :=
  if value.pyEq (.int (-1)) then properties
  else if (properties.get? name).isSome then properties
  else properties ++ [(.str name, value)]

inductive ServiceEventType where
  | connected
  | disconnected
  deriving DecidableEq

def ServiceEventType.ofString? : String → Option ServiceEventType
  | "SERVICE_CONNECTED" => some .connected
  | "SERVICE_DISCONNECTED" => some .disconnected
  | _ => none

/-- The event a subscriber's `put` receives: a connected event carries the
record, a disconnected one the reason. -/
structure ServiceEvent (τ : Type) where
  event : ServiceEventType
  directoryRuntimeId : String
  serviceId : String
  serviceType : String
  runtimeId : String
  peerHandle : String
  serviceRecord : Option (ServiceRecord τ)
  reason : Option String

/-- An event registration. Callbacks are named by a number; two registrations
of one subscriber share it. -/
structure Registration where
  registrationId : String
  eventType : ServiceEventType
  subscriberRuntimeId : String
  callback : Nat
  filters : List (String × Value)

inductive LifecycleEvent where
  | registration
  | deregistration
  | peerLost
  | peerReady
  | retentionPurge
  deriving DecidableEq

/-- The keyword arguments of one lifecycle listener call. -/
structure LifecycleNotice (τ : Type) where
  eventType : LifecycleEvent
  serviceRecord : ServiceRecord τ
  peerEvent : Option (PeerEvent τ) := none
  reason : Option String := none
  previousGeneration : Option Nat := none
  purgedAt : Option τ := none

/-- The `filters` of `resolve_services`; an absent key is `none`. -/
structure ResolveFilters where
  serviceId : Option String := none
  serviceName : Option String := none
  serviceType : Option String := none
  qpmType : Option Value := none
  qpmCapabilities : Option Value := none
  properties : Option Entries := none
  selectorName : Option String := none
  selectorAlias : Option String := none
  selectorResource : Option String := none
  bindingName : Option String := none
  clientClass : Option String := none
  serviceClass : Option String := none

structure ServiceMatch (τ : Type) where
  serviceRecord : ServiceRecord τ
  selectedBinding : Entries
  latestGeneration : Nat

/-- What a caller, a listener or a subscriber sees of one operation. -/
inductive Effect (τ : Type) where
  | registered (record : ServiceRecord τ)
  | deregistered (record : ServiceRecord τ)
  | resolved (found : List (ServiceMatch τ))
  | queried (records : List (ServiceRecord τ))
  | subscribed (registrationId : String)
  | unsubscribed (found : Bool)
  | raised (exception : DEFwException)
  | lifecycle (listener : Nat) (notice : LifecycleNotice τ)
  | put (callback : Nat) (event : ServiceEvent τ)

end DEFw.Directory

/-- The directory: its records by service id, the listeners and the event
registrations by type. Every record is stored under its own service id. -/
structure DEFw.Directory (τ : Type) where
  records : Dict String (DEFw.Directory.ServiceRecord τ)
  retentionSeconds : τ
  lifecycleListeners : List Nat
  eventRegistrations : Dict DEFw.Directory.ServiceEventType (Dict String DEFw.Directory.Registration)
  runtimeId : String
  keyed : ∀ key record, records.get? key = some record → record.serviceId = key
