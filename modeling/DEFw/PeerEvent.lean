import DEFw.Lib.PyValue

namespace DEFw
open Py

/-- The lifecycle events the C layer reports; `unknown` is any other text. -/
inductive PeerEventType where
  | ready
  | degraded
  | lost
  | removed
  | unknown
  deriving DecidableEq

/-- `event_type in ('PEER_LOST', 'PEER_REMOVED')`. -/
def PeerEventType.isLoss : PeerEventType → Bool
  | lost => true
  | removed => true
  | _ => false

/-- A peer lifecycle event as the worker hands it on. An absent key is `none`. -/
structure PeerEvent (τ : Type) where
  eventType : PeerEventType
  peerHandle : Option String
  remoteRuntimeId : Option String
  runtimeId : Option String := none
  reason : Option String := none
  timestamp : Option τ := none
  endpoint : Option Entries := none
  transportContext : Option String := none
  connectionDirection : Option String := none
  isSelf : Bool := false
  nodeType : Option Value := none

variable {τ : Type}

/-- `event.get('remote_runtime_id') or event.get('runtime_id')`. -/
def PeerEvent.runtime (event : PeerEvent τ) : Option String :=
  orStr event.remoteRuntimeId event.runtimeId

/-- An event handed to a table, with the clock value the call would read. -/
structure PeerCall (τ : Type) where
  event : PeerEvent τ
  clock : τ

/-- `event.get('timestamp', time.time())`. -/
def PeerCall.time (call : PeerCall τ) : τ := call.event.timestamp.getD call.clock

end DEFw
