import DEFw.Lib.Dict
import DEFw.PeerEvent

namespace DEFw.Peers
open Py

/-- `EN_DEFW_DIRSVC`. -/
def dirsvc : Value := .int 1

/-- `EN_DEFW_SERVICE`. -/
def service : Value := .int 3

def zeroUuid : String := "00000000-0000-0000-0000-000000000000"

/-- `first or second` on values of which the first may be absent. -/
def orValue (first : Option Value) (second : Value) : Value :=
  match first with
  | some value => if value.truthy then value else second
  | none => second

/-- The text of a string value; the fields read this way hold strings. -/
def text : Option Value → String
  | some (.str s) => s
  | _ => ""

/-- Address, listen port, node name and hostname, with the fallbacks of
`_endpoint_signature`. -/
structure Signature where
  address : Value
  listenPort : Value
  nodeName : Value
  hostname : Value

def endpointSignature (endpoint : Entries) : Option Signature :=
  if endpoint.isEmpty then none
  else some
    { address := (endpoint.get? "address").getD ((endpoint.get? "addr").getD (.str ""))
      listenPort := (endpoint.get? "listen_port").getD (.int 0)
      nodeName := (endpoint.get? "node_name").getD ((endpoint.get? "name").getD (.str ""))
      hostname := (endpoint.get? "hostname").getD (.str "") }

def Signature.same (a b : Signature) : Bool :=
  a.address.pyEq b.address && a.listenPort.pyEq b.listenPort && a.nodeName.pyEq b.nodeName &&
    a.hostname.pyEq b.hostname

/-- `_endpoint_runtime_id`: the zero uuid counts as none. -/
def endpointRuntimeId (endpoint : Entries) : String :=
  let runtimeId := (orStr (some (text (endpoint.get? "remote_uuid"))) (some (text (endpoint.get? "runtime_id")))).getD ""
  if runtimeId = zeroUuid then "" else runtimeId

/-- The keys of the pending targets. -/
inductive PendingKey where
  | runtime (runtimeId : String)
  | endpoint (signature : Signature)

def PendingKey.same : PendingKey → PendingKey → Bool
  | .runtime a, .runtime b => a == b
  | .endpoint a, .endpoint b => a.same b
  | _, _ => false

/-- What is remembered of a connect target and read back later. -/
structure PendingTarget where
  runtimeId : String
  nodeType : Value
  connectionDirection : Option String

/-- What `cdefw_global` knows of the parent process. -/
structure ParentInfo where
  name : Option String
  hostname : Option String
  port : Value

structure PeerRecord (τ : Type) where
  peerHandle : String
  runtimeId : String
  endpoint : Entries
  transportContext : String
  connectionDirection : String
  isSelf : Bool
  lastSeen : τ
  nodeType : Value
  callable : Bool
  lossReason : String

end DEFw.Peers

/-- The peer table: the records by peer handle, and the pending connect targets
with the latest assignment first. -/
structure DEFw.PeerTable (τ : Type) where
  peers : Dict String (DEFw.Peers.PeerRecord τ)
  pendingTargets : List (DEFw.Peers.PendingKey × DEFw.Peers.PendingTarget)

namespace DEFw.PeerTable
open Py Peers

variable {τ : Type}

def new : PeerTable τ := ⟨.empty, []⟩

def rememberConnectTarget (table : PeerTable τ) (endpoint : Entries) (connectionDirection : Option String) :
    PeerTable τ :=
  let record : PendingTarget :=
    { runtimeId := endpointRuntimeId endpoint
      nodeType := (endpoint.get? "node_type").getD service
      connectionDirection := orStr connectionDirection none }
  let byRuntime :=
    if endpointRuntimeId endpoint = "" then table.pendingTargets
    else (.runtime (endpointRuntimeId endpoint), record) :: table.pendingTargets
  let byEndpoint :=
    match endpointSignature endpoint with
    | none => byRuntime
    | some signature => (.endpoint signature, record) :: byRuntime
  { table with pendingTargets := byEndpoint }

def findPending (table : PeerTable τ) (key : PendingKey) : Option PendingTarget :=
  (table.pendingTargets.find? (fun entry => entry.1.same key)).map Prod.snd

def pendingFor (table : PeerTable τ) (runtimeId : String) (endpoint : Entries) : Option PendingTarget :=
  let byRuntime := if runtimeId = "" then none else table.findPending (.runtime runtimeId)
  byRuntime.or ((endpointSignature endpoint).bind (fun signature => table.findPending (.endpoint signature)))

/-- A parent name counts only when it is set and is not the text `None`. -/
def known (name : Option String) : Option String := (orStr name none).filter (· ≠ "None")

def inferNodeType (parent : ParentInfo) (endpoint : Entries) : Value :=
  let nodeName := (endpoint.get? "node_name").getD (.str "")
  let hostname := (endpoint.get? "hostname").getD (.str "")
  let listenPort := (endpoint.get? "listen_port").getD (.int 0)
  if (known parent.name).any (fun name => nodeName.pyEq (.str name)) then dirsvc
  else if (known parent.hostname).any (fun name => hostname.pyEq (.str name)) && listenPort.pyEq parent.port then dirsvc
  else .none

/-- The known endpoint, overwritten by what the event says about it. -/
def mergeEndpoint (current endpoint : Entries) : Entries :=
  (endpoint.filter (fun entry => !(entry.2.eqv .none || entry.2.pyEq (.str "")))).foldl
    (fun merged entry => Dict.assign entry.1 entry.2 merged) current

/-- The record an event writes over the current one, before the event type
decides whether the peer is callable. -/
def updatedRecord (parent : ParentInfo) (table : PeerTable τ) (current : Option (PeerRecord τ)) (peerHandle : String)
    (event : PeerEvent τ) (timestamp : τ) : PeerRecord τ :=
  let endpoint :=
    match current with
    | none => event.endpoint.getD []
    | some current => mergeEndpoint current.endpoint (event.endpoint.getD [])
  let runtimeId := (orStr event.remoteRuntimeId (current.map PeerRecord.runtimeId)).getD ""
  let pending := table.pendingFor runtimeId endpoint
  { peerHandle := peerHandle
    runtimeId := if runtimeId = "" then (pending.map PendingTarget.runtimeId).getD "" else runtimeId
    endpoint := endpoint
    transportContext := (orStr event.transportContext (current.map PeerRecord.transportContext)).getD ""
    connectionDirection :=
      (orStr (orStr event.connectionDirection (current.map PeerRecord.connectionDirection))
        (pending.bind PendingTarget.connectionDirection)).getD ""
    isSelf := event.isSelf
    lastSeen := timestamp
    nodeType :=
      orValue event.nodeType (orValue (endpoint.get? "node_type") (orValue (current.map PeerRecord.nodeType)
        (orValue (pending.map PendingTarget.nodeType) (inferNodeType parent endpoint))))
    callable := (current.map PeerRecord.callable).getD false
    lossReason := (current.map PeerRecord.lossReason).getD "" }

/-- The last block of `apply_event`: an unknown event type leaves both fields. -/
def markCallable (record : PeerRecord τ) (event : PeerEvent τ) : PeerRecord τ :=
  match event.eventType with
  | .ready => { record with callable := true, lossReason := "" }
  | .degraded => { record with callable := true, lossReason := event.reason.getD "" }
  | .lost => { record with callable := false, lossReason := event.reason.getD "" }
  | _ => record

/-- `apply_event`, with the record it returns. -/
def applyEvent [LinearOrder τ] (parent : ParentInfo) (table : PeerTable τ) (event : PeerEvent τ) (clock : τ) :
    PeerTable τ × Option (PeerRecord τ) :=
  match orStr event.peerHandle none with
  | none => (table, none)
  | some peerHandle =>
    let timestamp := event.timestamp.getD clock
    let current := table.peers.get? peerHandle
    if current.any (fun record => timestamp < record.lastSeen) then (table, current)
    else if event.eventType = .removed then ({ table with peers := table.peers.erase peerHandle }, current)
    else if current.isNone && !(event.eventType = .ready || event.eventType = .degraded) then (table, none)
    else
      let record := markCallable (table.updatedRecord parent current peerHandle event timestamp) event
      ({ table with peers := table.peers.set peerHandle record }, some record)

/-- The record an event that is not a removal leaves for its peer. -/
def writtenRecord (parent : ParentInfo) (table : PeerTable τ) (peerHandle : String) (event : PeerEvent τ) (timestamp : τ) :
    PeerRecord τ :=
  markCallable (table.updatedRecord parent (table.peers.get? peerHandle) peerHandle event timestamp) event

/-- What an event can do to the table: nothing, if it names no peer, a peer that the table does not
know or one that it has seen since; or drop its peer; or write its peer's record. -/
theorem applyEvent_cases [LinearOrder τ] (parent : ParentInfo) (table : PeerTable τ) (event : PeerEvent τ) (clock : τ) :
    ((table.applyEvent parent event clock).1 = table ∧
      ∀ peerHandle record, orStr event.peerHandle none = some peerHandle → table.peers.get? peerHandle = some record →
        event.timestamp.getD clock < record.lastSeen) ∨
    ∃ peerHandle, orStr event.peerHandle none = some peerHandle ∧
      (event.eventType = .removed ∧
        (table.applyEvent parent event clock).1 = { table with peers := table.peers.erase peerHandle } ∨
      event.eventType ≠ .removed ∧
        (table.applyEvent parent event clock).1 =
          ⟨table.peers.set peerHandle (table.writtenRecord parent peerHandle event (event.timestamp.getD clock)),
            table.pendingTargets⟩) := by
  unfold applyEvent
  cases orStr event.peerHandle none with
  | none => exact Or.inl ⟨rfl, fun _ _ absent => nomatch absent⟩
  | some peerHandle =>
    simp only
    split
    next stale =>
      refine Or.inl ⟨rfl, ?_⟩
      rintro _ record ⟨⟩ known
      simpa [known] using stale
    split
    next removed => exact Or.inr ⟨peerHandle, rfl, Or.inl ⟨removed, rfl⟩⟩
    next kept =>
      split
      next unknown =>
        refine Or.inl ⟨rfl, ?_⟩
        rintro _ record ⟨⟩ known
        simp [known] at unknown
      · exact Or.inr ⟨peerHandle, rfl, Or.inr ⟨kept, rfl⟩⟩

def get (table : PeerTable τ) (peerHandle : String) : Option (PeerRecord τ) := table.peers.get? peerHandle

end DEFw.PeerTable
