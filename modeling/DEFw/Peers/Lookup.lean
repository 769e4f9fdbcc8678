import DEFw.Peers.Presence

namespace DEFw.Peers
open Py

variable {τ : Type}

/-- `EN_DEFW_AGENT`. -/
def agent : Value := .int 2

/-- The node types the constructor of `Endpoint` accepts. -/
def isNodeType (nodeType : Value) : Bool :=
  nodeType.pyEq dirsvc || nodeType.pyEq service || nodeType.pyEq agent

structure Endpoint where
  addr : Value
  port : Value
  listenPort : Value
  pid : Value
  name : Value
  hostname : Value
  nodeType : Value
  remoteUuid : String
  blkUuid : String

/-- `DEFwError("Unknown node type provided: ", node_type)`. -/
inductive EndpointError where
  | unknownNodeType (nodeType : Value)

/-- The constructor of `Endpoint`. -/
def Endpoint.init (endpoint : Endpoint) : Except EndpointError Endpoint :=
  if isNodeType endpoint.nodeType then .ok endpoint else .error (.unknownNodeType endpoint.nodeType)

/-- An agent is known by its endpoint. -/
structure Agent where
  endpoint : Endpoint

def Agent.getRemoteUuid (agent : Agent) : String := agent.endpoint.remoteUuid

def Agent.getBlkUuid (agent : Agent) : String := agent.endpoint.blkUuid

def endpointListenPort (endpoint : Entries) : Int :=
  (orValue (endpoint.get? "listen_port") (.int 0)).toInt?.getD 0

def endpointNodeType (endpoint : Entries) : Value := (endpoint.get? "node_type").getD .none

def endpointHostname (endpoint : Entries) : Value :=
  orValue (endpoint.get? "hostname") ((endpoint.get? "address").getD ((endpoint.get? "addr").getD (.str "")))

def endpointBlkUuid (endpoint : Entries) : String := text (endpoint.get? "blk_uuid")

namespace PeerRecord

def recordMatchesTransportEndpoint (record : PeerRecord τ) (target : Entries) : Bool :=
  let targetNodeType := endpointNodeType target
  let recordNodeType := orValue (some record.nodeType) (endpointNodeType record.endpoint)
  let targetHostname := endpointHostname target
  let recordHostname := endpointHostname record.endpoint
  if endpointListenPort record.endpoint ≠ endpointListenPort target then false
  else if endpointListenPort record.endpoint = 0 then false
  else if targetNodeType.truthy && recordNodeType.truthy && !targetNodeType.pyEq recordNodeType then false
  else targetHostname.truthy && recordHostname.truthy && targetHostname.pyEq recordHostname

/-- `record_signature != signature`, where either may be missing. -/
def signatureDiffers (record : PeerRecord τ) (signature : Signature) : Bool :=
  match endpointSignature record.endpoint with
  | none => true
  | some recorded => !recorded.same signature

/-- `__record_matches` for a record that is there. -/
def recordMatches (target : Entries) (connectionDirection : Option String) (record : PeerRecord τ) : Bool :=
  if !record.callable then false
  else if (orStr connectionDirection none).any (fun direction => record.connectionDirection ≠ direction) then false
  else if endpointRuntimeId target ≠ "" then endpointRuntimeId target = record.runtimeId
  else
    match endpointSignature target with
    | none => true
    | some signature => !(record.signatureDiffers signature && !record.recordMatchesTransportEndpoint target)

/-- `__record_to_agent`: no agent where neither the record nor the target knows a runtime id. -/
def recordToAgent (record : PeerRecord τ) (target : Entries) : Except EndpointError (Option Agent) :=
  let endpoint := record.endpoint
  let runtimeId := (orStr (some record.runtimeId) (some (text (target.get? "remote_uuid")))).getD ""
  if runtimeId = "" then .ok none
  else
    (Endpoint.init
      { addr := orValue (endpoint.get? "address") ((target.get? "addr").getD (.str ""))
        port := (endpoint.get? "port").getD ((target.get? "port").getD (.int 0))
        listenPort := (endpoint.get? "listen_port").getD ((target.get? "listen_port").getD (.int 0))
        pid := (endpoint.get? "pid").getD ((target.get? "pid").getD (.int 0))
        name := orValue (endpoint.get? "node_name") ((target.get? "name").getD (.str ""))
        hostname := orValue (endpoint.get? "hostname") ((target.get? "hostname").getD (.str ""))
        nodeType := orValue (some record.nodeType) ((target.get? "node_type").getD service)
        remoteUuid := runtimeId
        blkUuid := record.peerHandle }).map (fun endpoint => some ⟨endpoint⟩)

end PeerRecord

end DEFw.Peers

namespace DEFw.PeerTable
open Py Peers

variable {τ : Type}

/-- `__find_record`: a block uuid is looked up first, and only a caller that allows
it goes on to the other connections of the runtime. -/
def findRecord (table : PeerTable τ) (target : Entries) (connectionDirection : Option String)
    (allowRuntimeFallback : Bool) : Option (PeerRecord τ) :=
  let peerHandle := endpointBlkUuid target
  let firstMatch := table.peers.values.find? (PeerRecord.recordMatches target connectionDirection)
  if peerHandle ≠ "" ∧ peerHandle ≠ zeroUuid then
    match (table.peers.get? peerHandle).filter (PeerRecord.recordMatches target connectionDirection) with
    | some record => some record
    | none => if allowRuntimeFallback then firstMatch else none
  else firstMatch

def getAgent (table : PeerTable τ) (target : Entries) (connectionDirection : Option String)
    (allowRuntimeFallback : Bool) : Except EndpointError (Option Agent) :=
  match table.findRecord target connectionDirection allowRuntimeFallback with
  | none => .ok none
  | some record => record.recordToAgent target

end DEFw.PeerTable

namespace DEFw.Peers
open Py

variable {τ : Type}

/-- The calls that build a peer table. -/
inductive TableCall (τ : Type) where
  | applyEvent (call : PeerCall τ)
  | rememberConnectTarget (endpoint : Entries) (connectionDirection : Option String)

/-- A node type that is given is one `Endpoint` accepts. -/
def Known (nodeType : Value) : Prop := nodeType.truthy → isNodeType nodeType

/-- Every node type an endpoint names is known. -/
def KnownIn (endpoint : Entries) : Prop := ∀ nodeType, (.str "node_type", nodeType) ∈ endpoint → Known nodeType

namespace TableCall

def KnownTypes : TableCall τ → Prop
  | applyEvent call =>
    (∀ nodeType ∈ call.event.nodeType, Known nodeType) ∧ ∀ endpoint ∈ call.event.endpoint, KnownIn endpoint
  | rememberConnectTarget endpoint _ => KnownIn endpoint

variable [LinearOrder τ]

def apply (parent : ParentInfo) (table : PeerTable τ) : TableCall τ → PeerTable τ
  | applyEvent call => (table.applyEvent parent call.event call.clock).1
  | rememberConnectTarget endpoint connectionDirection => table.rememberConnectTarget endpoint connectionDirection

/-- The table after a sequence of calls. -/
def run (parent : ParentInfo) (calls : List (TableCall τ)) : PeerTable τ := calls.foldl (apply parent) .new

end TableCall

theorem KnownIn.get {endpoint : Entries} (known : KnownIn endpoint) :
    ∀ nodeType ∈ endpoint.get? "node_type", Known nodeType := by
  intro nodeType found
  obtain ⟨before, after, split, _⟩ := List.lookup_eq_some_iff.mp found
  exact known nodeType (split ▸ by simp)

theorem KnownIn.mergeEndpoint {current endpoint : Entries} (old : KnownIn current) (new : KnownIn endpoint) :
    KnownIn (PeerTable.mergeEndpoint current endpoint) := by
  have kept : ∀ entries : Entries, (∀ entry ∈ entries, entry ∈ endpoint) → ∀ merged : Entries, KnownIn merged →
      KnownIn (entries.foldl (fun merged entry => Dict.assign entry.1 entry.2 merged) merged) := by
    intro entries
    induction entries with
    | nil => exact fun _ merged known => known
    | cons entry rest ih =>
      intro within merged known
      refine ih (fun other member => within other (List.mem_cons_of_mem _ member)) _ ?_
      intro nodeType member
      rcases Dict.mem_of_mem_assign member with same | before
      · exact new nodeType (same ▸ within entry List.mem_cons_self)
      · exact known nodeType before
  exact kept _ (fun entry member => List.mem_of_mem_filter member) current old

theorem known_orValue {first : Option Value} {second : Value} (atFirst : ∀ nodeType ∈ first, Known nodeType)
    (atSecond : Known second) : Known (orValue first second) := by
  cases first with
  | none => exact atSecond
  | some value =>
    simp only [orValue]
    split
    · exact atFirst value rfl
    · exact atSecond

theorem known_inferNodeType (parent : ParentInfo) (endpoint : Entries) :
    Known (PeerTable.inferNodeType parent endpoint) := by
  unfold PeerTable.inferNodeType Known
  dsimp only
  split
  · exact fun _ => rfl
  split
  · exact fun _ => rfl
  · exact fun absent => absurd absent (by decide)

/-- What every table that calls build has: each record is stored under its own handle, and
the node types it holds are known. -/
structure WellKept (table : PeerTable τ) : Prop where
  handle : ∀ {handle record}, table.peers.get? handle = some record → record.peerHandle = handle
  nodeType : ∀ {handle record}, table.peers.get? handle = some record → Known record.nodeType
  endpoint : ∀ {handle record}, table.peers.get? handle = some record → KnownIn record.endpoint
  pending : ∀ entry ∈ table.pendingTargets, Known entry.2.nodeType

namespace WellKept

theorem new : WellKept (PeerTable.new : PeerTable τ) where
  handle found := by simp [PeerTable.new] at found
  nodeType found := by simp [PeerTable.new] at found
  endpoint found := by simp [PeerTable.new] at found
  pending entry member := by simp [PeerTable.new] at member

variable {table : PeerTable τ}

theorem erase (kept : WellKept table) (peerHandle : String) :
    WellKept { table with peers := table.peers.erase peerHandle } where
  handle found := kept.handle (Dict.get?_of_erase found).2
  nodeType found := kept.nodeType (Dict.get?_of_erase found).2
  endpoint found := kept.endpoint (Dict.get?_of_erase found).2
  pending := kept.pending

theorem set (kept : WellKept table) {peerHandle : String} {record : PeerRecord τ} (own : record.peerHandle = peerHandle)
    (nodeType : Known record.nodeType) (endpoint : KnownIn record.endpoint) :
    WellKept { table with peers := table.peers.set peerHandle record } := by
  have each : ∀ {handle found}, (table.peers.set peerHandle record).get? handle = some found →
      handle = peerHandle ∧ found = record ∨ table.peers.get? handle = some found := by
    intro handle found eq
    rw [Dict.get?_set] at eq
    split at eq
    next same => exact Or.inl ⟨same, (Option.some.inj eq).symm⟩
    · exact Or.inr eq
  refine ⟨?_, ?_, ?_, kept.pending⟩
  · intro handle found eq
    rcases each eq with ⟨rfl, rfl⟩ | before
    · exact own
    · exact kept.handle before
  · intro handle found eq
    rcases each eq with ⟨rfl, rfl⟩ | before
    · exact nodeType
    · exact kept.nodeType before
  · intro handle found eq
    rcases each eq with ⟨rfl, rfl⟩ | before
    · exact endpoint
    · exact kept.endpoint before

theorem pendingFor (kept : WellKept table) {runtimeId : String} {endpoint : Entries} {target : PendingTarget}
    (found : table.pendingFor runtimeId endpoint = some target) : Known target.nodeType := by
  have stored : ∀ {key}, table.findPending key = some target → Known target.nodeType := by
    intro key eq
    obtain ⟨entry, first, rfl⟩ := Option.map_eq_some_iff.mp eq
    exact kept.pending entry (List.mem_of_find?_eq_some first)
  unfold PeerTable.pendingFor at found
  rcases Option.or_eq_some_iff.mp found with byRuntime | ⟨_, byEndpoint⟩
  · split at byRuntime
    · cases byRuntime
    · exact stored byRuntime
  · obtain ⟨signature, _, eq⟩ := Option.bind_eq_some_iff.mp byEndpoint
    exact stored eq

theorem updatedRecord (kept : WellKept table) (parent : ParentInfo) (peerHandle : String) {event : PeerEvent τ}
    (eventType : ∀ nodeType ∈ event.nodeType, Known nodeType)
    (eventEndpoint : ∀ endpoint ∈ event.endpoint, KnownIn endpoint) (timestamp : τ) :
    Known (table.updatedRecord parent (table.peers.get? peerHandle) peerHandle event timestamp).nodeType ∧
      KnownIn (table.updatedRecord parent (table.peers.get? peerHandle) peerHandle event timestamp).endpoint := by
  have named : KnownIn (event.endpoint.getD []) := by
    cases eq : event.endpoint with
    | none => simp [KnownIn]
    | some endpoint => exact eventEndpoint endpoint eq
  have endpoint :
      KnownIn (table.updatedRecord parent (table.peers.get? peerHandle) peerHandle event timestamp).endpoint := by
    cases found : table.peers.get? peerHandle with
    | none => exact named
    | some current => exact (kept.endpoint found).mergeEndpoint named
  refine ⟨?_, endpoint⟩
  refine known_orValue eventType (known_orValue endpoint.get (known_orValue ?_ (known_orValue ?_
    (known_inferNodeType _ _))))
  · intro nodeType present
    obtain ⟨current, found, rfl⟩ := Option.map_eq_some_iff.mp present
    exact kept.nodeType found
  · intro nodeType present
    obtain ⟨target, found, rfl⟩ := Option.map_eq_some_iff.mp present
    exact kept.pendingFor found

theorem rememberConnectTarget (kept : WellKept table) {endpoint : Entries} (known : KnownIn endpoint)
    (connectionDirection : Option String) : WellKept (table.rememberConnectTarget endpoint connectionDirection) := by
  refine ⟨kept.handle, kept.nodeType, kept.endpoint, ?_⟩
  have target : Known ((endpoint.get? "node_type").getD service) := by
    cases found : endpoint.get? "node_type" with
    | none => exact fun _ => rfl
    | some nodeType => exact known.get nodeType found
  have added : ∀ (key : PendingKey) (record : PendingTarget) (entries : List (PendingKey × PendingTarget)),
      Known record.nodeType → (∀ entry ∈ entries, Known entry.2.nodeType) →
      ∀ entry ∈ (key, record) :: entries, Known entry.2.nodeType := by
    intro key record entries first rest entry member
    rcases List.mem_cons.mp member with rfl | member
    · exact first
    · exact rest entry member
  unfold PeerTable.rememberConnectTarget
  by_cases unnamed : endpointRuntimeId endpoint = ""
  · simp only [if_pos unnamed]
    cases endpointSignature endpoint with
    | none => exact kept.pending
    | some signature => exact added _ ⟨_, _, _⟩ _ target kept.pending
  · simp only [if_neg unnamed]
    cases endpointSignature endpoint with
    | none => exact added _ ⟨_, _, _⟩ _ target kept.pending
    | some signature => exact added _ ⟨_, _, _⟩ _ target (added _ ⟨_, _, _⟩ _ target kept.pending)

variable [LinearOrder τ]

theorem apply (kept : WellKept table) (parent : ParentInfo) {call : TableCall τ} (known : call.KnownTypes) :
    WellKept (call.apply parent table) := by
  cases call with
  | rememberConnectTarget endpoint connectionDirection => exact kept.rememberConnectTarget known connectionDirection
  | applyEvent call =>
    obtain ⟨eventType, eventEndpoint⟩ := known
    simp only [TableCall.apply]
    rcases PeerTable.applyEvent_cases parent table call.event call.clock with ⟨same, _⟩ | ⟨peerHandle, _, outcome⟩
    · rw [same]
      exact kept
    rcases outcome with ⟨_, erased⟩ | ⟨_, written⟩
    · rw [erased]
      exact kept.erase peerHandle
    · obtain ⟨nodeType, endpoint⟩ := kept.updatedRecord parent peerHandle eventType eventEndpoint
        (call.event.timestamp.getD call.clock)
      obtain ⟨callable, lossReason, marked⟩ := PeerTable.markCallable_frame (table.updatedRecord parent
        (table.peers.get? peerHandle) peerHandle call.event (call.event.timestamp.getD call.clock)) call.event
      rw [written, PeerTable.writtenRecord, marked]
      exact kept.set rfl nodeType endpoint

/-- Every table the calls build is well kept. -/
theorem run (parent : ParentInfo) {calls : List (TableCall τ)} (known : ∀ call ∈ calls, call.KnownTypes) :
    WellKept (TableCall.run parent calls) := by
  have fromAny : ∀ table : PeerTable τ, WellKept table → WellKept (calls.foldl (TableCall.apply parent) table) := by
    induction calls with
    | nil => exact fun _ kept => kept
    | cons call rest ih =>
      intro table kept
      exact ih (fun other member => known other (List.mem_cons_of_mem _ member)) _
        (kept.apply parent (known call List.mem_cons_self))
  exact fromAny _ new

end WellKept

/-- The record answers to a requested direction; an empty one requests nothing. -/
def PeerRecord.Directed (record : PeerRecord τ) (connectionDirection : Option String) : Prop :=
  ∀ direction ∈ connectionDirection, direction ≠ "" → record.connectionDirection = direction

/-- The target names a connection, by a block uuid that is not the zero one. -/
def NamesBlock (target : Entries) : Prop := endpointBlkUuid target ≠ "" ∧ endpointBlkUuid target ≠ zeroUuid

theorem directed_iff {record : PeerRecord τ} {connectionDirection : Option String} :
    record.Directed connectionDirection ↔
      ¬(orStr connectionDirection none).any (fun direction => record.connectionDirection ≠ direction) := by
  cases connectionDirection with
  | none => simp [PeerRecord.Directed, orStr]
  | some direction =>
    by_cases empty : direction = ""
    · simp [PeerRecord.Directed, orStr, empty]
    · simp [PeerRecord.Directed, orStr, empty, Option.filter]

theorem PeerRecord.recordMatches_callable {record : PeerRecord τ} {target : Entries} {connectionDirection : Option String}
    (found : record.recordMatches target connectionDirection) : record.callable ∧ record.Directed connectionDirection := by
  unfold PeerRecord.recordMatches at found
  split at found
  · cases found
  next callable =>
    split at found
    · cases found
    next directed => exact ⟨by simpa using callable, directed_iff.mpr directed⟩

/-- A target with a runtime id is matched by that id alone. -/
theorem PeerRecord.recordMatches_iff_runtime {record : PeerRecord τ} {target : Entries} {connectionDirection : Option String}
    (named : endpointRuntimeId target ≠ "") :
    record.recordMatches target connectionDirection ↔
      record.callable ∧ record.Directed connectionDirection ∧ record.runtimeId = endpointRuntimeId target := by
  rw [directed_iff]
  unfold PeerRecord.recordMatches
  rw [if_pos named]
  cases record.callable with
  | false => simp
  | true =>
    simp only [Bool.not_true, Bool.false_eq_true, if_false, true_and]
    split
    next other => simp only [other, not_true, false_and, Bool.false_eq_true]
    next directed =>
      rw [decide_eq_true_iff, eq_comm]
      exact ⟨fun same => ⟨directed, same⟩, And.right⟩

/-- A record that matches is one of the table, callable and in the requested direction. -/
theorem findRecord_stored {table : PeerTable τ}
    (keyed : ∀ {handle record}, table.peers.get? handle = some record → record.peerHandle = handle) {target : Entries}
    {connectionDirection : Option String} {allowRuntimeFallback : Bool} {record : PeerRecord τ}
    (found : table.findRecord target connectionDirection allowRuntimeFallback = some record) :
    table.peers.get? record.peerHandle = some record ∧ record.recordMatches target connectionDirection := by
  have first : ∀ {candidate},
      table.peers.values.find? (PeerRecord.recordMatches target connectionDirection) = some candidate →
      table.peers.get? candidate.peerHandle = some candidate ∧ candidate.recordMatches target connectionDirection := by
    intro candidate eq
    obtain ⟨handle, stored⟩ := Dict.mem_values_iff.mp (List.mem_of_find?_eq_some eq)
    exact ⟨(keyed stored).symm ▸ stored, List.find?_some eq⟩
  unfold PeerTable.findRecord at found
  dsimp only at found
  split at found
  · split at found
    next own exactFound =>
      obtain ⟨stored, isMatch⟩ := Option.filter_eq_some_iff.mp exactFound
      cases found
      exact ⟨(keyed stored).symm ▸ stored, isMatch⟩
    · split at found
      · exact first found
      · cases found
  · exact first found

/-- Without the fallback, a block uuid is answered by its own record only. -/
theorem findRecord_block {table : PeerTable τ} (kept : WellKept table) {target : Entries}
    {connectionDirection : Option String} {record : PeerRecord τ} (named : NamesBlock target)
    (found : table.findRecord target connectionDirection false = some record) :
    record.peerHandle = endpointBlkUuid target := by
  unfold PeerTable.findRecord at found
  dsimp only at found
  rw [if_pos (show endpointBlkUuid target ≠ "" ∧ endpointBlkUuid target ≠ zeroUuid from named)] at found
  split at found
  next own exactFound =>
    cases found
    exact kept.handle (Option.filter_eq_some_iff.mp exactFound).1
  · cases found

/-- A record that matches is enough for a target that may be answered by any. -/
theorem findRecord_isSome {table : PeerTable τ} {target : Entries} {connectionDirection : Option String}
    {allowRuntimeFallback : Bool} {handle : String} {record : PeerRecord τ}
    (stored : table.peers.get? handle = some record) (isMatch : record.recordMatches target connectionDirection)
    (free : ¬NamesBlock target ∨ allowRuntimeFallback) :
    ∃ candidate, table.findRecord target connectionDirection allowRuntimeFallback = some candidate := by
  obtain ⟨first, found⟩ : ∃ first,
      table.peers.values.find? (PeerRecord.recordMatches target connectionDirection) = some first :=
    Option.isSome_iff_exists.mp (List.find?_isSome.mpr ⟨record, Dict.mem_values_iff.mpr ⟨handle, stored⟩, isMatch⟩)
  unfold PeerTable.findRecord
  dsimp only
  split
  next named =>
    have fallback : allowRuntimeFallback = true := free.resolve_left (fun unnamed => unnamed named)
    split
    next own _ => exact ⟨own, rfl⟩
    · exact ⟨first, by rw [if_pos fallback, found]⟩
  · exact ⟨first, found⟩

theorem init_ok {endpoint : Endpoint} (known : isNodeType endpoint.nodeType) : endpoint.init = .ok endpoint := by
  rw [Endpoint.init, if_pos known]

/-- The target's own node type, if it has one, is one `Endpoint` accepts. -/
def KnownTarget (target : Entries) : Prop := ∀ nodeType ∈ target.get? "node_type", isNodeType nodeType

/-- With known node types a record gives an agent as soon as a runtime id is known; it is the
record's own where the record has one. -/
theorem PeerRecord.recordToAgent_ok {record : PeerRecord τ} {target : Entries} (known : Known record.nodeType)
    (targetKnown : KnownTarget target) : ∃ result, record.recordToAgent target = .ok result ∧
      (∀ agent, result = some agent → agent.getBlkUuid = record.peerHandle ∧
        (record.runtimeId ≠ "" → agent.getRemoteUuid = record.runtimeId)) ∧
      (record.runtimeId ≠ "" → result.isSome) := by
  have nodeType : isNodeType (orValue (some record.nodeType) ((target.get? "node_type").getD service)) := by
    simp only [orValue]
    split
    next truthy => exact known truthy
    · cases found : target.get? "node_type" with
      | none => rfl
      | some nodeType => exact targetKnown nodeType found
  unfold PeerRecord.recordToAgent
  dsimp only
  split
  next empty =>
    have unnamed : record.runtimeId = "" := by
      by_contra named
      simp [orStr, Option.filter, named] at empty
    exact ⟨none, rfl, fun _ absent => (by cases absent), fun named => absurd unnamed named⟩
  · rw [init_ok nodeType]
    refine ⟨_, rfl, ?_, fun _ => rfl⟩
    rintro agent ⟨⟩
    refine ⟨rfl, fun named => ?_⟩
    simp [Agent.getRemoteUuid, orStr, Option.filter, named]

/-- The agent of a record stands for its connection, and for its runtime where the record knows that. -/
theorem PeerRecord.recordToAgent_fields {record : PeerRecord τ} {target : Entries} {agent : Agent}
    (built : record.recordToAgent target = .ok (some agent)) :
    agent.endpoint.blkUuid = record.peerHandle ∧
      (record.runtimeId ≠ "" → agent.endpoint.remoteUuid = record.runtimeId) := by
  unfold PeerRecord.recordToAgent at built
  dsimp only at built
  split at built
  · cases built
  · unfold Endpoint.init at built
    split at built
    · obtain rfl : _ = agent := Option.some.inj (Except.ok.inj built)
      refine ⟨rfl, fun named => ?_⟩
      simp [orStr, Option.filter, named]
    · cases built

/-- What a lookup promises. A target names the runtime id that `_endpoint_runtime_id` reads
from it, which is never the zero uuid. -/
structure Resolves (table : PeerTable τ) (target : Entries) (connectionDirection : Option String)
    (allowRuntimeFallback : Bool) (result : Option Agent) : Prop where
  /-- An agent is that of a callable record in the requested direction. -/
  origin : ∀ agent, result = some agent → ∃ record, table.get agent.getBlkUuid = some record ∧
    record.recordToAgent target = .ok (some agent) ∧ record.callable ∧ record.Directed connectionDirection
  /-- It has the runtime id the target names. -/
  runtime : ∀ agent, result = some agent → endpointRuntimeId target ≠ "" →
    agent.getRemoteUuid = endpointRuntimeId target
  /-- Without the fallback it has the block uuid the target names. -/
  block : ∀ agent, result = some agent → NamesBlock target → allowRuntimeFallback = false →
    agent.getBlkUuid = endpointBlkUuid target
  /-- A runtime with a callable connection in the requested direction is found. -/
  found : endpointRuntimeId target ≠ "" → (¬NamesBlock target ∨ allowRuntimeFallback) →
    (∃ handle record, table.get handle = some record ∧ record.callable ∧ record.runtimeId = endpointRuntimeId target ∧
      record.Directed connectionDirection) → result.isSome

variable [LinearOrder τ]

/-- Peer lookup is sound and complete: in every table the calls build, `get_agent` returns and
keeps its promise, for every target, direction and fallback flag. -/
theorem lookup_resolves (parent : ParentInfo) (calls : List (TableCall τ)) (known : ∀ call ∈ calls, call.KnownTypes)
    (target : Entries) (targetKnown : KnownTarget target) (connectionDirection : Option String)
    (allowRuntimeFallback : Bool) :
    ∃ result, (TableCall.run parent calls).getAgent target connectionDirection allowRuntimeFallback = .ok result ∧
      Resolves (TableCall.run parent calls) target connectionDirection allowRuntimeFallback result := by
  have kept := WellKept.run parent known
  generalize TableCall.run parent calls = table at kept ⊢
  unfold PeerTable.getAgent
  cases lookup : table.findRecord target connectionDirection allowRuntimeFallback with
  | none =>
    refine ⟨none, rfl, fun _ absent => (by cases absent), fun _ absent => (by cases absent),
      fun _ absent => (by cases absent), ?_⟩
    rintro named free ⟨handle, record, stored, callable, runtime, directed⟩
    have isMatch := (PeerRecord.recordMatches_iff_runtime named).mpr ⟨callable, directed, runtime⟩
    obtain ⟨candidate, found⟩ := findRecord_isSome stored isMatch free
    rw [lookup] at found
    cases found
  | some record =>
    obtain ⟨stored, isMatch⟩ := findRecord_stored kept.handle lookup
    obtain ⟨callable, directed⟩ := PeerRecord.recordMatches_callable isMatch
    obtain ⟨result, built, fields, present⟩ := PeerRecord.recordToAgent_ok (kept.nodeType stored) targetKnown
    have ids : endpointRuntimeId target ≠ "" → record.runtimeId = endpointRuntimeId target :=
      fun named => ((PeerRecord.recordMatches_iff_runtime named).mp isMatch).2.2
    refine ⟨result, built, ?_, ?_, ?_, ?_⟩
    · intro agent eq
      refine ⟨record, ?_, eq ▸ built, callable, directed⟩
      rw [(fields agent eq).1]
      exact stored
    · intro agent eq named
      rw [← ids named]
      exact (fields agent eq).2 (ids named ▸ named)
    · intro agent eq named noFallback
      rw [(fields agent eq).1]
      exact findRecord_block kept named (noFallback ▸ lookup)
    · intro named _ _
      exact present (ids named ▸ named)

/-- A runtime that lost its first connection and came back over a second one. -/
def reconnection : List (TableCall Nat) :=
  [ .rememberConnectTarget [(.str "remote_uuid", .str "runtime-1"), (.str "node_type", service)] (some "OUTBOUND"),
    .applyEvent ⟨⟨.ready, some "peer-1", some "runtime-1", none, none, some 1, none, none, none, false, none⟩, 0⟩,
    .applyEvent ⟨⟨.lost, some "peer-1", some "runtime-1", none, none, some 2, none, none, none, false, none⟩, 0⟩,
    .applyEvent ⟨⟨.ready, some "peer-2", some "runtime-1", none, none, some 3, none, none, none, false, none⟩, 0⟩ ]

/-- The endpoint of its first connection. -/
def firstConnection : Entries :=
  [(.str "remote_uuid", .str "runtime-1"), (.str "blk_uuid", .str "peer-1"), (.str "node_type", service)]

theorem lookup_resolves_reconnection :
    (((TableCall.run ⟨none, none, .int 0⟩ reconnection).getAgent firstConnection (some "OUTBOUND") true).toOption.join.map
      Agent.getBlkUuid = some "peer-2") ∧
    ∃ result, (TableCall.run ⟨none, none, .int 0⟩ reconnection).getAgent firstConnection (some "OUTBOUND") true =
        .ok result ∧
      Resolves (TableCall.run ⟨none, none, .int 0⟩ reconnection) firstConnection (some "OUTBOUND") true result := by
  refine ⟨by decide +kernel, lookup_resolves _ _ ?_ _ ?_ _ _⟩
  · simp [reconnection, TableCall.KnownTypes, KnownIn, Known, isNodeType, service, dirsvc, agent, Value.pyEq, Value.eqv]
  · rintro nodeType ⟨⟩
    rfl

end DEFw.Peers
