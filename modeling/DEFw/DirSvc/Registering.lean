import DEFw.DirSvc.AllOrNothing
import DEFw.Directory.PeerRuns
import DEFw.Directory.Subscribers
import DEFw.Lib.Slots

namespace DEFw.DirSvc
open Py Peers Directory

variable {τ : Type}

/-- How far a registration has come: it has found its agent and queries it, it has written its entry
into the services table, it queries again because the entry has no advertisements, or it enters
the advertisements into the directory one by one. An entry is named by its place in the heap. -/
inductive Progress where
  | asking (agent : Agent)
  | listed
  | askingAgain (entry : Nat)
  | entering (entry : Nat) (advertisements : List Advertisement)

/-- A call of `DEFwDirSvc.register_service` after its check. -/
structure Registering where
  agentId : String
  context : Option Metadata
  progress : Progress

/-- The directory service with its registrations in progress, beside the two tables. The entries of
the services table are objects that a registration keeps hold of; `heap` has all of them. -/
structure Serving (τ : Type) where
  tables : Tables τ
  heap : List Entry
  servicesDb : Dict String Nat
  registering : List Registering

/-- The steps of the worker and its threads, and those of the registrations. -/
inductive Turn (τ : Type) where
  | handlePeerEvent (call : PeerCall τ)
  | applyPeerEvent (thread : Nat) (clock : τ)
  | rememberConnectTarget (endpoint : Entries) (connectionDirection : Option String)
  | check (ep : Endpoint) (context : Option Metadata)
  | query (registration : Nat) (answer : Except Raised (List Advertisement))
  | look (registration : Nat)
  | queryAgain (registration : Nat) (answer : Except Raised (List Advertisement))
  | enter (registration : Nat) (clock : τ)

namespace Serving

/-- The service at its start. -/
def start (retentionSeconds : τ) (runtimeId : String) : Serving τ :=
  ⟨⟨.new, .new retentionSeconds runtimeId, []⟩, [], .empty, []⟩

def advance (s : Serving τ) (registration : Nat) (progress : Progress) : Serving τ :=
  { s with registering := s.registering.modify registration (fun r => { r with progress := progress }) }

/-- A registration returns or raises. -/
def leave (s : Serving τ) (registration : Nat) : Serving τ :=
  { s with registering := s.registering.eraseIdx registration }

/-- `__register` up to the query. -/
def check (s : Serving τ) (ep : Endpoint) (context : Option Metadata) : Serving τ :=
  let live := (s.tables.peers.peers.values.filter (fun record => record.callable && record.runtimeId ≠ "")).map
    PeerRecord.runtimeId
  let pruned := { s with servicesDb := s.servicesDb.filter (fun agentId _ => agentId ∈ live) }
  match s.tables.peers.getAgent (entries ep) none false with
  | .ok (some agent) => { pruned with registering := s.registering ++ [⟨ep.remoteUuid, context, .asking agent⟩] }
  | _ => pruned

/-- The assignment to the services table. -/
def list (s : Serving τ) (agentId : String) (entry : Entry) : Serving τ :=
  match s.servicesDb.get? agentId with
  | some place => { s with heap := s.heap.set place entry }
  | none => { s with heap := s.heap ++ [entry], servicesDb := s.servicesDb.set agentId s.heap.length }

/-- The answer to the query, where the call for it did not raise. -/
def query (s : Serving τ) (registration : Nat) (answer : Except Raised (List Advertisement)) : Serving τ :=
  match s.registering[registration]? with
  | some ⟨agentId, _, .asking agent⟩ =>
    match answer with
    | .error _ => s.leave registration
    | .ok info => (s.list agentId ⟨agent, baseAgentApi, info⟩).advance registration .listed
  | _ => s

/-- The beginning of `__register_directory_entries`. -/
def look (s : Serving τ) (registration : Nat) : Serving τ :=
  match s.registering[registration]? with
  | some ⟨agentId, _, .listed⟩ =>
    match s.servicesDb.get? agentId with
    | none => s.leave registration
    | some place =>
      match s.heap[place]? with
      | none => s.leave registration
      | some entry =>
        if entry.info.isEmpty then s.advance registration (.askingAgain place)
        else s.advance registration (.entering place entry.info)
  | _ => s

def queryAgain (s : Serving τ) (registration : Nat) (answer : Except Raised (List Advertisement)) : Serving τ :=
  match s.registering[registration]? with
  | some ⟨_, _, .askingAgain place⟩ =>
    match answer with
    | .error _ => s.leave registration
    | .ok info =>
      { s with heap := s.heap.modify place (fun entry => { entry with info := info }) }.advance registration
        (.entering place info)
  | _ => s

/-- A round of the loop over the advertisements. -/
def enter (s : Serving τ) (registration : Nat) (clock : τ) : Serving τ × List (Effect τ) :=
  match s.registering[registration]? with
  | some ⟨_, context, .entering place (advertisement :: rest)⟩ =>
    match (s.heap[place]?).map (fun entry => directoryRecord entry.agent.endpoint advertisement context) with
    | some (.ok record) =>
      match s.tables.directory.registerService record none clock with
      | .error _ => (s.leave registration, [])
      | .ok (stored, _, effects) =>
        ({ s with tables := { s.tables with directory := stored } }.advance registration (.entering place rest), effects)
    | _ => (s.leave registration, [])
  | some ⟨_, _, .entering _ []⟩ => (s.leave registration, [])
  | _ => (s, [])

section Clock

variable [Add τ] [LinearOrder τ] [Zero τ] (parent : ParentInfo)

/-- A step of the worker or of one of its threads. -/
def work (s : Serving τ) (action : Directory.Action τ) : Serving τ × List (Effect τ) :=
  let worked := s.tables.step parent action
  ({ s with tables := worked.1 }, worked.2)

def step (s : Serving τ) : Turn τ → Serving τ × List (Effect τ)
  | .handlePeerEvent call => s.work parent (.handlePeerEvent call)
  | .applyPeerEvent thread clock => s.work parent (.applyPeerEvent thread clock)
  | .rememberConnectTarget endpoint direction => s.work parent (.rememberConnectTarget endpoint direction)
  | .check ep context => (s.check ep context, [])
  | .query registration answer => (s.query registration answer, [])
  | .look registration => (s.look registration, [])
  | .queryAgain registration answer => (s.queryAgain registration answer, [])
  | .enter registration clock => s.enter registration clock

def machine : Machine (Serving τ) (Turn τ) (Effect τ) := ⟨step parent⟩

end Clock

/-- The agent for whose connection a registration makes its entries, as things are. -/
def agentOf (s : Serving τ) (r : Registering) : Option Agent :=
  match r.progress with
  | .asking agent => some agent
  | .listed => ((s.servicesDb.get? r.agentId).bind (fun place => s.heap[place]?)).map Entry.agent
  | .askingAgain place => (s.heap[place]?).map Entry.agent
  | .entering place _ => (s.heap[place]?).map Entry.agent

/-- No registration is in progress and no thread has an update to make. -/
def Settled (s : Serving τ) : Prop := s.registering = [] ∧ s.tables.waiting = []

end Serving

/-- The connection has a callable record with the runtime id. -/
def Callable (peers : PeerTable τ) (peerHandle runtimeId : String) : Prop :=
  ∃ record, peers.get peerHandle = some record ∧ record.callable = true ∧ record.runtimeId = runtimeId

/-- Each active service can be called. -/
def UpIsLive (s : Serving τ) : Prop :=
  ∀ serviceId record, s.tables.directory.records.get? serviceId = some record → record.state = .up →
    Callable s.tables.peers record.peerHandle record.runtimeId

section Conditions

variable [LinearOrder τ] (parent : ParentInfo) (runtimeOf : String → String)

/-- A loss is newer than what the threads still have to enter about its connection and no older than
what the directory has seen of it, and no registration for the connection is in progress. -/
def LossInTurn (s : Serving τ) (call : PeerCall τ) (peerHandle : String) : Prop :=
  (∀ earlier ∈ s.tables.waiting, earlier.event.peerHandle = some peerHandle → earlier.time < call.time) ∧
    (∀ record ∈ s.tables.directory.records.values, record.peerHandle = peerHandle → record.lastSeen ≤ call.time) ∧
    ∀ r ∈ s.registering, ∀ agent ∈ s.agentOf r, agent.endpoint.blkUuid ≠ peerHandle

/-- A report of a connection that can be called is no older than the peer table's record and leaves
the connection its runtime id. -/
def ReportInTurn (s : Serving τ) (call : PeerCall τ) (peerHandle : String) : Prop :=
  (∀ record ∈ s.tables.peers.get peerHandle, record.lastSeen ≤ call.time) ∧
    connectionRuntime parent s.tables peerHandle call = runtimeOf peerHandle

/-- An event of one of the four types names its connection, has a timestamp, and names no runtime but
that of the connection. -/
structure Stated (call : PeerCall τ) (peerHandle : String) : Prop where
  named : orStr call.event.peerHandle none = some peerHandle
  known : runtimeOf peerHandle ≠ ""
  typed : call.event.eventType ≠ .unknown
  stamped : call.event.timestamp = some call.time
  runtime : ∀ runtimeId ∈ call.event.runtime, runtimeId = runtimeOf peerHandle

def TakesTurns (s : Serving τ) : Turn τ → Prop
  | .handlePeerEvent call => ∃ peerHandle, Stated runtimeOf call peerHandle ∧
      if call.event.eventType.isLoss then LossInTurn s call peerHandle else ReportInTurn parent runtimeOf s call peerHandle
  | _ => True

/-- The connection of a record can be called, or its last loss is still to be entered and will be, or
has been entered or passed over with the record not active. -/
def Covered (tables : Tables τ) (record : ServiceRecord τ) : Prop :=
  Callable tables.peers record.peerHandle record.runtimeId ∨ ∃ last,
    (∀ call ∈ tables.waiting, record.concernedBy call.event →
      call.time < last ∨ call.time = last ∧ call.event.eventType.isLoss = true) ∧
    ((record.lastSeen ≤ last ∧ ∃ call ∈ tables.waiting, record.concernedBy call.event ∧
        call.event.eventType.isLoss = true ∧ call.time = last) ∨
      (record.state ≠ .up ∧ last ≤ record.lastSeen))

/-- What holds between the steps of a run. -/
structure Kept (s : Serving τ) : Prop where
  keyed : ∀ peerHandle record, s.tables.peers.get peerHandle = some record → record.peerHandle = peerHandle
  peers : ∀ peerHandle record, s.tables.peers.get peerHandle = some record → record.callable = true →
    record.runtimeId = runtimeOf peerHandle ∧ runtimeOf peerHandle ≠ ""
  registering : ∀ r ∈ s.registering, ∀ agent ∈ s.agentOf r,
    Callable s.tables.peers agent.endpoint.blkUuid agent.endpoint.remoteUuid
  stamped : ∀ call ∈ s.tables.waiting, call.event.timestamp = some call.time
  records : ∀ serviceId record, s.tables.directory.records.get? serviceId = some record →
    record.runtimeId = runtimeOf record.peerHandle ∧ Covered s.tables record

end Conditions

section Names

variable {runtimeOf : String → String} {s : Serving τ}

theorem Stated.handle {call : PeerCall τ} {peerHandle : String} (stated : Stated runtimeOf call peerHandle) :
    call.event.peerHandle = some peerHandle := by
  have named := stated.named
  simp only [orStr, Option.filter_none, Option.or_none, Option.filter_eq_some_iff] at named
  exact named.1

theorem agentOf_list {r : Registering} {agentId : String} {entry : Entry} {agent : Agent}
    (found : agent ∈ (s.list agentId entry).agentOf r) : agent = entry.agent ∨ agent ∈ s.agentOf r := by
  -- what a place of the heap holds is the new entry, or what it held
  have held : ∀ {place : Nat} {other : Entry}, (s.list agentId entry).heap[place]? = some other →
      other = entry ∨ s.heap[place]? = some other := by
    intro place other here
    unfold Serving.list at here
    split at here
    · exact Slots.getElem?_set_cases here
    · exact Slots.getElem?_concat_cases here
  have carried : ∀ {place : Nat}, agent ∈ ((s.list agentId entry).heap[place]?).map Entry.agent →
      agent = entry.agent ∨ agent ∈ (s.heap[place]?).map Entry.agent := by
    intro place mapped
    obtain ⟨other, here, rfl⟩ := Option.map_eq_some_iff.mp mapped
    rcases held here with rfl | old
    · exact Or.inl rfl
    · exact Or.inr (Option.map_eq_some_iff.mpr ⟨other, old, rfl⟩)
  unfold Serving.agentOf at found ⊢
  split at found
  · exact Or.inr found
  · obtain ⟨other, bound, rfl⟩ := Option.map_eq_some_iff.mp found
    obtain ⟨place, there, here⟩ := Option.bind_eq_some_iff.mp bound
    rcases held here with rfl | old
    · exact Or.inl rfl
    · refine Or.inr (Option.map_eq_some_iff.mpr ⟨other, Option.bind_eq_some_iff.mpr ⟨place, ?_, old⟩, rfl⟩)
      unfold Serving.list at there
      split at there
      · exact there
      · rw [Dict.get?_set] at there
        split at there
        · obtain rfl := Option.some.inj there
          simp at old
        · exact there
  · exact carried found
  · exact carried found

theorem agentOf_prune {keeps : String → Nat → Bool} {r : Registering} {agent : Agent}
    (found : agent ∈ Serving.agentOf { s with servicesDb := s.servicesDb.filter keeps } r) : agent ∈ s.agentOf r := by
  unfold Serving.agentOf at found ⊢
  split at found
  · exact found
  · obtain ⟨entry, bound, rfl⟩ := Option.map_eq_some_iff.mp found
    obtain ⟨place, there, here⟩ := Option.bind_eq_some_iff.mp bound
    refine Option.map_eq_some_iff.mpr ⟨entry, Option.bind_eq_some_iff.mpr ⟨place, ?_, here⟩, rfl⟩
    rw [Dict.get?_filter] at there
    exact (Option.filter_eq_some_iff.mp there).1
  · exact found
  · exact found

theorem agentOf_listed {agentId : String} {context : Option Metadata} {entry : Entry} {agent : Agent}
    (found : agent ∈ (s.list agentId entry).agentOf ⟨agentId, context, .listed⟩) : agent = entry.agent := by
  obtain ⟨other, bound, rfl⟩ := Option.map_eq_some_iff.mp found
  obtain ⟨place, there, here⟩ := Option.bind_eq_some_iff.mp bound
  refine congrArg Entry.agent ?_
  unfold Serving.list at there here
  cases known : s.servicesDb.get? agentId with
  | some own =>
    simp only [known] at there here
    obtain rfl := Option.some.inj there
    rw [List.getElem?_set_self'] at here
    obtain ⟨_, _, same⟩ := Option.map_eq_some_iff.mp here
    exact same.symm
  | none =>
    simp only [known, Dict.get?_set_self] at there here
    obtain rfl := Option.some.inj there
    simpa using here.symm

theorem agentOf_info (place : Nat) (info : List Advertisement) (r : Registering) :
    Serving.agentOf { s with heap := s.heap.modify place (fun entry => { entry with info := info }) } r = s.agentOf r := by
  have same : ∀ position : Nat, ((s.heap.modify place (fun entry => { entry with info := info }))[position]?).map
      Entry.agent = (s.heap[position]?).map Entry.agent := by
    intro position
    rw [List.getElem?_modify]
    cases s.heap[position]? with
    | none => rfl
    | some entry =>
      simp only [Option.map_eq_map, Option.map_some]
      split <;> rfl
  unfold Serving.agentOf
  split
  · rfl
  · cases s.servicesDb.get? r.agentId with
    | none => rfl
    | some position => exact same position
  · exact same _
  · exact same _

theorem directoryRecord_binding {ep : Endpoint} {advertisement : Advertisement} {context : Option Metadata}
    {record : RecordArg} (made : directoryRecord ep advertisement context = .ok record) :
    record.runtimeId = some ep.remoteUuid ∧ record.peerHandle = some ep.blkUuid := by
  unfold directoryRecord at made
  split at made
  · cases made
  · dsimp only at made
    split at made
    · cases made
    · split at made
      · cases made
      · cases made
        exact ⟨rfl, rfl⟩

theorem eq_of_orStr {given text : String} (taken : orStr (some given) none = some text) : text = given := by
  simp only [orStr, Option.filter_none, Option.or_none, Option.filter_eq_some_iff] at taken
  exact (Option.some.inj taken.1).symm

theorem Stated.concerns {call : PeerCall τ} {peerHandle : String} (stated : Stated runtimeOf call peerHandle)
    {record : ServiceRecord τ} (own : record.runtimeId = runtimeOf record.peerHandle) :
    record.concernedBy call.event ↔ record.peerHandle = peerHandle := by
  unfold ServiceRecord.concernedBy
  rw [stated.handle]
  constructor
  · rintro ⟨same, _⟩
    exact (Option.some.inj same).symm
  · rintro rfl
    refine ⟨rfl, ?_⟩
    intro runtimeId named
    exact own.trans (stated.runtime runtimeId named).symm

end Names

section Invariant

variable [LinearOrder τ] (parent : ParentInfo) {runtimeOf : String → String} {s : Serving τ}

theorem Kept.start (retentionSeconds : τ) (runtimeId : String) :
    Kept runtimeOf (Serving.start retentionSeconds runtimeId) := by
  refine ⟨?_, ?_, ?_, ?_, ?_⟩
  · intro peerHandle record stored
    cases stored
  · intro peerHandle record stored
    cases stored
  · intro r member
    cases member
  · intro call member
    cases member
  · intro serviceId record stored
    cases stored

theorem Kept.upIsLive (kept : Kept runtimeOf s) (settled : s.Settled) : UpIsLive s := by
  intro serviceId record stored up
  rcases (kept.records serviceId record stored).2 with live | ⟨last, _, ⟨_, call, waits, _⟩ | ⟨down, _⟩⟩
  · exact live
  · rw [settled.2] at waits
    cases waits
  · exact absurd up down

theorem Kept.runtime (kept : Kept runtimeOf s) {peerHandle runtimeId : String}
    (callable : Callable s.tables.peers peerHandle runtimeId) : runtimeId = runtimeOf peerHandle := by
  obtain ⟨record, stored, callable, rfl⟩ := callable
  exact (kept.peers peerHandle record stored callable).1

/-- A step of a registration that leaves the two tables alone. -/
theorem Kept.of_tables (kept : Kept runtimeOf s) {next : Serving τ} (tables : next.tables = s.tables)
    (registering : ∀ r ∈ next.registering, ∀ agent ∈ next.agentOf r,
      Callable s.tables.peers agent.endpoint.blkUuid agent.endpoint.remoteUuid) : Kept runtimeOf next := by
  refine ⟨?_, ?_, ?_, ?_, ?_⟩
  · rw [tables]
    exact kept.keyed
  · rw [tables]
    exact kept.peers
  · rw [tables]
    exact registering
  · rw [tables]
    exact kept.stamped
  · rw [tables]
    exact kept.records

theorem Kept.leave (kept : Kept runtimeOf s) (registration : Nat) : Kept runtimeOf (s.leave registration) := by
  refine kept.of_tables rfl ?_
  intro r member agent found
  exact kept.registering r (List.mem_of_mem_eraseIdx member) agent found

/-- A registration goes on for an agent whose connection can be called. -/
theorem Kept.advance (kept : Kept runtimeOf s) {registration : Nat} {progress : Progress}
    (goes : ∀ r ∈ s.registering[registration]?, ∀ agent ∈ s.agentOf { r with progress := progress },
      Callable s.tables.peers agent.endpoint.blkUuid agent.endpoint.remoteUuid) :
    Kept runtimeOf (s.advance registration progress) := by
  refine kept.of_tables rfl ?_
  intro r member agent found
  rcases Slots.mem_modify member with old | ⟨old, here, rfl⟩
  · exact kept.registering r old agent found
  · exact goes old here agent found

/-- The check finds the agent of a connection that can be called. -/
theorem Kept.getAgent (kept : Kept runtimeOf s) {target : Entries} {agent : Agent}
    (found : s.tables.peers.getAgent target none false = .ok (some agent)) :
    Callable s.tables.peers agent.endpoint.blkUuid agent.endpoint.remoteUuid := by
  unfold PeerTable.getAgent at found
  split at found
  · cases found
  · rename_i record lookup
    obtain ⟨stored, isMatch⟩ := findRecord_stored (fun {handle record} => kept.keyed handle record) lookup
    obtain ⟨callable, _⟩ := PeerRecord.recordMatches_callable isMatch
    obtain ⟨own, known⟩ := kept.peers _ record stored callable
    obtain ⟨block, runtime⟩ := PeerRecord.recordToAgent_fields found
    rw [block, runtime (own ▸ known)]
    exact ⟨record, stored, callable, rfl⟩

theorem Kept.check (kept : Kept runtimeOf s) (ep : Endpoint) (context : Option Metadata) :
    Kept runtimeOf (s.check ep context) := by
  unfold Serving.check
  dsimp only
  split
  · rename_i agent found
    refine kept.of_tables rfl ?_
    intro r member other named
    rcases List.mem_append.mp member with old | new
    · exact kept.registering r old other (agentOf_prune named)
    · obtain rfl := List.mem_singleton.mp new
      obtain rfl : agent = other := Option.some.inj named
      exact kept.getAgent found
  · refine kept.of_tables rfl ?_
    intro r member other named
    exact kept.registering r member other (agentOf_prune named)

theorem Kept.list (kept : Kept runtimeOf s) (agentId : String) {entry : Entry}
    (callable : Callable s.tables.peers entry.agent.endpoint.blkUuid entry.agent.endpoint.remoteUuid) :
    Kept runtimeOf (s.list agentId entry) := by
  have frame : (s.list agentId entry).tables = s.tables ∧ (s.list agentId entry).registering = s.registering := by
    unfold Serving.list
    split <;> exact ⟨rfl, rfl⟩
  refine kept.of_tables frame.1 ?_
  rw [frame.2]
  intro r member agent found
  rcases agentOf_list found with rfl | old
  · exact callable
  · exact kept.registering r member agent old

theorem Kept.query (kept : Kept runtimeOf s) (registration : Nat) (answer : Except Raised (List Advertisement)) :
    Kept runtimeOf (s.query registration answer) := by
  unfold Serving.query
  split
  · rename_i agentId context agent here
    split
    · exact kept.leave registration
    · rename_i info
      have callable := kept.registering _ (List.mem_of_getElem? here) agent rfl
      refine (kept.list agentId callable).advance ?_
      intro r there other found
      have frame : (s.list agentId ⟨agent, baseAgentApi, info⟩).registering = s.registering ∧
          (s.list agentId ⟨agent, baseAgentApi, info⟩).tables = s.tables := by
        unfold Serving.list
        split <;> exact ⟨rfl, rfl⟩
      rw [frame.1] at there
      obtain rfl := Option.some.inj (here.symm.trans there)
      obtain rfl := agentOf_listed found
      rw [frame.2]
      exact callable
  · exact kept

theorem Kept.look (kept : Kept runtimeOf s) (registration : Nat) : Kept runtimeOf (s.look registration) := by
  unfold Serving.look
  split
  · rename_i agentId context here
    split
    · exact kept.leave registration
    · rename_i place known
      split
      · exact kept.leave registration
      · rename_i entry stored
        have callable := kept.registering _ (List.mem_of_getElem? here) entry.agent (by
          simp [Serving.agentOf, known, stored])
        have goes : ∀ agent ∈ (s.heap[place]?).map Entry.agent,
            Callable s.tables.peers agent.endpoint.blkUuid agent.endpoint.remoteUuid := by
          intro agent found
          rw [stored] at found
          obtain rfl := Option.some.inj found
          exact callable
        split
        · exact kept.advance (fun r _ => goes)
        · exact kept.advance (fun r _ => goes)
  · exact kept

theorem Kept.queryAgain (kept : Kept runtimeOf s) (registration : Nat) (answer : Except Raised (List Advertisement)) :
    Kept runtimeOf (s.queryAgain registration answer) := by
  unfold Serving.queryAgain
  split
  · rename_i agentId context place here
    split
    · exact kept.leave registration
    · rename_i info
      have refreshed : Kept runtimeOf
          { s with heap := s.heap.modify place (fun entry => { entry with info := info }) } := by
        refine kept.of_tables rfl ?_
        intro r member agent found
        rw [agentOf_info] at found
        exact kept.registering r member agent found
      refine refreshed.advance ?_
      intro r there agent found
      rw [agentOf_info] at found
      exact kept.registering _ (List.mem_of_getElem? here) agent found
  · exact kept

/-- A record is entered for a connection that can be called. -/
theorem Kept.store (kept : Kept runtimeOf s) {ep : Endpoint} {record : RecordArg} {clock : τ} {stored : Directory τ}
    {new : ServiceRecord τ} {effects : List (Effect τ)}
    (binding : record.runtimeId = some ep.remoteUuid ∧ record.peerHandle = some ep.blkUuid)
    (callable : Callable s.tables.peers ep.blkUuid ep.remoteUuid)
    (registered : s.tables.directory.registerService record none clock = .ok (stored, new, effects)) :
    Kept runtimeOf { s with tables := { s.tables with directory := stored } } := by
  obtain ⟨_, runtime, _, _, rfl, _⟩ := registerService_ok registered
  have handle := registerService_peerHandle registered
  rw [binding.1] at runtime
  rw [binding.2] at handle
  refine ⟨kept.keyed, kept.peers, kept.registering, kept.stamped, ?_⟩
  intro serviceId other found
  rw [records_store] at found
  split at found
  · obtain rfl := Option.some.inj found
    rw [eq_of_orStr runtime, eq_of_orStr handle]
    refine ⟨kept.runtime callable, Or.inl ?_⟩
    rw [eq_of_orStr runtime, eq_of_orStr handle]
    exact callable
  · exact kept.records serviceId other found

theorem Kept.enter (kept : Kept runtimeOf s) (registration : Nat) (clock : τ) :
    Kept runtimeOf (s.enter registration clock).1 := by
  unfold Serving.enter
  split
  · rename_i agentId context place advertisement rest here
    split
    · rename_i record made
      split
      · exact kept.leave registration
      · rename_i stored new effects registered
        obtain ⟨entry, atPlace, made⟩ := Option.map_eq_some_iff.mp made
        have callable := kept.registering _ (List.mem_of_getElem? here) entry.agent (by
          simp [Serving.agentOf, atPlace])
        have written : Kept runtimeOf { s with tables := { s.tables with directory := stored } } :=
          kept.store (directoryRecord_binding made) callable registered
        refine written.advance ?_
        intro r _ agent found
        obtain ⟨other, again, rfl⟩ := Option.map_eq_some_iff.mp found
        obtain rfl := Option.some.inj (atPlace.symm.trans again)
        exact callable
    · exact kept.leave registration
  · exact kept.leave registration
  · exact kept

theorem Callable.of_other {peers : PeerTable τ} {call : PeerCall τ} {peerHandle other runtimeId : String}
    (stated : Stated runtimeOf call peerHandle) (different : other ≠ peerHandle)
    (callable : Callable peers other runtimeId) :
    Callable (peers.applyEvent parent call.event call.clock).1 other runtimeId := by
  obtain ⟨record, stored, rest⟩ := callable
  exact ⟨record, (PeerTable.get_applyEvent_other stated.named different).trans stored, rest⟩

theorem Callable.of_report {call : PeerCall τ} {peerHandle : String} (stated : Stated runtimeOf call peerHandle)
    (report : call.event.eventType.isLoss = false) (inTurn : ReportInTurn parent runtimeOf s call peerHandle) :
    Callable (s.tables.peers.applyEvent parent call.event call.clock).1 peerHandle (runtimeOf peerHandle) := by
  have typed := stated.typed
  have either : call.event.eventType = .ready ∨ call.event.eventType = .degraded := by
    cases type : call.event.eventType <;> simp_all [PeerEventType.isLoss]
  obtain ⟨stored, callable⟩ := PeerTable.get_applyEvent_report parent stated.named either inTurn.1
  exact ⟨_, stored, callable, inTurn.2⟩

theorem Kept.keyed_handle (kept : Kept runtimeOf s) (call : PeerCall τ) :
    ∀ handle record, (s.tables.peers.applyEvent parent call.event call.clock).1.get handle = some record →
      record.peerHandle = handle := by
  intro handle record stored
  rcases PeerTable.get_of_applyEvent stored with old | ⟨_, _, written⟩
  · exact kept.keyed handle record old
  · obtain ⟨_, _, marked⟩ := PeerTable.markCallable_frame (s.tables.peers.updatedRecord parent
      (s.tables.peers.peers.get? handle) handle call.event (call.event.timestamp.getD call.clock)) call.event
    rw [written, PeerTable.writtenRecord, marked]
    rfl

/-- What an event leaves in the peer table keeps to the runtime ids. -/
theorem Kept.peers_handle (kept : Kept runtimeOf s) {call : PeerCall τ} {peerHandle : String}
    (stated : Stated runtimeOf call peerHandle)
    (inTurn : call.event.eventType.isLoss = false → ReportInTurn parent runtimeOf s call peerHandle) :
    ∀ handle record, (s.tables.peers.applyEvent parent call.event call.clock).1.get handle = some record →
      record.callable = true → record.runtimeId = runtimeOf handle ∧ runtimeOf handle ≠ "" := by
  intro handle record stored callable
  rcases PeerTable.get_of_applyEvent stored with old | ⟨named, _, written⟩
  · exact kept.peers handle record old callable
  · obtain rfl := Option.some.inj (named.symm.trans stated.named)
    cases type : call.event.eventType.isLoss with
    | true => exact kept.peers handle record (PeerTable.get_of_loss type stored callable).1 callable
    | false =>
      rw [written]
      exact ⟨(inTurn type).2, stated.known⟩

variable [Add τ]

theorem concernedBy_receive {record : ServiceRecord τ} {retention : τ} {call : PeerCall τ} {event : PeerEvent τ} :
    (record.receive retention call).concernedBy event ↔ record.concernedBy event := by
  obtain ⟨handle, runtime, _⟩ := record.receive_identity retention call
  simp only [ServiceRecord.concernedBy, handle, runtime]

theorem receive_of_loss {record : ServiceRecord τ} (retention : τ) {call : PeerCall τ}
    (concerned : record.concernedBy call.event) (fresh : record.lastSeen ≤ call.time)
    (loss : call.event.eventType.isLoss = true) :
    (record.receive retention call).state ≠ .up ∧ (record.receive retention call).lastSeen = call.time := by
  have accepted := ServiceRecord.accepts_iff.mpr ⟨concerned, fresh⟩
  simp only [ServiceRecord.receive, ServiceRecord.applyPeerEvent, if_pos accepted, if_pos loss]
  exact ⟨record.lose_not_up _ _ _, rfl⟩

theorem receive_of_refused {record : ServiceRecord τ} {retention : τ} {call : PeerCall τ}
    (refused : ¬record.accepts call.event call.time) : record.receive retention call = record := by
  simp only [ServiceRecord.receive, ServiceRecord.applyPeerEvent, if_neg refused]

/-- A thread enters its event: a later loss is still to come, or the event is the last loss, or it
is passed over. -/
theorem Covered.enter {tables : Tables τ} {record : ServiceRecord τ} (covered : Covered tables record) {thread : Nat}
    {call : PeerCall τ} (waits : tables.waiting[thread]? = some call) (directory : Directory τ) (retention : τ) :
    Covered { tables with directory := directory, waiting := tables.waiting.eraseIdx thread }
      (record.receive retention call) := by
  obtain ⟨handle, runtime, _⟩ := record.receive_identity retention call
  rcases covered with callable | ⟨last, bounded, rest⟩
  · refine Or.inl ?_
    rw [handle, runtime]
    exact callable
  refine Or.inr ⟨last, ?_, ?_⟩
  · intro other member concerned
    exact bounded other (List.mem_of_mem_eraseIdx member) (concernedBy_receive.mp concerned)
  -- a waiting call that differs from this one still waits
  have still : ∀ other ∈ tables.waiting, other ≠ call → other ∈ tables.waiting.eraseIdx thread :=
    fun other member different => Slots.mem_eraseIdx_of_ne waits member different
  by_cases concerned : record.concernedBy call.event
  · rcases rest with ⟨fresh, loss, member, lossConcerned, isLoss, atLast⟩ | ⟨down, passed⟩
    · rcases bounded call (List.mem_of_getElem? waits) concerned with before | ⟨equal, callLoss⟩
      · refine Or.inl ⟨(record.receive_lastSeen retention call last).mpr ⟨fresh, fun _ => before.le⟩, loss, ?_,
          concernedBy_receive.mpr lossConcerned, isLoss, atLast⟩
        refine still loss member ?_
        rintro rfl
        exact absurd atLast before.ne
      · obtain ⟨notUp, seen⟩ := receive_of_loss retention concerned (equal ▸ fresh) callLoss
        exact Or.inr ⟨notUp, (seen.trans equal).ge⟩
    · refine Or.inr ?_
      by_cases accepted : record.accepts call.event call.time
      · have fresh := (ServiceRecord.accepts_iff.mp accepted).2
        rcases bounded call (List.mem_of_getElem? waits) concerned with before | ⟨equal, callLoss⟩
        · exact absurd (passed.trans fresh) (not_le.mpr before)
        · obtain ⟨notUp, seen⟩ := receive_of_loss retention concerned fresh callLoss
          exact ⟨notUp, (seen.trans equal).ge⟩
      · rw [receive_of_refused accepted]
        exact ⟨down, passed⟩
  · rw [receive_of_refused (fun accepted => concerned (ServiceRecord.accepts_iff.mp accepted).1)]
    refine rest.imp_left ?_
    rintro ⟨fresh, loss, member, lossConcerned, isLoss, atLast⟩
    refine ⟨fresh, loss, still loss member ?_, lossConcerned, isLoss, atLast⟩
    rintro rfl
    exact concerned lossConcerned

variable [Zero τ]

/-- A loss of another connection, or a report of this one, leaves a record covered; a loss of its own
connection is the last one then. -/
theorem Kept.covered_handle (kept : Kept runtimeOf s) {call : PeerCall τ} {peerHandle : String}
    (stated : Stated runtimeOf call peerHandle)
    (loss : call.event.eventType.isLoss = true → LossInTurn s call peerHandle)
    (report : call.event.eventType.isLoss = false → ReportInTurn parent runtimeOf s call peerHandle)
    {serviceId : String} {record : ServiceRecord τ} (stored : s.tables.directory.records.get? serviceId = some record) :
    Covered (s.tables.step parent (.handlePeerEvent call)).1 record := by
  obtain ⟨own, covered⟩ := kept.records serviceId record stored
  have concerns := stated.concerns own
  by_cases same : record.peerHandle = peerHandle
  · cases type : call.event.eventType.isLoss with
    | false =>
      refine Or.inl ?_
      rw [own, same]
      exact Callable.of_report parent stated type (report type)
    | true =>
      obtain ⟨newest, seen, _⟩ := loss type
      refine Or.inr ⟨call.time, ?_, Or.inl ⟨?_, call, List.mem_append_right _ List.mem_cons_self, concerns.mpr same, type, rfl⟩⟩
      · intro waiting member concerned
        rcases List.mem_append.mp member with earlier | last
        · exact Or.inl (newest waiting earlier (same ▸ concerned.1))
        · obtain rfl := List.mem_singleton.mp last
          exact Or.inr ⟨rfl, type⟩
      · exact seen record (Dict.mem_values_iff.mpr ⟨serviceId, stored⟩) same
  · rcases covered with callable | ⟨last, bounded, rest⟩
    · exact Or.inl (callable.of_other parent stated same)
    · refine Or.inr ⟨last, ?_, ?_⟩
      · intro waiting member concerned
        rcases List.mem_append.mp member with earlier | new
        · exact bounded waiting earlier concerned
        · obtain rfl := List.mem_singleton.mp new
          exact absurd (concerns.mp concerned) same
      · refine rest.imp_left ?_
        rintro ⟨fresh, waiting, member, concerned⟩
        exact ⟨fresh, waiting, List.mem_append_left _ member, concerned⟩

theorem Kept.handlePeerEvent (kept : Kept runtimeOf s) {call : PeerCall τ}
    (turns : TakesTurns parent runtimeOf s (.handlePeerEvent call)) :
    Kept runtimeOf (s.work parent (.handlePeerEvent call)).1 := by
  obtain ⟨peerHandle, stated, inTurn⟩ := turns
  have loss : call.event.eventType.isLoss = true → LossInTurn s call peerHandle := by
    intro type
    rwa [if_pos type] at inTurn
  have report : call.event.eventType.isLoss = false → ReportInTurn parent runtimeOf s call peerHandle := by
    intro type
    rwa [if_neg (by simp [type])] at inTurn
  refine ⟨kept.keyed_handle parent call, kept.peers_handle parent stated report, ?_, ?_, ?_⟩
  · intro r member agent found
    have callable := kept.registering r member agent found
    by_cases same : agent.endpoint.blkUuid = peerHandle
    · cases type : call.event.eventType.isLoss with
      | true => exact absurd same ((loss type).2.2 r member agent found)
      | false =>
        rw [kept.runtime callable, same]
        exact Callable.of_report parent stated type (report type)
    · exact callable.of_other parent stated same
  · intro waiting member
    rcases List.mem_append.mp member with earlier | last
    · exact kept.stamped waiting earlier
    · obtain rfl := List.mem_singleton.mp last
      exact stated.stamped
  · intro serviceId record stored
    exact ⟨(kept.records serviceId record stored).1, kept.covered_handle parent stated loss report stored⟩

theorem Kept.applyPeerEvent (kept : Kept runtimeOf s) (thread : Nat) (clock : τ) :
    Kept runtimeOf (s.work parent (.applyPeerEvent thread clock)).1 := by
  cases waits : s.tables.waiting[thread]? with
  | none =>
    simp only [Serving.work, Tables.step, waits]
    exact kept
  | some call =>
    simp only [Serving.work, Tables.step, waits]
    have stamped := kept.stamped call (List.mem_of_getElem? waits)
    refine ⟨kept.keyed, kept.peers, kept.registering, ?_, ?_⟩
    · intro other member
      exact kept.stamped other (List.mem_of_mem_eraseIdx member)
    · intro serviceId record stored
      have entered := records_applyPeerEvent s.tables.directory call.event clock serviceId
      rw [stamped, Option.getD_some] at entered
      obtain ⟨old, before, rfl⟩ := Option.map_eq_some_iff.mp (entered.symm.trans stored)
      obtain ⟨handle, runtime, _⟩ := old.receive_identity s.tables.directory.retentionSeconds call
      obtain ⟨own, covered⟩ := kept.records serviceId old before
      refine ⟨?_, covered.enter waits _ _⟩
      exact runtime.trans (own.trans (congrArg runtimeOf handle.symm))

theorem Kept.step (kept : Kept runtimeOf s) {turn : Turn τ} (turns : TakesTurns parent runtimeOf s turn) :
    Kept runtimeOf (s.step parent turn).1 := by
  cases turn with
  | handlePeerEvent call => exact kept.handlePeerEvent parent turns
  | applyPeerEvent thread clock => exact kept.applyPeerEvent parent thread clock
  | rememberConnectTarget endpoint direction =>
    exact ⟨kept.keyed, kept.peers, kept.registering, kept.stamped, kept.records⟩
  | check ep context => exact kept.check ep context
  | query registration answer => exact kept.query registration answer
  | look registration => exact kept.look registration
  | queryAgain registration answer => exact kept.queryAgain registration answer
  | enter registration clock => exact kept.enter registration clock

end Invariant

section Result

variable [Add τ] [LinearOrder τ] [Zero τ]

/-- Whenever no registration is in progress and the directory has entered every event, each active
service has a callable connection, in every run in which events and registrations take turns. -/
theorem active_services_callable (parent : ParentInfo) (runtimeOf : String → String) (retentionSeconds : τ)
    (runtimeId : String) (turns : List (Turn τ))
    (orderly : (Serving.machine parent).Admits (TakesTurns parent runtimeOf) (.start retentionSeconds runtimeId) turns)
    (settled : ((Serving.machine parent).final (.start retentionSeconds runtimeId) turns).Settled) :
    UpIsLive ((Serving.machine parent).final (.start retentionSeconds runtimeId) turns) := by
  have kept := (Serving.machine parent).run_invariant (fun s _ => Kept runtimeOf s)
    (Kept.start retentionSeconds runtimeId) (fun s _ turn kept allowed => kept.step parent allowed) orderly
  exact kept.upIsLive settled

end Result

section Decide

variable [Add τ] [LinearOrder τ] [Zero τ] (parent : ParentInfo) (runtimeOf : String → String)

instance (call : PeerCall τ) (peerHandle : String) : Decidable (Stated runtimeOf call peerHandle) :=
  decidable_of_iff
    (orStr call.event.peerHandle none = some peerHandle ∧ runtimeOf peerHandle ≠ "" ∧ call.event.eventType ≠ .unknown ∧
      call.event.timestamp = some call.time ∧ ∀ runtimeId ∈ call.event.runtime, runtimeId = runtimeOf peerHandle)
    ⟨fun ⟨named, known, typed, stamped, runtime⟩ => ⟨named, known, typed, stamped, runtime⟩,
      fun stated => ⟨stated.named, stated.known, stated.typed, stated.stamped, stated.runtime⟩⟩

instance (s : Serving τ) (call : PeerCall τ) (peerHandle : String) : Decidable (LossInTurn s call peerHandle) :=
  inferInstanceAs (Decidable (_ ∧ _ ∧ _))

instance (s : Serving τ) (call : PeerCall τ) (peerHandle : String) :
    Decidable (ReportInTurn parent runtimeOf s call peerHandle) :=
  inferInstanceAs (Decidable (_ ∧ _))

instance (s : Serving τ) : ∀ turn, Decidable (TakesTurns parent runtimeOf s turn)
  | .handlePeerEvent call =>
    match named : orStr call.event.peerHandle none with
    | none => isFalse (fun ⟨_, stated, _⟩ => nomatch named.symm.trans stated.named)
    | some peerHandle =>
      decidable_of_iff (Stated runtimeOf call peerHandle ∧
          if call.event.eventType.isLoss then LossInTurn s call peerHandle
          else ReportInTurn parent runtimeOf s call peerHandle)
        ⟨fun both => ⟨peerHandle, both⟩,
          fun ⟨_, both⟩ => Option.some.inj (both.1.named.symm.trans named) ▸ both⟩
  | .applyPeerEvent .. | .rememberConnectTarget .. | .check .. | .query .. | .look .. | .queryAgain .. | .enter .. =>
    isTrue trivial

end Decide

/-- An agent's connection comes up. -/
def connected : List (Turn Nat) :=
  [.handlePeerEvent ⟨{ eventType := .ready, peerHandle := some "peer-1", remoteRuntimeId := some "runtime-1",
                       timestamp := some 1 }, 0⟩, .applyPeerEvent 0 0]

/-- It is lost. -/
def lost : List (Turn Nat) :=
  [.handlePeerEvent ⟨{ eventType := .lost, peerHandle := some "peer-1", remoteRuntimeId := some "runtime-1",
                       timestamp := some 5 }, 0⟩, .applyPeerEvent 0 0]

/-- The query of a registration, and what follows it. -/
def answered : List (Turn Nat) :=
  [.query 0 (.ok [.metadata { serviceName := some "solver", apiBindings := some [[]] }]), .look 0, .enter 0 4, .enter 0 4]

/-- A registration of the agent, and the loss of its connection afterwards. -/
theorem active_services_callable_loss :
    UpIsLive ((Serving.machine ⟨none, none, .int 0⟩).final (.start 300 "directory")
      (connected ++ [.check agentEndpoint none] ++ answered ++ lost)) := by
  refine active_services_callable _ (fun _ => "runtime-1") _ _ _ ?_ ?_
  · decide +kernel
  · exact ⟨List.isEmpty_iff.mp (by decide +kernel), List.isEmpty_iff.mp (by decide +kernel)⟩

/-- The loss comes while the query of the registration is out: the service is entered as active
after the directory has entered the loss. -/
theorem active_service_lost :
    let s := (Serving.machine ⟨none, none, .int 0⟩).final (.start 300 "directory")
      (connected ++ [.check agentEndpoint none] ++ lost ++ answered)
    s.Settled ∧ ¬UpIsLive s := by
  intro s
  have uncallable : (s.tables.peers.get "peer-1").all (fun record => !record.callable) = true := by decide +kernel
  have active : ((s.tables.directory.records.get? "solver:host:node").map
      (fun record => (record.state, record.peerHandle))) = some (.up, "peer-1") := by decide +kernel
  refine ⟨⟨List.isEmpty_iff.mp (by decide +kernel), List.isEmpty_iff.mp (by decide +kernel)⟩, ?_⟩
  intro live
  obtain ⟨service, entered, same⟩ := Option.map_eq_some_iff.mp active
  obtain ⟨up, handle⟩ := Prod.mk.inj same
  obtain ⟨record, stored, callable, _⟩ := live "solver:host:node" service entered up
  rw [handle] at stored
  rw [stored] at uncallable
  simp [callable] at uncallable

end DEFw.DirSvc
