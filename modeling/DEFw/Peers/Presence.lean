import DEFw.Peers.Table

namespace DEFw.Peers

variable {τ : Type}

/-- A lifecycle event of one peer, by its type and time. -/
structure Sighting (τ : Type) where
  type : PeerEventType
  time : τ

variable [LinearOrder τ]

/-- What the table knows of one peer, `last_seen` and whether it is callable,
and how a sighting changes it. -/
def observe (presence : Option (τ × Bool)) (sighting : Sighting τ) : Option (τ × Bool) :=
  match presence, sighting.type with
  | some (lastSeen, callable), type =>
    if sighting.time < lastSeen then some (lastSeen, callable)
    else
      match type with
      | .removed => none
      | .ready => some (sighting.time, true)
      | .degraded => some (sighting.time, true)
      | .lost => some (sighting.time, false)
      | .unknown => some (sighting.time, callable)
  | none, .ready => some (sighting.time, true)
  | none, .degraded => some (sighting.time, true)
  | none, _ => none

/-- The presence of a peer the table did not know before the sightings. -/
def observed (sightings : List (Sighting τ)) : Option (τ × Bool) := sightings.foldl observe none

theorem observed_concat (sightings : List (Sighting τ)) (last : Sighting τ) :
    observed (sightings ++ [last]) = observe (observed sightings) last := by
  simp only [observed, List.foldl_append, List.foldl_cons, List.foldl_nil]

end DEFw.Peers

namespace DEFw.PeerTable
open Py Peers

variable {τ : Type}

def presence (table : PeerTable τ) (peerHandle : String) : Option (τ × Bool) :=
  (table.peers.get? peerHandle).map (fun record => (record.lastSeen, record.callable))

theorem presence_set (table : PeerTable τ) (peerHandle : String) (record : PeerRecord τ) :
    presence { table with peers := table.peers.set peerHandle record } peerHandle =
      some (record.lastSeen, record.callable) := by
  simp [presence]

theorem markCallable_lastSeen (record : PeerRecord τ) (event : PeerEvent τ) :
    (markCallable record event).lastSeen = record.lastSeen := by
  unfold markCallable
  split <;> rfl

/-- The event type decides about two fields only. -/
theorem markCallable_frame (record : PeerRecord τ) (event : PeerEvent τ) :
    ∃ callable lossReason, markCallable record event = { record with callable := callable, lossReason := lossReason } := by
  unfold markCallable
  split <;> exact ⟨_, _, rfl⟩

theorem markCallable_callable (record : PeerRecord τ) (event : PeerEvent τ) :
    (markCallable record event).callable =
      match event.eventType with
      | .ready => true
      | .degraded => true
      | .lost => false
      | _ => record.callable := by
  unfold markCallable
  split <;> simp_all

variable [LinearOrder τ]

/-- Seen from one peer, `apply_event` is `observe`. -/
theorem presence_applyEvent (parent : ParentInfo) (table : PeerTable τ) {peerHandle : String} (named : peerHandle ≠ "")
    {call : PeerCall τ} (ours : call.event.peerHandle = some peerHandle) :
    (table.applyEvent parent call.event call.clock).1.presence peerHandle =
      observe (table.presence peerHandle) ⟨call.event.eventType, call.time⟩ := by
  have handle : orStr call.event.peerHandle none = some peerHandle := by
    simp [orStr, ours, Option.filter, named]
  unfold applyEvent
  rw [handle]
  dsimp only
  cases found : table.peers.get? peerHandle with
  | none =>
    have unknown : table.presence peerHandle = none := by simp [presence, found]
    rw [unknown]
    cases type : call.event.eventType with
    | removed => simp [presence, observe, Dict.get?_erase]
    | ready | degraded =>
      simp [observe, presence_set, markCallable_lastSeen, markCallable_callable, type, updatedRecord, PeerCall.time]
    | lost | unknown => simp [observe, unknown]
  | some record =>
    have seen : table.presence peerHandle = some (record.lastSeen, record.callable) := by simp [presence, found]
    rw [seen]
    by_cases stale : call.time < record.lastSeen
    · have early : call.event.timestamp.getD call.clock < record.lastSeen := stale
      simp [observe, stale, early, seen]
    · have late : ¬call.event.timestamp.getD call.clock < record.lastSeen := stale
      cases type : call.event.eventType with
      | removed => simp [presence, observe, Dict.get?_erase, late, stale]
      | ready | degraded | lost | unknown =>
        simp [observe, presence_set, markCallable_lastSeen, markCallable_callable, type, updatedRecord, PeerCall.time,
          late]

/-- A record of the table after an event was there before or is the one the event wrote. -/
theorem get_of_applyEvent {parent : ParentInfo} {table : PeerTable τ} {event : PeerEvent τ} {clock : τ} {handle : String}
    {record : PeerRecord τ} (stored : (table.applyEvent parent event clock).1.get handle = some record) :
    table.get handle = some record ∨ orStr event.peerHandle none = some handle ∧
      event.eventType ≠ .removed ∧ record = table.writtenRecord parent handle event (event.timestamp.getD clock) := by
  rcases applyEvent_cases parent table event clock with ⟨same, _⟩ | ⟨peerHandle, named, ⟨_, same⟩ | ⟨kept, same⟩⟩
  · rw [same] at stored
    exact Or.inl stored
  · rw [same] at stored
    exact Or.inl (Dict.get?_of_erase stored).2
  · rw [same] at stored
    simp only [get, Dict.get?_set] at stored
    split at stored
    next own =>
      cases stored
      exact Or.inr ⟨own ▸ named, kept, own ▸ rfl⟩
    · exact Or.inl stored

omit [LinearOrder τ] in
/-- An event that names no other runtime leaves a connection its runtime id. -/
theorem writtenRecord_runtimeId (parent : ParentInfo) {table : PeerTable τ} {handle : String} {record : PeerRecord τ}
    (stored : table.peers.get? handle = some record) (known : record.runtimeId ≠ "") {event : PeerEvent τ}
    (same : ∀ runtimeId ∈ orStr event.remoteRuntimeId none, runtimeId = record.runtimeId) (timestamp : τ) :
    (table.writtenRecord parent handle event timestamp).runtimeId = record.runtimeId := by
  have named : (orStr event.remoteRuntimeId (some record.runtimeId)).getD "" = record.runtimeId := by
    cases given : event.remoteRuntimeId with
    | none => simp [orStr, Option.filter, known]
    | some runtimeId =>
      by_cases empty : runtimeId = ""
      · simp [orStr, Option.filter, known, empty]
      · have own := same runtimeId (by simp [orStr, given, Option.filter, empty])
        simp [orStr, Option.filter, known, own]
  obtain ⟨callable, lossReason, marked⟩ :=
    markCallable_frame (table.updatedRecord parent (table.peers.get? handle) handle event timestamp) event
  rw [writtenRecord, marked]
  simp only [updatedRecord, stored, Option.map_some, named, if_neg known]

/-- A loss makes no peer callable, and its own peer stays callable only where the table has seen it since. -/
theorem get_of_loss {parent : ParentInfo} {table : PeerTable τ} {event : PeerEvent τ} {clock : τ} {handle : String}
    {record : PeerRecord τ} (loss : event.eventType.isLoss)
    (stored : (table.applyEvent parent event clock).1.get handle = some record) (callable : record.callable) :
    table.get handle = some record ∧
      (orStr event.peerHandle none = some handle → event.timestamp.getD clock < record.lastSeen) := by
  rcases applyEvent_cases parent table event clock with ⟨same, stale⟩ | ⟨peerHandle, named, ⟨_, same⟩ | ⟨kept, same⟩⟩
  · rw [same] at stored
    exact ⟨stored, fun own => stale handle record own stored⟩
  · rw [same] at stored
    obtain ⟨other, before⟩ := Dict.get?_of_erase stored
    exact ⟨before, fun own => absurd (Option.some.inj (own.symm.trans named)) other⟩
  · have lost : event.eventType = .lost := by
      cases type : event.eventType <;> simp_all [PeerEventType.isLoss]
    rw [same] at stored
    simp only [get, Dict.get?_set] at stored
    split at stored
    · cases stored
      simp [writtenRecord, markCallable_callable, lost] at callable
    next other => exact ⟨stored, fun own => absurd (Option.some.inj (own.symm.trans named)) other⟩

/-- An event leaves the records of all other peers. -/
theorem get_applyEvent_other {parent : ParentInfo} {table : PeerTable τ} {event : PeerEvent τ} {clock : τ}
    {peerHandle other : String} (named : orStr event.peerHandle none = some peerHandle) (different : other ≠ peerHandle) :
    (table.applyEvent parent event clock).1.get other = table.get other := by
  rcases applyEvent_cases parent table event clock with ⟨same, _⟩ | ⟨handle, given, ⟨_, same⟩ | ⟨_, same⟩⟩
  · rw [same]
  · rw [same]
    obtain rfl := Option.some.inj (given.symm.trans named)
    simp only [get, Dict.get?_erase, if_neg different]
  · rw [same]
    obtain rfl := Option.some.inj (given.symm.trans named)
    simp only [get, Dict.get?_set, if_neg different]

/-- A report that is not stale writes the record of its peer, which then is callable. -/
theorem get_applyEvent_report (parent : ParentInfo) {table : PeerTable τ} {event : PeerEvent τ} {clock : τ}
    {peerHandle : String} (named : orStr event.peerHandle none = some peerHandle)
    (report : event.eventType = .ready ∨ event.eventType = .degraded)
    (fresh : ∀ record ∈ table.get peerHandle, record.lastSeen ≤ event.timestamp.getD clock) :
    (table.applyEvent parent event clock).1.get peerHandle =
        some (table.writtenRecord parent peerHandle event (event.timestamp.getD clock)) ∧
      (table.writtenRecord parent peerHandle event (event.timestamp.getD clock)).callable = true := by
  have current : ((table.peers.get? peerHandle).any (fun record => event.timestamp.getD clock < record.lastSeen)) = false := by
    cases stored : table.peers.get? peerHandle with
    | none => rfl
    | some record => simpa using fresh record stored
  have kept : event.eventType ≠ .removed := by
    rcases report with type | type <;> simp [type]
  have counts : (event.eventType = .ready || event.eventType = .degraded) = true := by
    rcases report with type | type <;> simp [type]
  refine ⟨?_, ?_⟩
  · simp only [applyEvent, named, current, Bool.false_eq_true, if_false, kept, counts, Bool.not_true, Bool.and_false]
    simp only [get, Dict.get?_set_self, writtenRecord]
  · rw [writtenRecord, markCallable_callable]
    rcases report with type | type <;> simp [type]

/-- The table after a sequence of calls. -/
def applyAll (parent : ParentInfo) (table : PeerTable τ) (calls : List (PeerCall τ)) : PeerTable τ :=
  calls.foldl (fun table call => (table.applyEvent parent call.event call.clock).1) table

def sighting (call : PeerCall τ) : Sighting τ := ⟨call.event.eventType, call.time⟩

theorem presence_applyAll (parent : ParentInfo) (table : PeerTable τ) {peerHandle : String} (named : peerHandle ≠ "")
    {calls : List (PeerCall τ)} (ours : ∀ call ∈ calls, call.event.peerHandle = some peerHandle) :
    (table.applyAll parent calls).presence peerHandle =
      (calls.map sighting).foldl observe (table.presence peerHandle) := by
  induction calls generalizing table with
  | nil => rfl
  | cons call rest ih =>
    have first := presence_applyEvent parent table named (ours call List.mem_cons_self)
    have later := ih (table.applyEvent parent call.event call.clock).1
      (fun other member => ours other (List.mem_cons_of_mem call member))
    rw [first] at later
    exact later

end DEFw.PeerTable
