import DEFw.Directory.Fencing

/-- The call of `apply_peer_event` as an operation of the directory. -/
def DEFw.PeerCall.op {τ : Type} (call : DEFw.PeerCall τ) : DEFw.Directory.Op τ :=
  .applyPeerEvent call.event call.clock

namespace DEFw.Directory

variable {τ : Type}

/-- The event is about the peer and the runtime of the record. -/
def ServiceRecord.concernedBy (record : ServiceRecord τ) (event : PeerEvent τ) : Prop :=
  event.peerHandle = some record.peerHandle ∧ ∀ runtime, event.runtime = some runtime → record.runtimeId = runtime

variable [LinearOrder τ]

theorem ServiceRecord.accepts_iff {record : ServiceRecord τ} {event : PeerEvent τ} {now : τ} :
    record.accepts event now ↔ record.concernedBy event ∧ record.lastSeen ≤ now :=
  and_assoc.symm

variable [Add τ]

def ServiceRecord.receive (retention : τ) (record : ServiceRecord τ) (call : PeerCall τ) : ServiceRecord τ :=
  (record.applyPeerEvent call.event call.time retention).1

/-- What a sequence of peer events makes of one record. -/
def ServiceRecord.receiveAll (record : ServiceRecord τ) (retention : τ) (calls : List (PeerCall τ)) :
    ServiceRecord τ :=
  calls.foldl (ServiceRecord.receive retention) record

theorem ServiceRecord.receiveAll_concat (record : ServiceRecord τ) (retention : τ) (calls : List (PeerCall τ))
    (call : PeerCall τ) :
    record.receiveAll retention (calls ++ [call]) = (record.receiveAll retention calls).receive retention call := by
  simp only [receiveAll, List.foldl_append, List.foldl_cons, List.foldl_nil]

/-- A peer event leaves the identity of a record alone. -/
theorem ServiceRecord.receive_identity (record : ServiceRecord τ) (retention : τ) (call : PeerCall τ) :
    (record.receive retention call).peerHandle = record.peerHandle ∧
      (record.receive retention call).runtimeId = record.runtimeId ∧
      (record.receive retention call).generation = record.generation := by
  unfold receive
  rcases record.applyPeerEvent_cases call.event call.time retention with
    ⟨_, same⟩ | ⟨_, _, same⟩ | ⟨_, _, _, same⟩ | ⟨_, _, _, same⟩ <;> rw [same] <;> exact ⟨rfl, rfl, rfl⟩

theorem ServiceRecord.receiveAll_identity (record : ServiceRecord τ) (retention : τ) (calls : List (PeerCall τ)) :
    (record.receiveAll retention calls).peerHandle = record.peerHandle ∧
      (record.receiveAll retention calls).runtimeId = record.runtimeId ∧
      (record.receiveAll retention calls).generation = record.generation := by
  induction calls using List.reverseRecOn with
  | nil => exact ⟨rfl, rfl, rfl⟩
  | append_singleton calls call ih =>
    obtain ⟨handle, runtime, generation⟩ := (record.receiveAll retention calls).receive_identity retention call
    rw [receiveAll_concat]
    exact ⟨handle.trans ih.1, runtime.trans ih.2.1, generation.trans ih.2.2⟩

theorem ServiceRecord.concernedBy_receiveAll {record : ServiceRecord τ} {retention : τ} {calls : List (PeerCall τ)}
    {event : PeerEvent τ} : (record.receiveAll retention calls).concernedBy event ↔ record.concernedBy event := by
  obtain ⟨handle, runtime, _⟩ := record.receiveAll_identity retention calls
  simp only [concernedBy, handle, runtime]

/-- `last_seen` never goes back and follows every event about the record. -/
theorem ServiceRecord.receive_lastSeen (record : ServiceRecord τ) (retention : τ) (call : PeerCall τ) (time : τ) :
    (record.receive retention call).lastSeen ≤ time ↔
      record.lastSeen ≤ time ∧ (record.concernedBy call.event → call.time ≤ time) := by
  have moved : (record.receive retention call).lastSeen =
      if record.accepts call.event call.time then call.time else record.lastSeen := by
    unfold receive
    rcases record.applyPeerEvent_cases call.event call.time retention with
      ⟨refused, same⟩ | ⟨accepted, _, same⟩ | ⟨accepted, _, _, same⟩ | ⟨accepted, _, _, same⟩
    · rw [same, if_neg refused]
    · rw [same, if_pos accepted]
      rfl
    · rw [same, if_pos accepted]
      rfl
    · rw [same, if_pos accepted]
      rfl
  rw [moved]
  by_cases concerned : record.concernedBy call.event
  · by_cases late : record.lastSeen ≤ call.time
    · rw [if_pos (accepts_iff.mpr ⟨concerned, late⟩)]
      exact ⟨fun before => ⟨late.trans before, fun _ => before⟩, fun both => both.2 concerned⟩
    · rw [if_neg (fun accepted => late (accepts_iff.mp accepted).2)]
      exact ⟨fun before => ⟨before, fun _ => (not_le.mp late).le.trans before⟩, And.left⟩
  · rw [if_neg (fun accepted => concerned (accepts_iff.mp accepted).1)]
    simp [concerned]

/-- The call is about the record and no older than `last_seen` and every
earlier call about the record. -/
def Newest (record : ServiceRecord τ) (before : List (PeerCall τ)) (call : PeerCall τ) : Prop :=
  record.concernedBy call.event ∧ record.lastSeen ≤ call.time ∧
    ∀ earlier ∈ before, record.concernedBy earlier.event → earlier.time ≤ call.time

/-- A call takes effect after others exactly when it is the newest so far. -/
theorem ServiceRecord.accepts_receiveAll {record : ServiceRecord τ} {retention : τ} {before : List (PeerCall τ)}
    {call : PeerCall τ} :
    (record.receiveAll retention before).accepts call.event call.time ↔ Newest record before call := by
  rw [accepts_iff, concernedBy_receiveAll]
  have seen : ∀ time, (record.receiveAll retention before).lastSeen ≤ time ↔
      record.lastSeen ≤ time ∧ ∀ earlier ∈ before, record.concernedBy earlier.event → earlier.time ≤ time := by
    intro time
    induction before using List.reverseRecOn with
    | nil => simp [receiveAll]
    | append_singleton before last ih =>
      rw [receiveAll_concat, receive_lastSeen, ih, concernedBy_receiveAll]
      simp only [List.mem_append, List.mem_singleton, or_imp, forall_and, forall_eq, and_assoc]
  rw [seen, Newest]

variable [Zero τ]

theorem retentionSeconds_peerRun (d : Directory τ) (calls : List (PeerCall τ)) :
    (machine.final d (calls.map PeerCall.op)).retentionSeconds = d.retentionSeconds := by
  induction calls using List.reverseRecOn with
  | nil => rfl
  | append_singleton calls call ih =>
    rw [List.map_append, List.map_singleton, machine.final_concat, ← ih]
    exact retentionSeconds_forgetSubscriber _ call.event

/-- In a run of peer events every record goes its own way. -/
theorem records_peerRun (d : Directory τ) (calls : List (PeerCall τ)) (serviceId : String) :
    (machine.final d (calls.map PeerCall.op)).records.get? serviceId =
      (d.records.get? serviceId).map (fun record => record.receiveAll d.retentionSeconds calls) := by
  induction calls using List.reverseRecOn with
  | nil => simp [Machine.final, ServiceRecord.receiveAll]
  | append_singleton calls call ih =>
    have applied := (machine.final d (calls.map PeerCall.op)).records_applyPeerEvent call.event call.clock serviceId
    rw [List.map_append, List.map_singleton, machine.final_concat]
    refine applied.trans ?_
    rw [ih, retentionSeconds_peerRun, Option.map_map]
    simp only [ServiceRecord.receiveAll_concat]
    rfl

end DEFw.Directory
