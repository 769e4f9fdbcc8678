import DEFw.Directory.PeerRuns
import DEFw.Lib.Replay

namespace DEFw.Directory

variable {τ : Type}

/-- What the directory holds about a service once its peer events are in. -/
structure Outcome (τ : Type) where
  state : RecordState
  downReason : String
  lastSeen : τ
  retentionDeadline : Option τ
  generation : Nat
  runtimeId : String
  deriving DecidableEq

def ServiceRecord.outcome (record : ServiceRecord τ) : Outcome τ where
  state := record.state
  downReason := record.downReason
  lastSeen := record.lastSeen
  retentionDeadline := record.retentionDeadline
  generation := record.generation
  runtimeId := record.runtimeId

/-- The outcome and the peer: all that later peer events depend on. -/
def ServiceRecord.standing (record : ServiceRecord τ) : Outcome τ × String := (record.outcome, record.peerHandle)

/-- The events by which a peer comes and goes. -/
def isTransition (call : PeerCall τ) : Prop :=
  call.event.eventType = .ready ∨ call.event.eventType.isLoss = true

/-- The outcome a call leaves behind when it takes effect, whatever was there. -/
def settledBy [Add τ] (call : PeerCall τ) (retention : τ) (generation : Nat) (runtimeId : String) : Outcome τ :=
  if call.event.eventType.isLoss then
    { state := if lossReason call.event = "heartbeat-timeout" then .timedOut else .down
      downReason := lossReason call.event
      lastSeen := call.time
      retentionDeadline := some (call.time + retention)
      generation := generation
      runtimeId := runtimeId }
  else
    { state := .up
      downReason := ""
      lastSeen := call.time
      retentionDeadline := none
      generation := generation
      runtimeId := runtimeId }

variable [LinearOrder τ]

theorem ServiceRecord.accepts_of_standing {left right : ServiceRecord τ} (same : left.standing = right.standing)
    (event : PeerEvent τ) (now : τ) : left.accepts event now ↔ right.accepts event now := by
  have handle : left.peerHandle = right.peerHandle := congrArg Prod.snd same
  have runtime : left.runtimeId = right.runtimeId := congrArg (fun standing => standing.1.runtimeId) same
  have seen : left.lastSeen = right.lastSeen := congrArg (fun standing => standing.1.lastSeen) same
  simp only [accepts, handle, runtime, seen]

variable [Add τ]

theorem ServiceRecord.receive_refused {record : ServiceRecord τ} {retention : τ} {call : PeerCall τ}
    (refused : ¬record.accepts call.event call.time) : record.receive retention call = record := by
  simp [receive, applyPeerEvent, refused]

/-- A transition that takes effect decides the outcome by itself. An UP record
already has no reason and no deadline, so a READY need not write them. -/
theorem ServiceRecord.receive_accepted {record : ServiceRecord τ} {retention : τ} {call : PeerCall τ}
    (live : record.state ≠ .deregistered) (transition : isTransition call)
    (accepted : record.accepts call.event call.time) :
    (record.receive retention call).standing =
      (settledBy call retention record.generation record.runtimeId, record.peerHandle) := by
  unfold ServiceRecord.receive
  rcases record.applyPeerEvent_cases call.event call.time retention with
    ⟨refused, _⟩ | ⟨_, loss, same⟩ | ⟨_, ready, _, same⟩ | ⟨_, notLoss, unmoved, same⟩
  · exact absurd accepted refused
  · rw [same]
    simp [standing, outcome, lose, settledBy, loss]
  · rw [same]
    simp [standing, outcome, revive, settledBy, ready, PeerEventType.isLoss]
  · have ready : call.event.eventType = .ready := by
      rcases transition with ready | loss
      · exact ready
      · rw [notLoss] at loss
        cases loss
    have isUp : record.state = .up := by
      cases state : record.state with
      | up => rfl
      | down => exact absurd ⟨ready, Or.inl state⟩ unmoved
      | timedOut => exact absurd ⟨ready, Or.inr state⟩ unmoved
      | deregistered => exact absurd state live
    obtain ⟨noReason, noDeadline⟩ := record.up_clean isUp
    rw [same]
    simp [standing, outcome, touch, settledBy, notLoss, isUp, noReason, noDeadline]

theorem ServiceRecord.receive_live {record : ServiceRecord τ} (retention : τ) {call : PeerCall τ}
    (live : record.state ≠ .deregistered) : (record.receive retention call).state ≠ .deregistered := by
  unfold ServiceRecord.receive
  rcases record.applyPeerEvent_cases call.event call.time retention with
    ⟨_, same⟩ | ⟨_, _, same⟩ | ⟨_, _, _, same⟩ | ⟨_, _, _, same⟩ <;> rw [same]
  · exact live
  · unfold lose
    split <;> simp
  · simp [revive]
  · exact live

theorem ServiceRecord.receive_of_standing {left right : ServiceRecord τ} {retention : τ} {call : PeerCall τ}
    (transition : isTransition call) (leftLive : left.state ≠ .deregistered) (rightLive : right.state ≠ .deregistered)
    (same : left.standing = right.standing) :
    (left.receive retention call).standing = (right.receive retention call).standing := by
  have alike := accepts_of_standing same call.event call.time
  by_cases accepted : left.accepts call.event call.time
  · rw [receive_accepted leftLive transition accepted, receive_accepted rightLive transition (alike.mp accepted)]
    have handle : left.peerHandle = right.peerHandle := congrArg Prod.snd same
    have runtime : left.runtimeId = right.runtimeId := congrArg (fun standing => standing.1.runtimeId) same
    have generation : left.generation = right.generation := congrArg (fun standing => standing.1.generation) same
    rw [handle, runtime, generation]
  · rw [receive_refused accepted, receive_refused (fun other => accepted (alike.mpr other))]
    exact same

/-- The later of two calls has the last word in either order. -/
theorem ServiceRecord.receive_later_wins {record : ServiceRecord τ} {retention : τ} {earlier later : PeerCall τ}
    (live : record.state ≠ .deregistered) (transition : isTransition later) (before : earlier.time < later.time) :
    ((record.receive retention earlier).receive retention later).standing =
      ((record.receive retention later).receive retention earlier).standing := by
  obtain ⟨handle, runtime, generation⟩ := record.receive_identity retention earlier
  have liveEarlier : (record.receive retention earlier).state ≠ .deregistered := receive_live retention live
  have concerned : (record.receive retention earlier).concernedBy later.event ↔ record.concernedBy later.event := by
    simp only [concernedBy, handle, runtime]
  by_cases accepted : record.accepts later.event later.time
  · obtain ⟨concerns, late⟩ := accepts_iff.mp accepted
    have seen := (record.receive_lastSeen retention earlier later.time).mpr ⟨late, fun _ => before.le⟩
    have still : (record.receive retention earlier).accepts later.event later.time :=
      accepts_iff.mpr ⟨concerned.mpr concerns, seen⟩
    have overtaken : ¬(record.receive retention later).accepts earlier.event earlier.time := by
      intro accepted
      have seenLater := (record.receive_lastSeen retention later earlier.time).mp (accepts_iff.mp accepted).2
      exact absurd (seenLater.2 concerns) (not_le.mpr before)
    rw [receive_refused overtaken, receive_accepted liveEarlier transition still,
      receive_accepted live transition accepted, handle, runtime, generation]
  · have refused : ¬(record.receive retention earlier).accepts later.event later.time := by
      intro still
      obtain ⟨concerns, late⟩ := accepts_iff.mp still
      have seen := (record.receive_lastSeen retention earlier later.time).mp late
      exact accepted (accepts_iff.mpr ⟨concerned.mp concerns, seen.1⟩)
    rw [receive_refused refused, receive_refused accepted]

theorem ServiceRecord.receive_exchange {record : ServiceRecord τ} {retention : τ} {first second : PeerCall τ}
    (live : record.state ≠ .deregistered) (firstFits : isTransition first) (secondFits : isTransition second)
    (different : first.time ≠ second.time) :
    ((record.receive retention first).receive retention second).standing =
      ((record.receive retention second).receive retention first).standing := by
  rcases lt_or_gt_of_ne different with before | after
  · exact receive_later_wins live secondFits before
  · exact (receive_later_wins live firstFits after).symm

theorem ServiceRecord.receiveAll_perm {record : ServiceRecord τ} (retention : τ) {first second : List (PeerCall τ)}
    (live : record.state ≠ .deregistered) (order : first.Perm second) (transitions : ∀ call ∈ first, isTransition call)
    (distinct : first.Pairwise (fun left right => left.time ≠ right.time)) :
    (record.receiveAll retention first).standing = (record.receiveAll retention second).standing := by
  have next : ∀ (record : ServiceRecord τ) (call : PeerCall τ), isTransition call → record.state ≠ .deregistered →
      (record.receive retention call).state ≠ .deregistered :=
    fun _ _ _ live => receive_live retention live
  have congr : ∀ (left right : ServiceRecord τ) (call : PeerCall τ), isTransition call →
      left.state ≠ .deregistered → right.state ≠ .deregistered → Function.onFun Eq standing left right →
      Function.onFun Eq standing (left.receive retention call) (right.receive retention call) :=
    fun _ _ _ fits leftLive rightLive same => receive_of_standing fits leftLive rightLive same
  have exchange : ∀ (record : ServiceRecord τ) (left right : PeerCall τ), record.state ≠ .deregistered →
      isTransition left → isTransition right → left.time ≠ right.time →
      Function.onFun Eq standing ((record.receive retention left).receive retention right)
        ((record.receive retention right).receive retention left) :=
    fun _ _ _ live leftFits rightFits different => receive_exchange live leftFits rightFits different
  exact Replay.foldl_perm (eq_equivalence.comap standing) (fun _ _ => Ne.symm) next congr exchange
    order transitions distinct live

variable [Zero τ]

/-- An event with a timestamp never reads the clock. -/
theorem ServiceRecord.receiveAll_stamped (record : ServiceRecord τ) (retention : τ) {calls : List (PeerCall τ)}
    (stamped : ∀ call ∈ calls, call.event.timestamp.isSome) :
    record.receiveAll retention calls =
      record.receiveAll retention ((calls.map PeerCall.event).map (fun event => ⟨event, 0⟩)) := by
  induction calls generalizing record with
  | nil => rfl
  | cons call rest ih =>
    obtain ⟨time, atTime⟩ := Option.isSome_iff_exists.mp (stamped call List.mem_cons_self)
    have same : record.receive retention call = record.receive retention ⟨call.event, 0⟩ := by
      simp [receive, PeerCall.time, atTime]
    have later := ih (record.receive retention call) (fun other member => stamped other (List.mem_cons_of_mem call member))
    simp only [receiveAll, List.map_cons, List.foldl_cons, ← same] at later ⊢
    exact later

/-- The same peer events, applied in any two orders and at any clock readings,
leave a record that is not deregistered with the same outcome. -/
theorem peer_events_converge (d : Directory τ) (serviceId : String) (record : ServiceRecord τ)
    (atRecord : d.records.get? serviceId = some record)
    (live : record.state = .up ∨ record.state = .down ∨ record.state = .timedOut)
    (first second : List (PeerCall τ)) (order : (first.map PeerCall.event).Perm (second.map PeerCall.event))
    (types : ∀ call ∈ first, call.event.eventType = .ready ∨ call.event.eventType = .lost ∨
      call.event.eventType = .removed)
    (stamped : ∀ call ∈ first, call.event.timestamp.isSome)
    (distinct : first.Pairwise (fun left right => left.event.timestamp ≠ right.event.timestamp)) :
    ∃ left right, (machine.final d (first.map PeerCall.op)).records.get? serviceId = some left ∧
      (machine.final d (second.map PeerCall.op)).records.get? serviceId = some right ∧
      left.outcome = right.outcome := by
  have notDeregistered : record.state ≠ .deregistered := by
    rcases live with state | state | state <;> simp [state]
  have stampedSecond : ∀ call ∈ second, call.event.timestamp.isSome := by
    intro call member
    have known := order.mem_iff.mpr (List.mem_map_of_mem member)
    obtain ⟨other, atOther, same⟩ := List.mem_map.mp known
    rw [← same]
    exact stamped other atOther
  have converged := record.receiveAll_perm d.retentionSeconds notDeregistered
    (order.map (fun event => (⟨event, 0⟩ : PeerCall τ))) ?transitions ?distinct
  case transitions =>
    intro call member
    simp only [List.map_map, List.mem_map] at member
    obtain ⟨other, atOther, rfl⟩ := member
    rcases types other atOther with type | type | type
    · exact Or.inl type
    · exact Or.inr (by simp [type, PeerEventType.isLoss])
    · exact Or.inr (by simp [type, PeerEventType.isLoss])
  case distinct =>
    rw [List.map_map, List.pairwise_map]
    refine List.Pairwise.imp_of_mem ?_ distinct
    intro left right atLeft atRight different
    obtain ⟨leftTime, isLeft⟩ := Option.isSome_iff_exists.mp (stamped left atLeft)
    obtain ⟨rightTime, isRight⟩ := Option.isSome_iff_exists.mp (stamped right atRight)
    simpa [PeerCall.time, isLeft, isRight] using different
  rw [← record.receiveAll_stamped _ stamped, ← record.receiveAll_stamped _ stampedSecond] at converged
  refine ⟨_, _, ?_, ?_, congrArg Prod.fst converged⟩
  · rw [records_peerRun, atRecord, Option.map_some]
  · rw [records_peerRun, atRecord, Option.map_some]

/-- A directory with one live service. -/
def serving : Directory Nat := machine.final (new 300 "dir") [.registerService (.minimal "svc" "r1" "p1") none 10]

def timeoutAt20 : PeerCall Nat where
  event := { eventType := .lost, peerHandle := some "p1", remoteRuntimeId := some "r1",
             reason := some "heartbeat-timeout", timestamp := some 20 }
  clock := 0

def readyAt30 : PeerCall Nat where
  event := { eventType := .ready, peerHandle := some "p1", remoteRuntimeId := some "r1", timestamp := some 30 }
  clock := 0

theorem peer_events_converge_flap :
    ∃ left right, (machine.final serving ([timeoutAt20, readyAt30].map PeerCall.op)).records.get? "svc" = some left ∧
      (machine.final serving ([readyAt30, timeoutAt20].map PeerCall.op)).records.get? "svc" = some right ∧
      left.outcome = right.outcome :=
  peer_events_converge serving "svc" _ rfl (Or.inl rfl) [timeoutAt20, readyAt30] [readyAt30, timeoutAt20]
    (List.Perm.swap _ _ _) (by decide) (by decide) (by decide)

end DEFw.Directory
