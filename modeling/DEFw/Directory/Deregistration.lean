import DEFw.Directory.PeerRuns
import DEFw.Directory.View

namespace DEFw.Directory

variable {τ : Type}

/-- Not a peer event. -/
def Op.isCall : Op τ → Bool
  | .applyPeerEvent .. => false
  | _ => true

/-- A loss that takes effect comes before a READY that takes effect. -/
def RevivedAfterLoss [LinearOrder τ] (record : ServiceRecord τ) (calls : List (PeerCall τ)) : Prop :=
  ∃ before lost between ready after, calls = before ++ lost :: (between ++ ready :: after) ∧
    lost.event.eventType.isLoss = true ∧ Newest record before lost ∧
    ready.event.eventType = .ready ∧ Newest record (before ++ lost :: between) ready

/-- A record down for a loss. -/
def ServiceRecord.isDown (record : ServiceRecord τ) : Prop := record.state = .down ∨ record.state = .timedOut

theorem ServiceRecord.lose_isDown (record : ServiceRecord τ) (reason : String) (now deadline : τ) :
    (record.lose reason now deadline).isDown := by
  unfold isDown lose
  split <;> simp

section Record

variable [LinearOrder τ] [Add τ]

/-- From a record that is down a peer event leads to one that is down or UP. -/
theorem ServiceRecord.isDown.receive {record : ServiceRecord τ} (down : record.isDown) (retention : τ)
    (call : PeerCall τ) :
    (record.receive retention call).isDown ∨ (record.receive retention call).state = .up := by
  unfold ServiceRecord.receive
  rcases record.applyPeerEvent_cases call.event call.time retention with
    ⟨_, same⟩ | ⟨_, _, same⟩ | ⟨_, _, _, same⟩ | ⟨_, _, _, same⟩ <;> rw [same]
  · exact Or.inl down
  · exact Or.inl (record.lose_isDown _ _ _)
  · exact Or.inr rfl
  · exact Or.inl down

theorem ServiceRecord.isDown.receiveAll {record : ServiceRecord τ} (down : record.isDown) (retention : τ)
    (calls : List (PeerCall τ)) :
    (record.receiveAll retention calls).isDown ∨
      ∃ before, before <+: calls ∧ (record.receiveAll retention before).state = .up := by
  induction calls using List.reverseRecOn with
  | nil => exact Or.inl down
  | append_singleton calls call ih =>
    rcases ih with still | ⟨before, first, isUp⟩
    · rw [receiveAll_concat]
      rcases still.receive retention call with still | isUp
      · exact Or.inl still
      · exact Or.inr ⟨calls ++ [call], List.prefix_rfl, by rw [receiveAll_concat]; exact isUp⟩
    · exact Or.inr ⟨before, first.trans (List.prefix_append calls [call]), isUp⟩

theorem ServiceRecord.receive_loss {record : ServiceRecord τ} {retention : τ} {call : PeerCall τ}
    (accepted : record.accepts call.event call.time) (loss : call.event.eventType.isLoss = true) :
    (record.receive retention call).isDown := by
  simp only [receive, applyPeerEvent, if_pos accepted, loss, if_true]
  exact record.lose_isDown _ _ _

theorem ServiceRecord.receive_ready {record : ServiceRecord τ} {retention : τ} {call : PeerCall τ}
    (accepted : record.accepts call.event call.time) (ready : call.event.eventType = .ready) (down : record.isDown) :
    (record.receive retention call).state = .up := by
  have revived : call.event.eventType = .ready ∧ (record.state = .down ∨ record.state = .timedOut) := ⟨ready, down⟩
  simp [receive, applyPeerEvent, accepted, revived, PeerEventType.isLoss, revive]

/-- Without a revival after a loss, a deregistered record stays deregistered or
goes down, and it goes down only by a loss that takes effect. -/
theorem ServiceRecord.receiveAll_of_not_revived {record : ServiceRecord τ} (retention : τ)
    {calls : List (PeerCall τ)} (deregistered : record.state = .deregistered)
    (unrevived : ¬RevivedAfterLoss record calls) :
    (record.receiveAll retention calls).state = .deregistered ∨
      ((record.receiveAll retention calls).isDown ∧ ∃ before lost after, calls = before ++ lost :: after ∧
        lost.event.eventType.isLoss = true ∧ Newest record before lost) := by
  induction calls using List.reverseRecOn with
  | nil => exact Or.inl deregistered
  | append_singleton calls call ih =>
    have earlier : ¬RevivedAfterLoss record calls := by
      rintro ⟨before, lost, between, ready, after, rfl, rest⟩
      exact unrevived ⟨before, lost, between, ready, after ++ [call], by simp, rest⟩
    rw [receiveAll_concat]
    unfold ServiceRecord.receive
    rcases (record.receiveAll retention calls).applyPeerEvent_cases call.event call.time retention with
      ⟨_, same⟩ | ⟨accepted, loss, same⟩ | ⟨accepted, ready, down, same⟩ | ⟨_, _, _, same⟩ <;> rw [same]
    · rcases ih earlier with still | ⟨down, before, lost, after, split, rest⟩
      · exact Or.inl still
      · exact Or.inr ⟨down, before, lost, after ++ [call], by simp [split], rest⟩
    · exact Or.inr ⟨lose_isDown _ _ _ _, calls, call, [], rfl, loss, accepts_receiveAll.mp accepted⟩
    · -- A READY that takes effect on a record that is down is the excluded revival.
      exfalso
      rcases ih earlier with still | ⟨_, before, lost, after, rfl, loss, newest⟩
      · rcases down with down | down <;> rw [still] at down <;> cases down
      · exact unrevived ⟨before, lost, after, call, [], by simp, loss, newest, ready, accepts_receiveAll.mp accepted⟩
    · rcases ih earlier with still | ⟨down, before, lost, after, split, rest⟩
      · exact Or.inl still
      · exact Or.inr ⟨down, before, lost, after ++ [call], by simp [split], rest⟩

/-- A deregistered record becomes UP at some point of a sequence of peer events
exactly when a READY takes effect after a loss did. -/
theorem ServiceRecord.revived_iff {record : ServiceRecord τ} (deregistered : record.state = .deregistered)
    (retention : τ) (calls : List (PeerCall τ)) :
    (∃ before, before <+: calls ∧ (record.receiveAll retention before).state = .up) ↔
      RevivedAfterLoss record calls := by
  constructor
  · rintro ⟨before, ⟨after, rfl⟩, isUp⟩
    by_contra unrevived
    have earlier : ¬RevivedAfterLoss record before := by
      rintro ⟨first, lost, between, ready, last, rfl, rest⟩
      exact unrevived ⟨first, lost, between, ready, last ++ after, by simp, rest⟩
    rcases receiveAll_of_not_revived retention deregistered earlier with still | ⟨down | down, _⟩
    · rw [still] at isUp
      cases isUp
    · rw [down] at isUp
      cases isUp
    · rw [down] at isUp
      cases isUp
  · rintro ⟨before, lost, between, ready, after, rfl, loss, newestLost, isReady, newestReady⟩
    have down : (record.receiveAll retention (before ++ [lost])).isDown := by
      rw [receiveAll_concat]
      exact receive_loss (accepts_receiveAll.mpr newestLost) loss
    have joined : ∀ calls, (record.receiveAll retention (before ++ [lost])).receiveAll retention calls =
        record.receiveAll retention (before ++ lost :: calls) := by
      intro calls
      simp [ServiceRecord.receiveAll]
    rcases down.receiveAll retention between with still | ⟨first, isFirst, isUp⟩
    · rw [joined] at still
      refine ⟨before ++ lost :: between ++ [ready], ⟨after, by simp⟩, ?_⟩
      rw [receiveAll_concat]
      exact receive_ready (accepts_receiveAll.mpr newestReady) isReady still
    · rw [joined] at isUp
      obtain ⟨rest, rfl⟩ := isFirst
      exact ⟨before ++ lost :: first, ⟨rest ++ ready :: after, by simp⟩, isUp⟩

end Record

section Run

variable [LinearOrder τ] [Zero τ]

/-- Only an active record is resolved. -/
theorem active_of_resolved {d : Directory τ} {filters : ResolveFilters} {clock : τ} {found : ServiceMatch τ}
    (resolved : found ∈ (d.resolveServices filters clock).2.1) :
    Active (d.records.get? found.serviceRecord.serviceId) := by
  obtain ⟨record, selected, inside⟩ := List.mem_flatMap.mp resolved
  obtain ⟨stored, fits⟩ := List.mem_filter.mp selected
  obtain ⟨binding, _, rfl⟩ := List.mem_map.mp inside
  have isUp : record.state = .up := by
    rw [Bool.and_eq_true] at fits
    exact of_decide_eq_true fits.1
  obtain ⟨key, atKey⟩ := Dict.mem_values_iff.mp stored
  have kept := d.records_purgeExpired none clock key
  change (d.resolveServices filters clock).1.records.get? key = some record at atKey
  have found : d.records.get? key = some record := by
    have purged : (d.purgeExpired none clock).1.records.get? key = some record := atKey
    rw [kept, Option.filter_eq_some_iff] at purged
    exact purged.1
  refine ⟨record, ?_, isUp⟩
  rw [d.keyed key record found]
  exact found

variable [Add τ]

/-- A CONNECTED event is only heard about a service that is active after the
operation. -/
theorem active_of_connected {d : Directory τ} {op : Op τ} {callback : Nat} {serviceId : String}
    (connected : .connected ∈ heard callback serviceId (d.step op).2) :
    Active ((d.step op).1.records.get? serviceId) := by
  obtain ⟨published, change, echoed⟩ := d.step_explained op serviceId
  rw [echoed callback] at connected
  refine change.active_iff.1.mpr (Or.inl ?_)
  unfold echo at connected
  split at connected
  · rw [(List.mem_replicate.mp connected).2]
  · cases connected

/-- Apart from peer events, only a registration activates a service that is
not active, and it raises the generation by one. -/
theorem activated_by_registration {d : Directory τ} {op : Op τ} {serviceId : String} {old new : ServiceRecord τ}
    (isCall : op.isCall = true) (atOld : d.records.get? serviceId = some old) (notUp : old.state ≠ .up)
    (atNew : (d.step op).1.records.get? serviceId = some new) (isUp : new.state = .up) :
    new.generation = old.generation + 1 ∧ ∃ record peer now, op = .registerService record peer now ∧
      record.names serviceId := by
  obtain ⟨published, change, _⟩ := d.step_explained op serviceId
  rw [atNew] at change
  generalize after : some new = result at change
  cases change with
  | kept _ =>
    rw [atOld] at after
    cases after
    exact absurd isUp notUp
  | registered outcome own _ decided =>
    cases after
    obtain ⟨named, _⟩ := registerService_ok outcome
    have fencing := (fencing d serviceId).restart _ _ _ _ _ _ _ outcome own atOld notUp
    exact ⟨fencing, _, _, _, rfl, by rw [RecordArg.names, named, own]⟩
  | deregistered =>
    cases after
    cases isUp
  | applied => cases isCall
  | purged => cases after

/-- The service stays out of service through a sequence of peer events: it is
never active, resolved or announced, and only a registration, which raises the
generation by one, can bring it back. -/
structure StaysDeregistered (serviceId : String) (generation : Nat) (d : Directory τ) (calls : List (PeerCall τ)) :
    Prop where
  inactive : ∀ before, before <+: calls →
    ¬Active ((machine.final d (before.map PeerCall.op)).records.get? serviceId)
  unresolved : ∀ before, before <+: calls → ∀ filters clock,
    ∀ found ∈ ((machine.final d (before.map PeerCall.op)).resolveServices filters clock).2.1,
      found.serviceRecord.serviceId ≠ serviceId
  unannounced : ∀ callback, .connected ∉ heard callback serviceId (machine.log d (calls.map PeerCall.op))
  only_registration : ∀ before, before <+: calls → ∀ op new, op.isCall = true →
    ((machine.final d (before.map PeerCall.op)).step op).1.records.get? serviceId = some new → new.state = .up →
      new.generation = generation + 1 ∧ ∃ record peer now, op = .registerService record peer now ∧
        record.names serviceId

theorem unannounced_of_inactive {d : Directory τ} {serviceId : String} {calls : List (PeerCall τ)}
    (inactive : ∀ before, before <+: calls →
      ¬Active ((machine.final d (before.map PeerCall.op)).records.get? serviceId)) (callback : Nat) :
    .connected ∉ heard callback serviceId (machine.log d (calls.map PeerCall.op)) := by
  induction calls using List.reverseRecOn with
  | nil => simp [Machine.log]
  | append_singleton calls call ih =>
    rw [List.map_append, List.map_singleton, machine.log_concat, heard_append, List.mem_append]
    rintro (earlier | last)
    · exact ih (fun before first => inactive before (first.trans (List.prefix_append calls [call]))) earlier
    · refine inactive (calls ++ [call]) List.prefix_rfl ?_
      rw [List.map_append, List.map_singleton, machine.final_concat]
      exact active_of_connected last

theorem staysDeregistered_of_inactive {d : Directory τ} {serviceId : String} {record : ServiceRecord τ}
    {calls : List (PeerCall τ)} (atRecord : d.records.get? serviceId = some record)
    (inactive : ∀ before, before <+: calls →
      ¬Active ((machine.final d (before.map PeerCall.op)).records.get? serviceId)) :
    StaysDeregistered serviceId record.generation d calls where
  inactive := inactive
  unresolved := by
    rintro before first filters clock found resolved rfl
    exact inactive before first (active_of_resolved resolved)
  unannounced := unannounced_of_inactive inactive
  only_registration := by
    intro before first op new isCall atNew isUp
    have stored := d.records_peerRun before serviceId
    rw [atRecord, Option.map_some] at stored
    have notUp : (record.receiveAll d.retentionSeconds before).state ≠ .up := by
      intro active
      exact inactive before first ⟨_, stored, active⟩
    have raised := activated_by_registration isCall stored notUp atNew isUp
    rwa [(record.receiveAll_identity d.retentionSeconds before).2.2] at raised

/-- A deregistered service stays out of service through a sequence of peer
events exactly when no READY takes effect after a loss did. -/
theorem deregistration_final_iff (d : Directory τ) (serviceId : String) (record : ServiceRecord τ)
    (atRecord : d.records.get? serviceId = some record) (deregistered : record.state = .deregistered)
    (calls : List (PeerCall τ)) :
    StaysDeregistered serviceId record.generation d calls ↔ ¬RevivedAfterLoss record calls := by
  have upAt : ∀ before, Active ((machine.final d (before.map PeerCall.op)).records.get? serviceId) ↔
      (record.receiveAll d.retentionSeconds before).state = .up := by
    intro before
    rw [records_peerRun, atRecord]
    simp [Active]
  rw [← ServiceRecord.revived_iff deregistered d.retentionSeconds calls]
  constructor
  · rintro stays ⟨before, first, isUp⟩
    exact stays.inactive before first ((upAt before).mpr isUp)
  · intro unrevived
    refine staysDeregistered_of_inactive atRecord ?_
    intro before first active
    exact unrevived ⟨before, first, (upAt before).mp active⟩

end Run

/-- A directory in which a service was registered and deregistered. -/
def retired : Directory Nat :=
  machine.final watched
    [.registerService (.minimal "svc" "r1" "p1") none 10, .deregisterService "svc" "r1" 1 20]

/-- The loss of the retired service's connection. -/
def shutdownLoss : PeerCall Nat where
  event := { eventType := .lost, peerHandle := some "p1", remoteRuntimeId := some "r1", timestamp := some 30 }
  clock := 0

/-- Its runtime connects again. -/
def reconnect : PeerCall Nat where
  event := { eventType := .ready, peerHandle := some "p1", remoteRuntimeId := some "r1", timestamp := some 40 }
  clock := 0

theorem deregistration_final_shutdown :
    ∃ record, retired.records.get? "svc" = some record ∧ record.state = .deregistered ∧
      StaysDeregistered "svc" record.generation retired [shutdownLoss] := by
  refine ⟨_, rfl, rfl, (deregistration_final_iff retired "svc" _ rfl rfl [shutdownLoss]).mpr ?_⟩
  rintro ⟨before, lost, between, ready, after, split, _⟩
  have lengths := congrArg List.length split
  simp at lengths
  omega

/-- The connection of a deregistered service drops and its runtime connects
again: the service is active, resolved and announced without a registration. -/
theorem deregistered_service_revived :
    (retired.records.get? "svc").map ServiceRecord.state = some .deregistered ∧
      Active ((machine.final retired ([shutdownLoss, reconnect].map PeerCall.op)).records.get? "svc") ∧
      ((machine.final retired ([shutdownLoss, reconnect].map PeerCall.op)).resolveServices {} 40).2.1.map
        (fun found => found.serviceRecord.serviceId) = ["svc"] ∧
      heard 7 "svc" (machine.log retired ([shutdownLoss, reconnect].map PeerCall.op)) = [.disconnected, .connected] ∧
      ¬StaysDeregistered "svc" 1 retired [shutdownLoss, reconnect] := by
  have revived : Active ((machine.final retired ([shutdownLoss, reconnect].map PeerCall.op)).records.get? "svc") :=
    ⟨_, rfl, rfl⟩
  refine ⟨by decide, revived, by decide, by decide, ?_⟩
  intro stays
  exact stays.inactive [shutdownLoss, reconnect] List.prefix_rfl revived

end DEFw.Directory
