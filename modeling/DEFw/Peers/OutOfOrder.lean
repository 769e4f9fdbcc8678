import DEFw.Peers.Tolerance

namespace DEFw.PeerTable
open Peers

variable {τ : Type}

/-- Whether a record for the handle exists and, if so, whether it is callable. -/
def answers (table : PeerTable τ) (peerHandle : String) : Option Bool :=
  (table.get peerHandle).map PeerRecord.callable

theorem answers_eq_presence (table : PeerTable τ) (peerHandle : String) :
    table.answers peerHandle = (table.presence peerHandle).map Prod.snd := by
  simp [answers, presence, get, Function.comp_def]

/-- The sighting of an event with a timestamp, which never reads the clock. -/
def stampedSighting (event : PeerEvent τ) : Option (Sighting τ) :=
  event.timestamp.map (fun time => ⟨event.eventType, time⟩)

theorem sightings_of_stamped {calls : List (PeerCall τ)} (stamped : ∀ call ∈ calls, call.event.timestamp.isSome) :
    calls.map sighting = (calls.map PeerCall.event).filterMap stampedSighting := by
  induction calls with
  | nil => rfl
  | cons call rest ih =>
    obtain ⟨time, atTime⟩ := Option.isSome_iff_exists.mp (stamped call List.mem_cons_self)
    have later := ih (fun other member => stamped other (List.mem_cons_of_mem call member))
    have first : stampedSighting call.event = some (sighting call) := by
      simp [stampedSighting, sighting, PeerCall.time, atTime]
    rw [List.map_cons, List.map_cons, List.filterMap_cons_some first, later]

variable [LinearOrder τ]

theorem answers_applyAll (parent : ParentInfo) {table : PeerTable τ} {peerHandle : String} (named : peerHandle ≠ "")
    (unknown : table.get peerHandle = none) {calls : List (PeerCall τ)}
    (ours : ∀ call ∈ calls, call.event.peerHandle = some peerHandle) :
    (table.applyAll parent calls).answers peerHandle = (observed (calls.map sighting)).map Prod.snd := by
  have absent : table.presence peerHandle = none := by
    simp only [presence, get] at unknown ⊢
    rw [unknown]
    rfl
  rw [answers_eq_presence, presence_applyAll parent table named ours, absent]
  rfl

/-- For events of one peer the table did not know, an order of application
gives the same answers as timestamp order exactly when it is tolerated. -/
theorem out_of_order_iff (parent : ParentInfo) (table : PeerTable τ) (peerHandle : String) (named : peerHandle ≠ "")
    (unknown : table.get peerHandle = none) (calls ordered : List (PeerCall τ))
    (ours : ∀ call ∈ calls, call.event.peerHandle = some peerHandle)
    (types : ∀ call ∈ calls, call.event.eventType = .ready ∨ call.event.eventType = .lost ∨
      call.event.eventType = .removed)
    (stamped : ∀ call ∈ calls, call.event.timestamp.isSome)
    (distinct : calls.Pairwise (fun left right => left.event.timestamp ≠ right.event.timestamp))
    (same : (ordered.map PeerCall.event).Perm (calls.map PeerCall.event))
    (ascending : ordered.Pairwise (fun left right => left.time < right.time)) :
    (table.applyAll parent calls).answers peerHandle = (table.applyAll parent ordered).answers peerHandle ↔
      Tolerated (calls.map sighting) := by
  have ofOrdered : ∀ call ∈ ordered, ∃ other ∈ calls, other.event = call.event := by
    intro call member
    exact List.mem_map.mp (same.mem_iff.mp (List.mem_map_of_mem member))
  have oursOrdered : ∀ call ∈ ordered, call.event.peerHandle = some peerHandle := by
    intro call member
    obtain ⟨other, atOther, event⟩ := ofOrdered call member
    rw [← event]
    exact ours other atOther
  have stampedOrdered : ∀ call ∈ ordered, call.event.timestamp.isSome := by
    intro call member
    obtain ⟨other, atOther, event⟩ := ofOrdered call member
    rw [← event]
    exact stamped other atOther
  have perm : (ordered.map sighting).Perm (calls.map sighting) := by
    rw [sightings_of_stamped stamped, sightings_of_stamped stampedOrdered]
    exact same.filterMap stampedSighting
  have lifecycle : ∀ seen ∈ calls.map sighting, seen.isLifecycle := by
    intro seen member
    obtain ⟨call, atCall, rfl⟩ := List.mem_map.mp member
    exact types call atCall
  have nodup : ((calls.map sighting).map Sighting.time).Nodup := by
    rw [List.map_map, List.Nodup, List.pairwise_map]
    refine List.Pairwise.imp_of_mem ?_ distinct
    intro left right atLeft atRight different
    obtain ⟨leftTime, isLeft⟩ := Option.isSome_iff_exists.mp (stamped left atLeft)
    obtain ⟨rightTime, isRight⟩ := Option.isSome_iff_exists.mp (stamped right atRight)
    simpa [sighting, PeerCall.time, isLeft, isRight] using different
  have inOrder : Verdict (calls.map sighting) ((table.applyAll parent ordered).answers peerHandle) := by
    have lifecycleOrdered : ∀ seen ∈ ordered.map sighting, seen.isLifecycle :=
      fun seen member => lifecycle seen (perm.mem_iff.mp member)
    have nodupOrdered : ((ordered.map sighting).map Sighting.time).Nodup := (perm.map Sighting.time).nodup_iff.mpr nodup
    have tolerated : Tolerated (ordered.map sighting) :=
      tolerated_of_ascending lifecycleOrdered (List.pairwise_map.mpr ascending)
    rw [answers_applyAll parent named unknown oursOrdered]
    exact ((tolerated_iff lifecycleOrdered nodupOrdered).mp tolerated).perm perm
  rw [tolerated_iff lifecycle nodup, ← answers_applyAll parent named unknown ours]
  constructor
  · intro equal
    rw [equal]
    exact inOrder
  · intro verdict
    exact verdict.unique inOrder

def lifecycleCall (type : PeerEventType) (timestamp : Nat) : PeerCall Nat where
  event := { eventType := type, peerHandle := some "peer", remoteRuntimeId := some "r1", timestamp := some timestamp }
  clock := 0

def noParent : ParentInfo := ⟨none, none, .int 0⟩

theorem out_of_order_ready_first :
    ((new.applyAll noParent [lifecycleCall .ready 3, lifecycleCall .removed 2]).answers "peer" = some true) ∧
      (new.applyAll noParent [lifecycleCall .ready 3, lifecycleCall .removed 2]).answers "peer" =
        (new.applyAll noParent [lifecycleCall .removed 2, lifecycleCall .ready 3]).answers "peer" := by
  refine ⟨by decide, (out_of_order_iff noParent new "peer" (by decide) rfl
    [lifecycleCall .ready 3, lifecycleCall .removed 2] [lifecycleCall .removed 2, lifecycleCall .ready 3]
    (by decide) (by decide) (by decide) (by decide) (List.Perm.swap _ _ _) (by decide)).mpr ?_⟩
  have newest : ∀ other ∈ [lifecycleCall .ready 3, lifecycleCall .removed 2].map sighting, other.time ≤ 3 := by decide
  have present : Present ([lifecycleCall .ready 3, lifecycleCall .removed 2].map sighting) :=
    ⟨_, List.mem_cons_self, rfl, by decide⟩
  exact ⟨fun absent => absurd present absent, fun _ lost => absurd ⟨_, List.mem_cons_self, rfl, newest⟩ lost⟩

/-- A REMOVED that overtakes the READY it ends: the table forgets it, and the
READY then brings a peer to life that timestamp order has removed. -/
theorem overtaken_removal_forgotten :
    (new.applyAll noParent [lifecycleCall .removed 2, lifecycleCall .ready 1]).answers "peer" = some true ∧
      (new.applyAll noParent [lifecycleCall .ready 1, lifecycleCall .removed 2]).answers "peer" = none := by
  decide

end DEFw.PeerTable
