import DEFw.Directory.View
import DEFw.Peers.Presence

namespace DEFw.Directory
open Py Peers

variable {τ : Type}

/-- The peer table and the directory of one process. The worker updates the table and leaves
every event to a thread of its own, which updates the directory; `waiting` are the events whose
thread has not run yet. -/
structure Tables (τ : Type) where
  peers : PeerTable τ
  directory : Directory τ
  waiting : List (PeerCall τ)

/-- `Directory.apply_peer_event` is called by those threads alone. -/
def Op.fromPeers : Op τ → Bool
  | .applyPeerEvent .. => true
  | _ => false

inductive Action (τ : Type) where
  | handlePeerEvent (call : PeerCall τ)
  | applyPeerEvent (thread : Nat) (clock : τ)
  | rememberConnectTarget (endpoint : Entries) (connectionDirection : Option String)
  | operate (op : Op τ) (own : op.fromPeers = false)

namespace Tables

variable [Add τ] [LinearOrder τ] [Zero τ]

def step (parent : ParentInfo) (t : Tables τ) : Action τ → Tables τ × List (Effect τ)
  | .handlePeerEvent call =>
    ({ t with peers := (t.peers.applyEvent parent call.event call.clock).1, waiting := t.waiting ++ [call] }, [])
  | .applyPeerEvent thread clock =>
    match t.waiting[thread]? with
    | none => (t, [])
    | some call =>
      let applied := t.directory.applyPeerEvent call.event clock
      ({ t with directory := applied.1, waiting := t.waiting.eraseIdx thread }, applied.2)
  | .rememberConnectTarget endpoint connectionDirection =>
    ({ t with peers := t.peers.rememberConnectTarget endpoint connectionDirection }, [])
  | .operate op _ =>
    let done := t.directory.step op
    ({ t with directory := done.1 }, done.2)

def machine (parent : ParentInfo) : Machine (Tables τ) (Action τ) (Effect τ) := ⟨step parent⟩

end Tables

/-- The event reports the runtime as lost. -/
def Loses (call : PeerCall τ) (runtimeId : String) : Prop :=
  call.event.eventType.isLoss ∧ call.event.runtime = some runtimeId

instance (call : PeerCall τ) (runtimeId : String) : Decidable (Loses call runtimeId) :=
  inferInstanceAs (Decidable (_ ∧ _))

/-- No connection of the runtime is callable. -/
def Unreachable (peers : PeerTable τ) (runtimeId : String) : Prop :=
  ∀ handle record, peers.get handle = some record → record.runtimeId = runtimeId → record.callable = false

section Run

variable [Add τ] [LinearOrder τ] [Zero τ] (parent : ParentInfo)

/-- A thread that takes registrations away from a runtime on account of its loss leaves no
connection of that runtime that is callable. -/
def SparesLive (t : Tables τ) : Action τ → Prop
  | .applyPeerEvent thread clock => ∀ call ∈ t.waiting[thread]?, ∀ runtimeId, Loses call runtimeId →
      (∃ type, ∃ registration ∈ t.directory.registrations type, registration.subscriberRuntimeId = runtimeId ∧
        registration ∉ (t.step parent (.applyPeerEvent thread clock)).1.directory.registrations type) →
      Unreachable (t.step parent (.applyPeerEvent thread clock)).1.peers runtimeId
  | _ => True

/-- The runtime id that the record of an event's connection has once the event is handled. -/
def connectionRuntime (t : Tables τ) (peerHandle : String) (call : PeerCall τ) : String :=
  (t.peers.writtenRecord parent peerHandle call.event call.time).runtimeId

/-- The connections of a runtime do not overlap. When one of them is reported lost, no other is
callable and the report is no older than what the table has seen of the lost one; and none comes
up while the directory still has to learn of the loss. -/
def InTurn (t : Tables τ) : Action τ → Prop
  | .handlePeerEvent call =>
    (∀ runtimeId ∈ call.event.runtime, call.event.eventType.isLoss → ∀ entry ∈ t.peers.peers.entries,
      entry.2.runtimeId = runtimeId → entry.2.callable →
        orStr call.event.peerHandle none = some entry.1 ∧ entry.2.lastSeen ≤ call.time) ∧
    (call.event.eventType.isLoss = false → ∀ lost ∈ t.waiting, lost.event.eventType.isLoss →
      ∀ peerHandle ∈ orStr call.event.peerHandle none,
        lost.event.runtime ≠ some (connectionRuntime parent t peerHandle call))
  | _ => True

instance (t : Tables τ) : ∀ action, Decidable (InTurn parent t action)
  | .handlePeerEvent _ => inferInstanceAs (Decidable (_ ∧ _))
  | .applyPeerEvent _ _ => isTrue trivial
  | .rememberConnectTarget _ _ => isTrue trivial
  | .operate _ _ => isTrue trivial

/-- The directory still has to learn only of losses that left nothing callable. -/
def LossesSettled (t : Tables τ) : Prop :=
  ∀ call ∈ t.waiting, ∀ runtimeId, Loses call runtimeId → Unreachable t.peers runtimeId

omit [Add τ] [Zero τ] in
/-- A loss leaves an unreachable runtime so, and makes its own one so where the connections do not overlap. -/
theorem unreachable_of_loss {peers : PeerTable τ} {call : PeerCall τ} {runtimeId : String}
    (loss : call.event.eventType.isLoss)
    (only : ∀ handle record, peers.get handle = some record → record.runtimeId = runtimeId → record.callable →
      orStr call.event.peerHandle none = some handle ∧ record.lastSeen ≤ call.time) :
    Unreachable (peers.applyEvent parent call.event call.clock).1 runtimeId := by
  intro handle record stored ours
  by_contra callable
  rw [Bool.not_eq_false] at callable
  obtain ⟨before, stale⟩ := PeerTable.get_of_loss loss stored callable
  obtain ⟨own, fresh⟩ := only handle record before ours callable
  exact absurd (stale own) (not_lt.mpr fresh)

theorem LossesSettled.handle {t : Tables τ} {call : PeerCall τ} (settled : LossesSettled t)
    (inTurn : InTurn parent t (.handlePeerEvent call)) :
    LossesSettled (t.step parent (.handlePeerEvent call)).1 := by
  obtain ⟨alone, quiet⟩ := inTurn
  intro waiting member runtimeId loses
  show Unreachable (t.peers.applyEvent parent call.event call.clock).1 runtimeId
  rcases List.mem_append.mp member with earlier | last
  · have before := settled waiting earlier runtimeId loses
    cases type : call.event.eventType.isLoss with
    | true =>
      refine unreachable_of_loss parent type ?_
      intro handle record stored ours callable
      rw [before handle record stored ours] at callable
      cases callable
    | false =>
      intro handle record stored ours
      rcases PeerTable.get_of_applyEvent stored with old | ⟨named, _, written⟩
      · exact before handle record old ours
      · have other := quiet type waiting earlier loses.1 handle named
        refine absurd ?_ other
        rw [loses.2, ← ours, written]
        rfl
  · cases List.mem_singleton.mp last
    refine unreachable_of_loss parent loses.1 ?_
    intro handle record stored ours callable
    exact alone runtimeId loses.2 loses.1 (handle, record) (Dict.get?_eq_some_iff.mp stored) ours callable

theorem LossesSettled.step {t : Tables τ} {action : Action τ} (settled : LossesSettled t)
    (inTurn : InTurn parent t action) : LossesSettled (t.step parent action).1 := by
  cases action with
  | handlePeerEvent call => exact settled.handle parent inTurn
  | applyPeerEvent thread clock =>
    simp only [Tables.step]
    split
    · exact settled
    · intro call member
      exact settled call (List.mem_of_mem_eraseIdx member)
  | rememberConnectTarget endpoint connectionDirection => exact settled
  | operate op own => exact settled

/-- Where losses are settled, every thread spares the live. -/
theorem LossesSettled.spares {t : Tables τ} (settled : LossesSettled t) (action : Action τ) :
    SparesLive parent t action := by
  cases action with
  | applyPeerEvent thread clock =>
    intro call waits runtimeId loses _
    have waiting : t.waiting[thread]? = some call := waits
    simp only [Tables.step, waiting]
    exact settled call (List.mem_of_getElem? waiting) runtimeId loses
  | handlePeerEvent call => trivial
  | rememberConnectTarget endpoint connectionDirection => trivial
  | operate op own => trivial

/-- No loss of a connection unsubscribes a runtime that still is callable, in every run in which the
connections of each runtime come and go in turn. -/
theorem live_subscribers_spared (t : Tables τ) (idle : t.waiting = []) (actions : List (Action τ))
    (inTurn : (Tables.machine parent).Admits (InTurn parent) t actions) :
    (Tables.machine parent).Admits (SparesLive parent) t actions := by
  have settled : LossesSettled t := by simp [LossesSettled, idle]
  clear idle
  induction actions generalizing t with
  | nil => trivial
  | cons action rest ih =>
    exact ⟨settled.spares parent action, ih _ inTurn.2 (settled.step parent inTurn.1)⟩

end Run

/-- An event of a client's connection. -/
def clientEvent (type : PeerEventType) (peerHandle : String) (timestamp : Nat) : PeerCall Nat where
  event :=
    { eventType := type, peerHandle := some peerHandle, remoteRuntimeId := some "client", timestamp := some timestamp }
  clock := 0

def unused : Tables Nat := ⟨.new, .new 300 "directory", []⟩

def subscription : Action Nat :=
  .operate (.registerEventNotification (some 0) "SERVICE_CONNECTED" (some "client") [] "registration-1") rfl

/-- The client subscribes, loses its connection, comes back over another one and subscribes again. -/
def reconnection : List (Action Nat) :=
  [ .handlePeerEvent (clientEvent .ready "peer-1" 1), .applyPeerEvent 0 0, subscription,
    .handlePeerEvent (clientEvent .lost "peer-1" 2), .applyPeerEvent 0 0,
    .handlePeerEvent (clientEvent .ready "peer-2" 3), .applyPeerEvent 0 0, subscription ]

theorem live_subscribers_spared_reconnection :
    (Tables.machine ⟨none, none, .int 0⟩).Admits (SparesLive ⟨none, none, .int 0⟩) unused reconnection :=
  live_subscribers_spared _ unused rfl reconnection (by decide +kernel)

/-- The late removal of its first connection. -/
def lateRemoval : List (Action Nat) := [.handlePeerEvent (clientEvent .removed "peer-1" 4), .applyPeerEvent 0 0]

/-- It takes the registration that the client made over its second connection, which is callable. -/
theorem live_subscriber_removed :
    ¬(Tables.machine ⟨none, none, .int 0⟩).Admits (SparesLive ⟨none, none, .int 0⟩) unused
      (reconnection ++ lateRemoval) := by
  intro spared
  obtain ⟨_, _, last, _⟩ := (Machine.admits_append _).mp spared
  refine absurd (last _ rfl "client" (by decide) ⟨.connected, ?_⟩ "peer-2") ?_
  · exact ⟨⟨"registration-1", .connected, "client", 0, []⟩, List.mem_of_getElem? (i := 0) rfl, rfl, List.not_mem_nil⟩
  · intro unreachable
    exact absurd (unreachable _ rfl rfl) (by decide +kernel)

end DEFw.Directory
