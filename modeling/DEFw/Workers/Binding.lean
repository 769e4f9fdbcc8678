import DEFw.Lib.Machine
import DEFw.Peers.Presence

namespace DEFw.Binding
open Py Peers

variable {τ : Type}

/-- The directory service that a process is bound to: `defw.dirsvc`, here by the peer record that
its proxy was made for, with `dirsvc_binding_runtime_id` and `dirsvc_binding_peer_handle`. -/
structure DirsvcBinding (τ : Type) where
  dirsvc : Option (PeerRecord τ)
  runtimeId : Option String
  peerHandle : Option String

def DirsvcBinding.unbound : DirsvcBinding τ := ⟨none, none, none⟩

/-- Where a thread is in `bind_dirsvc_peer`. -/
inductive Stage
  | started
  | checking
  | constructing
  | rechecking
  | installing
  deriving DecidableEq

structure BindThread (τ : Type) where
  peerRecord : PeerRecord τ
  stage : Stage

/-- `handling` is the event that the worker has applied to the peer table and not finished with,
and the record that the table returned for it. -/
structure State (τ : Type) where
  peers : PeerTable τ
  binding : DirsvcBinding τ
  handling : Option (PeerCall τ × Option (PeerRecord τ))
  threads : List (BindThread τ)

/-- A step of a bind thread says whether the service API is loaded and whether the constructor of
the proxy returns, where the thread is about to look. -/
inductive Action (τ : Type) where
  | handlePeerEvent (call : PeerCall τ)
  | finishPeerEvent
  | bind (thread : Nat) (succeeds : Bool)
  | rememberConnectTarget (endpoint : Entries) (connectionDirection : Option String)

def isReadyDirsvcPeer (isDirsvc : Bool) (event : PeerEvent τ) (peerRecord : Option (PeerRecord τ)) : Bool :=
  event.eventType = .ready && !isDirsvc && peerRecord.any (fun record =>
    record.callable && record.nodeType.pyEq dirsvc && record.runtimeId ≠ "" && record.runtimeId ≠ zeroUuid)

def isDisconnectedDirsvcPeer (isDirsvc : Bool) (event : PeerEvent τ) : Bool :=
  event.eventType.isLoss && !isDirsvc && (event.nodeType.getD .none).pyEq dirsvc

def dirsvcPeerStillReady (peers : PeerTable τ) (peerRecord : PeerRecord τ) : Bool :=
  (peers.get peerRecord.peerHandle).any (fun current =>
    current.callable && current.nodeType.pyEq dirsvc && current.runtimeId = peerRecord.runtimeId)

/-- `bound and given and bound != given`, where an unset binding is `None`. -/
def differs (bound : Option String) (given : String) : Bool :=
  bound.any (fun bound => bound ≠ "" && given ≠ "" && bound ≠ given)

def clearDirsvcPeer (isDirsvc : Bool) (binding : DirsvcBinding τ) (event : PeerEvent τ) : DirsvcBinding τ :=
  if !isDisconnectedDirsvcPeer isDirsvc event then binding
  else if differs binding.runtimeId ((orStr event.remoteRuntimeId none).getD "") then binding
  else if differs binding.peerHandle ((orStr event.peerHandle none).getD "") then binding
  else .unbound

/-- The stage that a bind thread goes to, or nothing where it returns or raises. -/
def BindThread.next (isDirsvc : Bool) (s : State τ) (thread : BindThread τ) (succeeds : Bool) : Option Stage :=
  match thread.stage with
  | .started =>
    if isDirsvc then none
    else if s.binding.dirsvc.isSome && s.binding.runtimeId == some thread.peerRecord.runtimeId &&
        s.binding.peerHandle == some thread.peerRecord.peerHandle then none
    else if succeeds then some .checking else none
  | .checking => if dirsvcPeerStillReady s.peers thread.peerRecord then some .constructing else none
  | .constructing => if succeeds then some .rechecking else none
  | .rechecking => if dirsvcPeerStillReady s.peers thread.peerRecord then some .installing else none
  | .installing => none

/-- The last block of `bind_dirsvc_peer`. -/
def BindThread.install (thread : BindThread τ) (binding : DirsvcBinding τ) : DirsvcBinding τ :=
  if thread.stage = .installing then
    ⟨some thread.peerRecord, some thread.peerRecord.runtimeId, some thread.peerRecord.peerHandle⟩
  else binding

namespace State

variable (isDirsvc : Bool)

/-- The rest of `handle_peer_event`: a binding is cleared, or a thread started that makes one. -/
def finishPeerEvent (s : State τ) : State τ :=
  match s.handling with
  | none => s
  | some (call, peerRecord) =>
    { s with
      binding := clearDirsvcPeer isDirsvc s.binding call.event
      handling := none
      threads :=
        if isReadyDirsvcPeer isDirsvc call.event peerRecord then
          s.threads ++ (peerRecord.map (fun record => ⟨record, .started⟩)).toList
        else s.threads }

/-- One step of `bind_dirsvc_peer` in a thread of its own. -/
def bind (s : State τ) (thread : Nat) (succeeds : Bool) : State τ :=
  match s.threads[thread]? with
  | none => s
  | some running =>
    { s with
      binding := running.install s.binding
      threads :=
        match running.next isDirsvc s succeeds with
        | none => s.threads.eraseIdx thread
        | some stage => s.threads.set thread ⟨running.peerRecord, stage⟩ }

variable [LinearOrder τ] (parent : ParentInfo)

/-- The worker handles one event after the other. -/
def handlePeerEvent (s : State τ) (call : PeerCall τ) : State τ :=
  match s.handling with
  | some _ => s
  | none =>
    let applied := s.peers.applyEvent parent call.event call.clock
    { s with peers := applied.1, handling := some (call, applied.2) }

def step (s : State τ) : Action τ → State τ
  | .handlePeerEvent call => s.handlePeerEvent parent call
  | .finishPeerEvent => s.finishPeerEvent isDirsvc
  | .bind thread succeeds => s.bind isDirsvc thread succeeds
  | .rememberConnectTarget endpoint connectionDirection =>
    { s with peers := s.peers.rememberConnectTarget endpoint connectionDirection }

def machine (parent : ParentInfo) (isDirsvc : Bool) : Machine (State τ) (Action τ) Empty :=
  ⟨fun s action => (s.step isDirsvc parent action, [])⟩

end State

/-- The state of a process that has not heard of any peer yet. -/
def initial : State τ := ⟨.new, .unbound, none, []⟩

/-- No bind thread is running and no event is being handled. -/
def Quiet (s : State τ) : Prop := s.handling = none ∧ s.threads = []

/-- The table has a callable record of this runtime under this handle. -/
def Live (peers : PeerTable τ) (handle runtimeId : String) : Prop :=
  ∃ record, peers.get handle = some record ∧ record.callable ∧ record.runtimeId = runtimeId

/-- A binding that is set names a callable record with its runtime id. -/
def Bound (s : State τ) : Prop :=
  s.binding.dirsvc.isSome → ∃ handle runtimeId, s.binding.peerHandle = some handle ∧
    s.binding.runtimeId = some runtimeId ∧ Live s.peers handle runtimeId

/-- A connection is not reported lost between the last check of a thread that binds it and the
installation, and its events do not change its runtime id. -/
def Undisturbed (s : State τ) : Action τ → Prop
  | .handlePeerEvent call =>
    (call.event.eventType.isLoss → ∀ thread ∈ s.threads, thread.stage = .installing →
      orStr call.event.peerHandle none ≠ some thread.peerRecord.peerHandle) ∧
    ∀ handle ∈ orStr call.event.peerHandle none, ∀ record ∈ s.peers.get handle, record.runtimeId ≠ "" →
      ∀ runtimeId ∈ orStr call.event.remoteRuntimeId none, runtimeId = record.runtimeId
  | _ => True

instance (s : State τ) : ∀ action, Decidable (Undisturbed s action)
  | .handlePeerEvent _ => inferInstanceAs (Decidable (_ ∧ _))
  | .finishPeerEvent => isTrue trivial
  | .bind _ _ => isTrue trivial
  | .rememberConnectTarget _ _ => isTrue trivial

/-- The event makes the worker give up a binding to this handle and runtime. -/
def Clears (isDirsvc : Bool) (event : PeerEvent τ) (handle runtimeId : String) : Prop :=
  isDisconnectedDirsvcPeer isDirsvc event ∧ orStr event.peerHandle none = some handle ∧
    ∀ given ∈ orStr event.remoteRuntimeId none, given = runtimeId

/-- What holds in every state of a run: a binding is live or about to be cleared, and a thread about
to install one has a live peer. -/
structure Kept (isDirsvc : Bool) (s : State τ) : Prop where
  bound : s.binding.dirsvc.isSome → ∃ handle runtimeId, s.binding.peerHandle = some handle ∧
    s.binding.runtimeId = some runtimeId ∧ runtimeId ≠ "" ∧ (Live s.peers handle runtimeId ∨
      ∃ handled ∈ s.handling, Clears isDirsvc handled.1.event handle runtimeId)
  threads : ∀ thread ∈ s.threads, isDirsvc = false ∧ thread.peerRecord.runtimeId ≠ "" ∧
    (thread.stage = .installing → Live s.peers thread.peerRecord.peerHandle thread.peerRecord.runtimeId)
  served : s.binding.dirsvc.isSome → isDirsvc = false

theorem kept_initial (isDirsvc : Bool) : Kept isDirsvc (initial : State τ) where
  bound set := by cases set
  threads thread member := by cases member
  served set := by cases set

variable {isDirsvc : Bool} {s : State τ}

theorem Clears.clear {event : PeerEvent τ} {handle runtimeId : String} {binding : DirsvcBinding τ}
    (clears : Clears isDirsvc event handle runtimeId) (atHandle : binding.peerHandle = some handle)
    (atRuntime : binding.runtimeId = some runtimeId) : clearDirsvcPeer isDirsvc binding event = .unbound := by
  obtain ⟨disconnected, own, same⟩ := clears
  have sameRuntime : differs binding.runtimeId ((orStr event.remoteRuntimeId none).getD "") = false := by
    cases given : orStr event.remoteRuntimeId none with
    | none => simp [differs, atRuntime]
    | some runtime => simp [differs, atRuntime, same runtime given]
  have sameHandle : differs binding.peerHandle ((orStr event.peerHandle none).getD "") = false := by
    simp [differs, atHandle, own]
  simp [clearDirsvcPeer, disconnected, sameRuntime, sameHandle]

theorem clearDirsvcPeer_cases (binding : DirsvcBinding τ) (event : PeerEvent τ) :
    clearDirsvcPeer isDirsvc binding event = binding ∨ clearDirsvcPeer isDirsvc binding event = .unbound := by
  unfold clearDirsvcPeer
  split
  · exact Or.inl rfl
  split
  · exact Or.inl rfl
  split
  · exact Or.inl rfl
  · exact Or.inr rfl

theorem Kept.finishPeerEvent (kept : Kept isDirsvc s) : Kept isDirsvc (s.finishPeerEvent isDirsvc) := by
  unfold State.finishPeerEvent
  cases handled : s.handling with
  | none => exact kept
  | some pair =>
    obtain ⟨call, peerRecord⟩ := pair
    simp only
    refine ⟨?_, ?_, ?_⟩
    · intro set
      rcases clearDirsvcPeer_cases s.binding call.event with unchanged | cleared
      · rw [unchanged] at set ⊢
        obtain ⟨handle, runtimeId, atHandle, atRuntime, named, live | ⟨pair, busy, clears⟩⟩ := kept.bound set
        · exact ⟨handle, runtimeId, atHandle, atRuntime, named, Or.inl live⟩
        · rw [handled] at busy
          cases busy
          rw [← unchanged, clears.clear atHandle atRuntime] at set
          cases set
      · rw [cleared] at set
        cases set
    · intro thread member
      split at member
      next ready =>
        rcases List.mem_append.mp member with old | new
        · exact kept.threads thread old
        · cases peerRecord with
          | none => cases new
          | some record =>
            cases List.mem_singleton.mp new
            simp [isReadyDirsvcPeer] at ready
            exact ⟨ready.1.2, ready.2.1.2, fun installing => nomatch installing⟩
      · exact kept.threads thread member
    · intro set
      rcases clearDirsvcPeer_cases s.binding call.event with unchanged | cleared
      · rw [unchanged] at set
        exact kept.served set
      · rw [cleared] at set
        cases set

theorem live_of_stillReady {peers : PeerTable τ} {peerRecord : PeerRecord τ}
    (ready : dirsvcPeerStillReady peers peerRecord) : Live peers peerRecord.peerHandle peerRecord.runtimeId := by
  obtain ⟨record, stored, checks⟩ := (Option.any_eq_true ..).mp ready
  simp only [Bool.and_eq_true, decide_eq_true_eq] at checks
  exact ⟨record, stored, checks.1.1, checks.2⟩

/-- A thread comes to the installation by a check that succeeds. -/
theorem live_of_next {thread : BindThread τ} {succeeds : Bool}
    (next : thread.next isDirsvc s succeeds = some .installing) :
    Live s.peers thread.peerRecord.peerHandle thread.peerRecord.runtimeId := by
  unfold BindThread.next at next
  split at next
  · split at next
    · cases next
    split at next
    · cases next
    split at next <;> cases next
  · split at next <;> cases next
  · split at next <;> cases next
  · split at next
    next ready => exact live_of_stillReady ready
    · cases next
  · cases next

theorem Kept.bind (kept : Kept isDirsvc s) (thread : Nat) (succeeds : Bool) :
    Kept isDirsvc (s.bind isDirsvc thread succeeds) := by
  unfold State.bind
  cases found : s.threads[thread]? with
  | none => exact kept
  | some running =>
    obtain ⟨served, named, live⟩ := kept.threads running (List.mem_of_getElem? found)
    simp only
    refine ⟨?_, ?_, fun _ => served⟩
    · unfold BindThread.install
      split
      next installing => exact fun _ => ⟨_, _, rfl, rfl, named, Or.inl (live installing)⟩
      · exact kept.bound
    · intro other member
      cases next : running.next isDirsvc s succeeds with
      | none =>
        rw [next] at member
        exact kept.threads other (List.mem_of_mem_eraseIdx member)
      | some stage =>
        rw [next] at member
        rcases List.mem_or_eq_of_mem_set member with old | rfl
        · exact kept.threads other old
        · refine ⟨served, named, fun installing => ?_⟩
          cases installing
          have live := live_of_next next
          exact live

section Run

variable [LinearOrder τ]

/-- The events are those of directory peers and come in the order of their timestamps: none is
older than what the table has seen. -/
def InOrder (s : State τ) : Action τ → Prop
  | .handlePeerEvent call =>
    (call.event.nodeType.getD .none).pyEq dirsvc ∧ ∀ entry ∈ s.peers.peers.entries, entry.2.lastSeen ≤ call.time
  | _ => True

instance (s : State τ) : ∀ action, Decidable (InOrder s action)
  | .handlePeerEvent _ => inferInstanceAs (Decidable (_ ∧ _))
  | .finishPeerEvent => isTrue trivial
  | .bind _ _ => isTrue trivial
  | .rememberConnectTarget _ _ => isTrue trivial

/-- An event of a connection whose runtime it does not change leaves it live, or reports its loss. -/
theorem Live.applyEvent {peers : PeerTable τ} {handle runtimeId : String} (parent : ParentInfo) {call : PeerCall τ}
    (live : Live peers handle runtimeId) (named : runtimeId ≠ "")
    (same : ∀ given ∈ orStr call.event.peerHandle none, ∀ record ∈ peers.get given, record.runtimeId ≠ "" →
      ∀ runtimeId ∈ orStr call.event.remoteRuntimeId none, runtimeId = record.runtimeId) :
    Live (peers.applyEvent parent call.event call.clock).1 handle runtimeId ∨
      call.event.eventType.isLoss ∧ orStr call.event.peerHandle none = some handle := by
  obtain ⟨record, stored, callable, rfl⟩ := live
  rcases PeerTable.applyEvent_cases parent peers call.event call.clock with
    ⟨unchanged, _⟩ | ⟨given, own, ⟨removed, erased⟩ | ⟨kept, written⟩⟩
  · rw [unchanged]
    exact Or.inl ⟨record, stored, callable, rfl⟩
  · by_cases ours : given = handle
    · exact Or.inr ⟨by rw [removed]; rfl, ours ▸ own⟩
    · rw [erased]
      refine Or.inl ⟨record, ?_, callable, rfl⟩
      simp only [PeerTable.get, Dict.get?_erase, if_neg (Ne.symm ours)]
      exact stored
  · by_cases ours : given = handle
    · subst ours
      cases type : call.event.eventType with
      | lost => exact Or.inr ⟨rfl, own⟩
      | removed => exact absurd type kept
      | ready | degraded | unknown =>
        have runtime :=
          PeerTable.writtenRecord_runtimeId parent stored named (same given own record stored named) call.time
        rw [written]
        refine Or.inl ⟨_, Dict.get?_set_self _ _ _, ?_, runtime⟩
        simp only [PeerTable.writtenRecord, PeerTable.markCallable_callable, type]
        all_goals simpa [PeerTable.updatedRecord, show peers.peers.get? given = some record from stored] using callable
    · rw [written]
      refine Or.inl ⟨record, ?_, callable, rfl⟩
      simp only [PeerTable.get, Dict.get?_set, if_neg (Ne.symm ours)]
      exact stored

theorem Kept.handlePeerEvent (kept : Kept isDirsvc s) (parent : ParentInfo) {call : PeerCall τ}
    (inOrder : InOrder s (.handlePeerEvent call)) (undisturbed : Undisturbed s (.handlePeerEvent call)) :
    Kept isDirsvc (s.handlePeerEvent parent call) := by
  obtain ⟨uninstalled, same⟩ := undisturbed
  unfold State.handlePeerEvent
  cases idle : s.handling with
  | some _ => exact kept
  | none =>
    refine ⟨?_, ?_, kept.served⟩
    · intro set
      obtain ⟨handle, runtimeId, atHandle, atRuntime, named, live | ⟨_, busy, _⟩⟩ := kept.bound set
      · refine ⟨handle, runtimeId, atHandle, atRuntime, named, ?_⟩
        rcases live.applyEvent parent named same with live | ⟨loss, own⟩
        · exact Or.inl live
        · refine Or.inr ⟨_, rfl, ?_, own, ?_⟩
          · simp [isDisconnectedDirsvcPeer, loss, kept.served set, inOrder.1]
          · obtain ⟨record, stored, _, rfl⟩ := live
            exact same handle own record stored named
      · rw [idle] at busy
        cases busy
    · intro thread member
      obtain ⟨other, named, live⟩ := kept.threads thread member
      refine ⟨other, named, fun installing => ?_⟩
      rcases (live installing).applyEvent parent named same with live | ⟨loss, own⟩
      · exact live
      · exact absurd own (uninstalled loss thread member installing)

theorem Kept.step (kept : Kept isDirsvc s) (parent : ParentInfo) {action : Action τ} (inOrder : InOrder s action)
    (undisturbed : Undisturbed s action) : Kept isDirsvc (s.step isDirsvc parent action) := by
  cases action with
  | handlePeerEvent call => exact kept.handlePeerEvent parent inOrder undisturbed
  | finishPeerEvent => exact kept.finishPeerEvent
  | bind thread succeeds => exact kept.bind thread succeeds
  | rememberConnectTarget endpoint connectionDirection => exact ⟨kept.bound, kept.threads, kept.served⟩

/-- The directory binding never points at a lost peer, in every run over events of directory peers in
timestamp order in which no connection is lost between a last check and its installation. -/
theorem binding_live (parent : ParentInfo) (isDirsvc : Bool) (actions : List (Action τ))
    (inOrder : (State.machine parent isDirsvc).Admits InOrder initial actions)
    (undisturbed : (State.machine parent isDirsvc).Admits Undisturbed initial actions)
    (quiet : Quiet ((State.machine parent isDirsvc).final initial actions)) :
    Bound ((State.machine parent isDirsvc).final initial actions) := by
  have kept : Kept isDirsvc ((State.machine parent isDirsvc).final initial actions) :=
    (State.machine parent isDirsvc).run_invariant (fun s _ => Kept isDirsvc s) (kept_initial isDirsvc)
      (fun _ _ _ kept allowed => kept.step parent allowed.1 allowed.2)
      ((State.machine parent isDirsvc).admits_and.mpr ⟨inOrder, undisturbed⟩)
  intro set
  obtain ⟨handle, runtimeId, atHandle, atRuntime, _, live | ⟨_, busy, _⟩⟩ := kept.bound set
  · exact ⟨handle, runtimeId, atHandle, atRuntime, live⟩
  · rw [quiet.1] at busy
    cases busy

end Run

/-- An event of the connection to a directory service. -/
def directoryEvent (type : PeerEventType) (timestamp : Nat) : PeerCall Nat where
  event :=
    { eventType := type, peerHandle := some "peer-1", remoteRuntimeId := some "directory", timestamp := some timestamp
      nodeType := some dirsvc }
  clock := 0

/-- The connection comes up and a thread has made its last check. -/
def checked : List (Action Nat) :=
  [ .handlePeerEvent (directoryEvent .ready 1), .finishPeerEvent, .bind 0 true, .bind 0 true, .bind 0 true,
    .bind 0 true ]

theorem binding_live_installed :
    Bound ((State.machine ⟨none, none, .int 0⟩ false).final initial (checked ++ [.bind 0 true])) := by
  refine binding_live ⟨none, none, .int 0⟩ false (checked ++ [.bind 0 true]) ?_ ?_ ⟨?_, ?_⟩
  · decide +kernel
  · decide +kernel
  · exact Option.isNone_iff_eq_none.mp (by decide +kernel)
  · exact List.isEmpty_iff.mp (by decide +kernel)

/-- The connection is lost before the thread installs its proxy. -/
def lostMeanwhile : List (Action Nat) :=
  checked ++ [.handlePeerEvent (directoryEvent .lost 2), .finishPeerEvent, .bind 0 true]

theorem binding_lost :
    (State.machine ⟨none, none, .int 0⟩ false).Admits InOrder initial lostMeanwhile ∧
      Quiet ((State.machine ⟨none, none, .int 0⟩ false).final initial lostMeanwhile) ∧
      ¬Bound ((State.machine ⟨none, none, .int 0⟩ false).final initial lostMeanwhile) := by
  refine ⟨by decide +kernel, ⟨Option.isNone_iff_eq_none.mp (by decide +kernel),
    List.isEmpty_iff.mp (by decide +kernel)⟩, ?_⟩
  intro bound
  obtain ⟨handle, runtimeId, atHandle, _, record, stored, callable, _⟩ := bound (by decide +kernel)
  have here : ((State.machine ⟨none, none, .int 0⟩ false).final initial lostMeanwhile).binding.peerHandle =
      some "peer-1" := by
    decide +kernel
  have lost : (((State.machine ⟨none, none, .int 0⟩ false).final initial lostMeanwhile).peers.get "peer-1").map
      PeerRecord.callable = some false := by
    decide +kernel
  cases Option.some.inj (here.symm.trans atHandle)
  rw [stored, Option.map_some, callable] at lost
  cases lost

end DEFw.Binding
