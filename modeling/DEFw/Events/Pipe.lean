import DEFw.Events.Queue

namespace DEFw.Events

/-- Where a call is while it holds the lock: a `put` has appended its event and writes the byte, a
`get` has removed its results and reads as many bytes. -/
inductive Stage (α : Type) where
  | writing (event : α)
  | reading (events : List α) (count : Nat)
deriving Repr, DecidableEq

/-- A `BaseEventAPI` object that several threads use, with the calls that hold its lock. -/
structure Shared (α : Type) where
  queue : EventQueue α
  inside : List (Nat × Stage α)
deriving Repr, DecidableEq

def Shared.start {α : Type} : Shared α := ⟨.empty, []⟩

/-- A step of a thread: it takes the lock for a `put` or a `get`, or goes on with its write or read. -/
inductive Move (α : Type) where
  | put (thread : Nat) (event : α)
  | write (thread : Nat)
  | get (thread : Nat) (matching : α → Bool)
  | read (thread : Nat)

section Moves

variable {α : Type} [DecidableEq α] (equal : α → α → Bool) (threadSafe : Bool) (capacity : Nat)

/-- `ConditionalLock.acquire` returns. An object that is not thread safe has no lock. -/
def Shared.enters (s : Shared α) (thread : Nat) : Bool :=
  (!threadSafe || s.inside.isEmpty) && (s.inside.lookup thread).isNone

/-- The call returns, and the lock is released. -/
def Shared.leave (s : Shared α) (thread : Nat) (queue : EventQueue α) : Shared α :=
  ⟨queue, s.inside.filter (fun entry => entry.1 ≠ thread)⟩

/-- The write waits while the pipe is full, and the read while bytes are asked for and none is there. -/
def Shared.step (s : Shared α) : Move α → Shared α × List (Outcome α)
  | .put thread event =>
    if s.enters threadSafe thread then
      (⟨{ s.queue with events := s.queue.events ++ [event] }, s.inside ++ [(thread, .writing event)]⟩, [])
    else (s, [])
  | .write thread =>
    match s.inside.lookup thread with
    | some (.writing event) =>
      if s.queue.unread < capacity then
        (s.leave thread { s.queue with unread := s.queue.unread + 1 }, [.posted event])
      else (s, [])
    | _ => (s, [])
  | .get thread matching =>
    if s.enters threadSafe thread then
      let (res, i) := collect matching s.queue.events
      match removeResults equal res s.queue.events with
      | (left, false) => (⟨{ s.queue with events := left }, s.inside⟩, [.valueError])
      | (left, true) => (⟨{ s.queue with events := left }, s.inside ++ [(thread, .reading res i)]⟩, [])
    else (s, [])
  | .read thread =>
    match s.inside.lookup thread with
    | some (.reading events count) =>
      match readPipe s.queue.unread count with
      | none => (s, [])
      | some unread => (s.leave thread { s.queue with unread := unread }, [.returned events])
    | _ => (s, [])

def shared : Machine (Shared α) (Move α) (Outcome α) := ⟨Shared.step equal threadSafe capacity⟩

/-- A `put` waits for room in the pipe while it holds the lock. -/
def Shared.Stuck (s : Shared α) : Prop :=
  threadSafe = true ∧ capacity ≤ s.queue.unread ∧ ∃ thread event, (thread, .writing event) ∈ s.inside

/-- A `put` that takes the lock finds room for its byte. -/
def FindsRoom (s : Shared α) : Move α → Prop
  | .put thread _ => threadSafe = true → s.enters threadSafe thread = true → s.queue.unread < capacity
  | _ => True

end Moves

section Runs

variable {α : Type} [DecidableEq α] (equal : α → α → Bool) {threadSafe : Bool} {capacity : Nat}

/-- Undisturbed, the two steps of a `put` are the `put` of the queue. -/
theorem put_write (threadSafe : Bool) {q : EventQueue α} (room : q.unread < capacity) (thread : Nat) (event : α) :
    (shared equal threadSafe capacity).final ⟨q, []⟩ [.put thread event, .write thread] = ⟨put q event, []⟩ := by
  simp [shared, Machine.final, Shared.step, Shared.enters, Shared.leave, room, put]

/-- Undisturbed, the two steps of a `get` that returns are the `get` of the queue. -/
theorem get_read (threadSafe : Bool) {q left : EventQueue α} {matching : α → Bool} {events : List α}
    (returns : get equal q matching = (left, .returned events)) (thread : Nat) :
    (shared equal threadSafe capacity).final ⟨q, []⟩ [.get thread matching, .read thread] = ⟨left, []⟩ := by
  unfold get at returns
  dsimp only at returns
  split at returns
  · cases returns
  · rename_i rest removed
    split at returns
    · cases returns
    · rename_i unread readable
      cases returns
      simp [shared, Machine.final, Shared.step, Shared.enters, Shared.leave, removed, readable]

/-- The lock is free, or held by a `put` that has room or by a `get`. -/
inductive Flows (capacity : Nat) : Shared α → Prop
  | free (q : EventQueue α) : Flows capacity ⟨q, []⟩
  | putting (q : EventQueue α) (thread : Nat) (event : α) (room : q.unread < capacity) :
      Flows capacity ⟨q, [(thread, .writing event)]⟩
  | getting (q : EventQueue α) (thread : Nat) (events : List α) (count : Nat) :
      Flows capacity ⟨q, [(thread, .reading events count)]⟩

omit [DecidableEq α] in
theorem Flows.not_stuck {s : Shared α} (flows : Flows capacity s) (threadSafe : Bool) :
    ¬s.Stuck threadSafe capacity := by
  rintro ⟨_, full, thread, event, member⟩
  cases flows with
  | free q => cases member
  | putting q holder held room => exact absurd room (Nat.not_lt.mpr full)
  | getting q holder events count => simp at member

omit [DecidableEq α] in
theorem Shared.enters_iff {s : Shared α} {thread : Nat} : s.enters true thread = true ↔ s.inside = [] := by
  unfold Shared.enters
  cases s.inside with
  | nil => simp
  | cons entry rest => simp

omit [DecidableEq α] in
/-- The one call inside leaves. -/
theorem Flows.leave {q queue : EventQueue α} {entry : Nat × Stage α} {thread : Nat}
    (held : ([entry] : List (Nat × Stage α)).lookup thread ≠ none) :
    Flows capacity (Shared.leave ⟨q, [entry]⟩ thread queue) := by
  obtain ⟨holder, stage⟩ := entry
  have own : holder = thread := by
    by_contra other
    rw [List.lookup_cons, beq_false_of_ne (Ne.symm other)] at held
    exact held rfl
  simp only [Shared.leave, List.filter_cons, own, ne_eq, not_true, decide_false, Bool.false_eq_true, if_false,
    List.filter_nil]
  exact .free queue

theorem Flows.step {s : Shared α} (flows : Flows capacity s) {move : Move α} (room : FindsRoom true capacity s move) :
    Flows capacity (s.step equal true capacity move).1 := by
  cases move with
  | put thread event =>
    unfold Shared.step
    dsimp only
    split
    · rename_i enters
      have free := Shared.enters_iff.mp enters
      rw [free]
      exact .putting _ thread event (room rfl enters)
    · exact flows
  | get thread matching =>
    unfold Shared.step
    dsimp only
    split
    · rename_i enters
      have free := Shared.enters_iff.mp enters
      split
      · rw [free]
        exact .free _
      · rw [free]
        exact .getting _ thread _ _
    · exact flows
  | write thread =>
    unfold Shared.step
    dsimp only
    split
    · rename_i event held
      split
      · cases flows with
        | free q => cases held
        | putting | getting => exact Flows.leave (by simp [held])
      · exact flows
    · exact flows
  | read thread =>
    unfold Shared.step
    dsimp only
    split
    · rename_i events count held
      split
      · exact flows
      · cases flows with
        | free q => cases held
        | putting | getting => exact Flows.leave (by simp [held])
    · exact flows

/-- A `put` that takes the lock with the pipe full is stuck. -/
theorem FindsRoom.of_step {s : Shared α} {move : Move α}
    (goes : ¬(s.step equal threadSafe capacity move).1.Stuck threadSafe capacity) :
    FindsRoom threadSafe capacity s move := by
  cases move with
  | put thread event =>
    intro safe enters
    by_contra full
    refine goes ⟨safe, ?_, thread, event, ?_⟩
    · simpa [Shared.step, enters] using full
    · simp [Shared.step, enters]
  | write | get | read => trivial

/-- No `put` waits for room in the pipe while it holds the lock that a `get` needs, exactly if every
`put` that takes the lock finds room. -/
theorem no_put_stuck_iff (threadSafe : Bool) (capacity : Nat) (moves : List (Move α)) :
    (shared equal threadSafe capacity).Admits
        (fun s move => ¬(s.step equal threadSafe capacity move).1.Stuck threadSafe capacity) .start moves ↔
      (shared equal threadSafe capacity).Admits (FindsRoom threadSafe capacity) .start moves := by
  constructor
  · exact Machine.admits_mono _ (fun s move goes => FindsRoom.of_step equal goes)
  · intro room
    cases threadSafe with
    | false => exact Machine.admits_mono _ (fun s move _ stuck => absurd stuck.1 Bool.false_ne_true) room
    | true =>
      have start : Flows capacity (Shared.start : Shared α) := .free .empty
      generalize Shared.start = s at start room
      induction moves generalizing s with
      | nil => trivial
      | cons move rest ih =>
        have next := start.step equal room.1
        exact ⟨next.not_stuck true, ih _ next room.2⟩

end Runs

/-- Posts that nothing fetches. -/
def posts : Nat → List (Move Nat)
  | 0 => []
  | n + 1 => posts n ++ [.put 0 n, .write 0]

theorem final_posts (equal : Nat → Nat → Bool) {capacity n : Nat} (fits : n ≤ capacity) :
    (shared equal true capacity).final .start (posts n) = ⟨⟨List.range n, n⟩, []⟩ := by
  induction n with
  | zero => rfl
  | succ n ih =>
    rw [posts, Machine.final_append, ih (Nat.le_of_succ_le fits), put_write equal true (Nat.lt_of_succ_le fits)]
    simp [put, List.range_succ]

/-- With 65536 events in a pipe of that capacity, the next `put` waits with the lock held. -/
theorem put_stuck :
    ((shared (fun _ _ => false) true 65536).final .start (posts 65536 ++ [.put 0 65536])).Stuck true 65536 := by
  rw [Machine.final_append, final_posts _ (Nat.le_refl _)]
  exact ⟨rfl, Nat.le_refl _, 0, 65536, List.mem_cons_self⟩

end DEFw.Events
