import DEFw.Lib.Machine

namespace DEFw.Events

/-- A `BaseEventAPI` object: its queued events and the number of bytes that
wait in its pipe. -/
structure EventQueue (α : Type) where
  events : List α
  unread : Nat
deriving Repr, DecidableEq

def EventQueue.empty {α : Type} : EventQueue α := ⟨[], 0⟩

/-- How a call on the queue ends. -/
inductive Outcome (α : Type) where
  | posted (event : α)
  | returned (events : List α)
  /-- `list.remove(x)` found no such event -/
  | valueError
  /-- the read of the pipe waits for a byte -/
  | blocked
deriving Repr, DecidableEq

inductive Call (α : Type) where
  | put (event : α)
  | get (matching : α → Bool)

section Calls

variable {α : Type} [DecidableEq α] (equal : α → α → Bool)

/-- The comparison of `list.remove`: the item is the event, or compares equal
to it. -/
def isOrEquals (event item : α) : Bool := item = event || equal item event

/-- `list.remove`: the first such item goes; without one the call raises. -/
def remove (event : α) (queue : List α) : Option (List α) :=
  if queue.any (isOrEquals equal event) then some (queue.eraseP (isOrEquals equal event)) else none

/-- The loop over the results; the flag says that no removal raised. -/
def removeResults : List α → List α → List α × Bool
  | [], queue => (queue, true)
  | event :: rest, queue =>
    match remove equal event queue with
    | none => (queue, false)
    | some left => removeResults rest left

/-- The loop over the queue, with `res` and `i` as it leaves them. -/
def collect {β : Type} (matching : β → Bool) (queue : List β) : List β × Nat :=
  queue.foldl (fun state e => if matching e then (state.1 ++ [e], state.2 + 1) else state) ([], 0)

/-- `os.read` of up to `count` bytes: it returns what is there, and waits if
bytes are asked for and none is there. -/
def readPipe (unread count : Nat) : Option Nat :=
  if count = 0 then some unread else if unread = 0 then none else some (unread - min count unread)

def put {β : Type} (q : EventQueue β) (event : β) : EventQueue β :=
  { events := q.events ++ [event], unread := q.unread + 1 }

def get (q : EventQueue α) (matching : α → Bool) : EventQueue α × Outcome α :=
  let (res, i) := collect matching q.events
  match removeResults equal res q.events with
  | (left, false) => ({ q with events := left }, .valueError)
  | (left, true) =>
    match readPipe q.unread i with
    | none => ({ q with events := left }, .blocked)
    | some unread => ({ events := left, unread }, .returned res)

def step (q : EventQueue α) : Call α → EventQueue α × List (Outcome α)
  | .put event => (put q event, [.posted event])
  | .get matching => ((get equal q matching).1, [(get equal q matching).2])

def machine : Machine (EventQueue α) (Call α) (Outcome α) := ⟨step equal⟩

end Calls

/-- Equal events get the same answer. -/
def Respects {α : Type} (equal : α → α → Bool) (matching : α → Bool) : Prop :=
  ∀ item event, equal item event = true → matching item = matching event

/-- The predicates of the run's `get` calls do not tell equal events apart. -/
def Call.Fair {α : Type} (equal : α → α → Bool) : Call α → Prop
  | .put _ => True
  | .get matching => Respects equal matching

/-- What the calls posted, in order. -/
def Call.posted? {α : Type} : Call α → Option α
  | .put event => some event
  | .get _ => none

/-- What a call handed to its caller. -/
def Outcome.results {α : Type} : Outcome α → List α
  | .returned events => events
  | _ => []

section Removal

variable {α : Type} {equal : α → α → Bool} {matching : α → Bool}

theorem collect_eq (matching : α → Bool) (queue : List α) :
    collect matching queue = (queue.filter matching, (queue.filter matching).length) := by
  unfold collect
  induction queue using List.reverseRecOn with
  | nil => rfl
  | append_singleton queue event ih =>
    rw [List.foldl_append, ih]
    cases matches? : matching event <;> simp [matches?, List.filter_append]

variable [DecidableEq α]

/-- Nothing before the first match can be taken for it, so that the event
removed is the event returned. -/
theorem remove_first (respects : Respects equal matching) {before after : List α} {event : α}
    (skipped : ∀ item ∈ before, matching item = false) (found : matching event = true) :
    remove equal event (before ++ event :: after) = some (before ++ after) := by
  have itself : isOrEquals equal event event = true := by simp [isOrEquals]
  have others : ∀ item ∈ before, ¬ isOrEquals equal event item = true := by
    intro item member taken
    have unmatched := skipped item member
    rcases (Bool.or_eq_true _ _).mp taken with same | alike
    · rw [of_decide_eq_true same, found] at unmatched
      exact Bool.noConfusion unmatched
    · rw [respects item event alike, found] at unmatched
      exact Bool.noConfusion unmatched
  have present : (before ++ event :: after).any (isOrEquals equal event) = true := by
    simp [List.any_append, itself]
  rw [remove, if_pos present, List.eraseP_append_right _ others, List.eraseP_cons_of_pos itself]

/-- Removing the matches one after another leaves the other events, in order. -/
theorem removeResults_filter (respects : Respects equal matching) (kept queue : List α)
    (skipped : ∀ item ∈ kept, matching item = false) :
    removeResults equal (queue.filter matching) (kept ++ queue) =
      (kept ++ queue.filter (fun event => !matching event), true) := by
  -- `kept` is the part of the queue before the next match
  induction queue generalizing kept with
  | nil => rfl
  | cons event rest ih =>
    cases found : matching event with
    | true =>
      simp only [List.filter_cons, found, if_true, Bool.not_true, Bool.false_eq_true, if_false, removeResults]
      rw [remove_first respects skipped found]
      exact ih kept skipped
    | false =>
      have skippedToo : ∀ item ∈ kept ++ [event], matching item = false := by
        intro item member
        rcases List.mem_append.mp member with old | new
        · exact skipped item old
        · rw [List.mem_singleton.mp new, found]
      have next := ih (kept ++ [event]) skippedToo
      simp only [List.filter_cons, found, Bool.false_eq_true, if_false, Bool.not_false, if_true]
      simpa only [List.append_assoc, List.singleton_append] using next

/-- A `get` on a queue whose pipe holds a byte for every event. -/
theorem get_eq (respects : Respects equal matching) {q : EventQueue α} (counted : q.unread = q.events.length) :
    get equal q matching =
      (⟨q.events.filter (fun event => !matching event), (q.events.filter (fun event => !matching event)).length⟩,
        .returned (q.events.filter matching)) := by
  have removed := removeResults_filter respects [] q.events (by simp)
  have balance : q.events.length =
      (q.events.filter matching).length + (q.events.filter (fun event => !matching event)).length := by
    rw [← List.length_append]
    exact (List.filter_append_perm matching q.events).length_eq.symm
  have read : readPipe q.unread (q.events.filter matching).length =
      some (q.events.filter (fun event => !matching event)).length := by
    unfold readPipe
    split
    · rw [counted]
      congr 1
      omega
    · rw [if_neg (by omega)]
      congr 1
      omega
  simp only [List.nil_append] at removed
  simp only [get, collect_eq, removed, read]

end Removal

section Runs

variable {α : Type} [DecidableEq α] {equal : α → α → Bool}

/-- The queue after some calls: a byte in the pipe for every event, the events
in the order they were put, and each event put is queued or was returned. -/
structure Conserves (calls : List (Call α)) (q : EventQueue α) (log : List (Outcome α)) : Prop where
  counted : q.unread = q.events.length
  ordered : q.events.Sublist (calls.filterMap Call.posted?)
  accounted : (calls.filterMap Call.posted?).Perm (log.flatMap Outcome.results ++ q.events)

omit [DecidableEq α] in
theorem Conserves.put {calls : List (Call α)} {q : EventQueue α} {log : List (Outcome α)} (conserves : Conserves calls q log)
    (event : α) : Conserves (calls ++ [.put event]) (put q event) (log ++ [.posted event]) where
  counted := by simp [Events.put, conserves.counted]
  ordered := by
    simp only [List.filterMap_append]
    exact conserves.ordered.append (List.Sublist.refl [event])
  accounted := by
    simp only [List.filterMap_append, List.flatMap_append, Events.put]
    have more := conserves.accounted.append_right [event]
    simpa [Outcome.results, Call.posted?, List.append_assoc] using more

theorem Conserves.get {calls : List (Call α)} {q : EventQueue α} {log : List (Outcome α)} (conserves : Conserves calls q log)
    {matching : α → Bool} (respects : Respects equal matching) :
    Conserves (calls ++ [.get matching]) (get equal q matching).1 (log ++ [(get equal q matching).2]) := by
  rw [get_eq respects conserves.counted]
  have posted : (calls ++ [Call.get matching]).filterMap Call.posted? = calls.filterMap Call.posted? := by
    simp [List.filterMap_append, Call.posted?]
  refine ⟨rfl, ?_, ?_⟩
  · rw [posted]
    exact List.filter_sublist.trans conserves.ordered
  · rw [posted]
    have split := (List.filter_append_perm matching q.events).symm
    have spread := conserves.accounted.trans (split.append_left (log.flatMap Outcome.results))
    simpa [List.flatMap_append, Outcome.results, List.append_assoc] using spread

theorem conserves_run {calls : List (Call α)} (fair : ∀ call ∈ calls, call.Fair equal) :
    Conserves calls ((machine equal).final .empty calls) ((machine equal).log .empty calls) := by
  induction calls using List.reverseRecOn with
  | nil => exact ⟨rfl, List.Sublist.refl [], List.Perm.refl []⟩
  | append_singleton calls call ih =>
    have before := ih (fun other member => fair other (List.mem_append_left _ member))
    have last := fair call (by simp)
    rw [Machine.final_concat, Machine.log_concat]
    cases call with
    | put event => exact before.put event
    | get matching => exact before.get last

/-- Whatever is put and whatever is asked for: a `get` returns the queued
events that match and leaves the others, both in the order they were put, no
event is lost or returned twice, and the pipe holds a byte for each queued
event. -/
theorem event_queue_conserves (equal : α → α → Bool) (calls : List (Call α))
    (fair : ∀ call ∈ calls, call.Fair equal) :
    (∀ before matching after, calls = before ++ .get matching :: after →
      (machine equal).step ((machine equal).final .empty before) (.get matching) =
        (⟨((machine equal).final .empty before).events.filter (fun event => !matching event),
          (((machine equal).final .empty before).events.filter (fun event => !matching event)).length⟩,
          [.returned (((machine equal).final .empty before).events.filter matching)])) ∧
      ((machine equal).final .empty calls).events.Sublist (calls.filterMap Call.posted?) ∧
      (calls.filterMap Call.posted?).Perm
        (((machine equal).log .empty calls).flatMap Outcome.results ++ ((machine equal).final .empty calls).events) ∧
      ∀ before after, calls = before ++ after →
        ((machine equal).final .empty before).unread = ((machine equal).final .empty before).events.length := by
  have conserves := conserves_run fair
  refine ⟨?_, conserves.ordered, conserves.accounted, ?_⟩
  · rintro before matching after rfl
    have earlier := conserves_run (fun call member => fair call (List.mem_append_left _ member))
    have respects : Respects equal matching := fair (.get matching) (by simp)
    change ((get equal _ matching).1, [(get equal _ matching).2]) = _
    rw [get_eq respects earlier.counted]
  · rintro before after rfl
    exact (conserves_run (fun call member => fair call (List.mem_append_left _ member))).counted

end Runs

/-- Events are a kind and a number, and compare by their kind. -/
def sameKind (item event : Nat × Nat) : Bool := item.1 == event.1

def twoAlikeCalls : List (Call (Nat × Nat)) :=
  [.put (1, 0), .put (2, 0), .put (1, 1), .get (fun event => event.1 == 1), .put (1, 2)]

theorem twoAlikeCalls_fair : ∀ call ∈ twoAlikeCalls, call.Fair sameKind := by
  intro call member
  simp only [twoAlikeCalls, List.mem_cons, List.not_mem_nil, or_false] at member
  rcases member with rfl | rfl | rfl | rfl | rfl
  · trivial
  · trivial
  · trivial
  · intro item event alike
    have kinds : item.1 = event.1 := eq_of_beq alike
    simp only [kinds]
  · trivial

theorem event_queue_conserves_two_alike :
    ((machine sameKind).final .empty twoAlikeCalls).events.Sublist [(1, 0), (2, 0), (1, 1), (1, 2)] ∧
      (machine sameKind).log .empty twoAlikeCalls =
        [.posted (1, 0), .posted (2, 0), .posted (1, 1), .returned [(1, 0), (1, 1)], .posted (1, 2)] :=
  ⟨(event_queue_conserves sameKind twoAlikeCalls twoAlikeCalls_fair).2.1, by decide⟩

end DEFw.Events
