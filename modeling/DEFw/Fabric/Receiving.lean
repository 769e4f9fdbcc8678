import DEFw.Lib.Machine
import Mathlib.Data.List.Forall2
import Mathlib.Data.List.Nodup
import Mathlib.Data.List.Perm.Basic
import Mathlib.Logic.Function.Basic

namespace DEFw.Fabric

def recvBufSize : Nat := 256 * 1024

/-- Where `ofi_progress_thread` is: at `fi_cq_sread`, with a buffer that it posts again next,
with a copy that it dispatches next, or past its loop. -/
inductive ProgressThread
  | polling
  | reposting (buf : Nat) (copy : Option (List UInt8))
  | dispatching (copy : List UInt8)
  | ended

namespace ProgressThread

/-- The message that the thread has. -/
def held : ProgressThread → List (List UInt8)
  | reposting _ copy => copy.toList
  | dispatching copy => [copy]
  | _ => []

/-- The buffer that the thread has. -/
def buffer : ProgressThread → List Nat
  | reposting buf _ => [buf]
  | _ => []

end ProgressThread

/-- The receive buffers, by their numbers: those that the provider may fill, what is in each, and
the completions in `rx_cq` with the length of the message, or with none for an error. -/
structure RecvPool where
  posted : List Nat
  data : Nat → List UInt8
  rxCq : List (Nat × Option Nat)
  thread : ProgressThread

def RecvPool.start (count : Nat) : RecvPool := ⟨List.range count, fun _ => [], [], .polling⟩

/-- The provider fills one of the posted buffers or reports an error for it; the thread reads a
completion, posts its buffer again, dispatches, or stops. -/
inductive RecvEvent
  | complete (place : Nat) (message : Option (List UInt8))
  | poll (allocates : Bool)
  | repost (posts : Bool)
  | dispatch
  | stop

/-- What is seen of a run. A stranded buffer is not posted again. -/
inductive RecvNote
  | landed (message : List UInt8)
  | dispatched (copy : List UInt8)
  | unallocated
  | stranded (buf : Nat)

namespace RecvPool

/-- A message that does not fit is an error. -/
def complete (s : RecvPool) (place buf : Nat) : Option (List UInt8) → RecvPool × List RecvNote
  | some message =>
    ({ s with
        posted := s.posted.eraseIdx place
        data := Function.update s.data buf (message ++ (s.data buf).drop message.length)
        rxCq := s.rxCq ++ [(buf, some message.length)] }, [.landed message])
  | none => ({ s with posted := s.posted.eraseIdx place, rxCq := s.rxCq ++ [(buf, none)] }, [])

/-- The thread does not look at the result of `ofi_post_recv`. Where the entry of an error names no
buffer, none is posted. -/
def step (s : RecvPool) : RecvEvent → RecvPool × List RecvNote
  | .complete place message =>
    match s.posted[place]? with
    | some buf => s.complete place buf (message.filter (·.length ≤ recvBufSize))
    | none => (s, [])
  | .poll allocates =>
    match s.thread, s.rxCq with
    | .polling, (buf, len) :: rest =>
      -- the copy is taken before the buffer goes back to the provider
      ({ s with rxCq := rest, thread := .reposting buf ((len.filter fun _ => allocates).map (s.data buf).take) },
        if len.isSome && !allocates then [.unallocated] else [])
    | _, _ => (s, [])
  | .repost posts =>
    match s.thread with
    | .reposting buf copy =>
      ({ s with
          posted := if posts then s.posted ++ [buf] else s.posted
          thread := (copy.map ProgressThread.dispatching).getD .polling }, if posts then [] else [.stranded buf])
    | _ => (s, [])
  | .dispatch =>
    match s.thread with
    | .dispatching copy => ({ s with thread := .polling }, [.dispatched copy])
    | _ => (s, [])
  | .stop =>
    match s.thread with
    | .polling => ({ s with thread := .ended }, [])
    | _ => (s, [])

def machine : Machine RecvPool RecvEvent RecvNote := ⟨step⟩

/-- The messages that are in the buffers of completions. -/
def waiting (s : RecvPool) : List (List UInt8) := s.rxCq.filterMap fun entry => entry.2.map (s.data entry.1).take

/-- The buffers that are posted, and those that will be. -/
def buffers (s : RecvPool) : List Nat := s.posted ++ s.rxCq.map Prod.fst ++ s.thread.buffer

end RecvPool

namespace RecvNote

def arrived : RecvNote → List (List UInt8)
  | landed message => [message]
  | _ => []

/-- What became of a message: a copy that was dispatched, or nothing for want of memory. -/
def outcome : RecvNote → List (Option (List UInt8))
  | dispatched copy => [some copy]
  | unallocated => [none]
  | _ => []

def lost : RecvNote → List Nat
  | stranded buf => [buf]
  | _ => []

end RecvNote

namespace RecvPool

/-- Every message is accounted for in the order in which they came, and so is every buffer. -/
structure Accounts (count : Nat) (s : RecvPool) (log : List RecvNote) : Prop where
  messages : ∃ done, log.flatMap RecvNote.arrived = done ++ (s.thread.held ++ s.waiting) ∧
    List.Forall₂ (fun outcome message => ∀ copy ∈ outcome, copy = message) (log.flatMap RecvNote.outcome) done
  buffers : (s.buffers ++ log.flatMap RecvNote.lost).Perm (List.range count)

namespace Accounts

variable {count : Nat} {s next : RecvPool} {log new : List RecvNote}

theorem start (count : Nat) : Accounts count (.start count) [] :=
  ⟨⟨[], rfl, .nil⟩, by simp [RecvPool.start, RecvPool.buffers, ProgressThread.buffer]⟩

/-- A step that moves messages and buffers along. -/
theorem move (was : Accounts count s log) (quiet : new.flatMap RecvNote.outcome = [])
    (messages : next.thread.held ++ next.waiting = s.thread.held ++ s.waiting ++ new.flatMap RecvNote.arrived)
    (buffers : (next.buffers ++ new.flatMap RecvNote.lost).Perm s.buffers) : Accounts count next (log ++ new) := by
  obtain ⟨done, all, each⟩ := was.messages
  refine ⟨⟨done, by simp [all, messages], by simpa [quiet] using each⟩, ?_⟩
  refine List.Perm.trans ?_ ((buffers.append_right _).trans was.buffers)
  simpa using List.perm_append_comm.append_left next.buffers

/-- A step that settles the next message. -/
theorem settle (was : Accounts count s log) {outcome : Option (List UInt8)} (message : List UInt8)
    (settled : ∀ copy ∈ outcome, copy = message) (quiet : new.flatMap RecvNote.outcome = [outcome])
    (arrived : new.flatMap RecvNote.arrived = [])
    (messages : s.thread.held ++ s.waiting = message :: (next.thread.held ++ next.waiting))
    (lost : new.flatMap RecvNote.lost = []) (buffers : next.buffers.Perm s.buffers) :
    Accounts count next (log ++ new) := by
  obtain ⟨done, all, each⟩ := was.messages
  refine ⟨⟨done ++ [message], by simp [all, messages, arrived], ?_⟩, ?_⟩
  · simpa [quiet] using List.rel_append each (.cons settled .nil)
  · simpa [lost] using (buffers.append_right _).trans was.buffers

theorem complete (was : Accounts count s log) {place buf : Nat} (here : s.posted[place]? = some buf)
    (message : Option (List UInt8)) :
    Accounts count (s.complete place buf message).1 (log ++ (s.complete place buf message).2) := by
  obtain ⟨inside, same⟩ := List.getElem?_eq_some_iff.mp here
  have taken : (buf :: s.posted.eraseIdx place).Perm s.posted := same ▸ List.getElem_cons_eraseIdx_perm inside
  have moved : (s.posted.eraseIdx place ++ (s.rxCq.map Prod.fst ++ buf :: s.thread.buffer)).Perm s.buffers := by
    have out : (s.posted.eraseIdx place ++ s.rxCq.map Prod.fst ++ buf :: s.thread.buffer).Perm _ := List.perm_middle
    simpa [RecvPool.buffers] using out.trans (by
      simpa using taken.append_right (s.rxCq.map Prod.fst ++ s.thread.buffer))
  cases message with
  | none =>
    exact was.move rfl (by simp [RecvPool.complete, RecvPool.waiting])
      (by simpa [RecvPool.complete, RecvPool.buffers] using moved)
  | some message =>
    -- the completions that wait have other buffers
    have beside : s.rxCq.filterMap (fun entry => entry.2.map (Function.update s.data buf (message ++
        (s.data buf).drop message.length) entry.1).take) = s.waiting := by
      refine List.filterMap_congr fun entry member => ?_
      rw [Function.update_of_ne]
      rintro rfl
      have nodup := (List.nodup_append.mp (was.buffers.nodup_iff.mpr List.nodup_range)).1
      rw [RecvPool.buffers, List.append_assoc] at nodup
      exact (List.nodup_append.mp nodup).2.2 _ (List.mem_of_getElem? here) _
        (List.mem_append_left _ (List.mem_map_of_mem member)) rfl
    refine was.move rfl ?_ (by simpa [RecvPool.complete, RecvPool.buffers, RecvNote.lost] using moved)
    simp [RecvPool.complete, RecvPool.waiting, beside, RecvNote.arrived]

theorem poll (was : Accounts count s log) (allocates : Bool) :
    Accounts count (s.step (.poll allocates)).1 (log ++ (s.step (.poll allocates)).2) := by
  simp only [RecvPool.step]
  split
  next buf len rest idle queue =>
    have same : (s.posted ++ (rest.map Prod.fst ++ [buf])).Perm s.buffers := by
      simpa only [RecvPool.buffers, queue, idle, ProgressThread.buffer, List.append_nil, List.map_cons] using
        (List.perm_append_singleton buf (rest.map Prod.fst)).append_left s.posted
    cases len with
    | none =>
      exact was.move rfl (by simp [idle, queue, ProgressThread.held, RecvPool.waiting])
        (by simpa [RecvPool.buffers, ProgressThread.buffer] using same)
    | some len =>
      cases allocates with
      | true =>
        exact was.move rfl (by simp [idle, queue, ProgressThread.held, RecvPool.waiting, Option.filter])
          (by simpa [RecvPool.buffers, ProgressThread.buffer] using same)
      | false =>
        exact was.settle ((s.data buf).take len) (by simp) rfl rfl
          (by simp [idle, queue, ProgressThread.held, RecvPool.waiting]) rfl
          (by simpa [RecvPool.buffers, ProgressThread.buffer] using same)
  · simpa using was

theorem repost (was : Accounts count s log) (posts : Bool) :
    Accounts count (s.step (.repost posts)).1 (log ++ (s.step (.repost posts)).2) := by
  simp only [RecvPool.step]
  split
  next buf copy busy =>
    have held : ((copy.map ProgressThread.dispatching).getD .polling).held = copy.toList := by cases copy <;> rfl
    have free : ((copy.map ProgressThread.dispatching).getD .polling).buffer = [] := by cases copy <;> rfl
    have same : (s.posted ++ (buf :: s.rxCq.map Prod.fst)).Perm s.buffers := by
      simpa only [RecvPool.buffers, busy, ProgressThread.buffer, List.append_assoc] using
        (List.perm_append_singleton buf (s.rxCq.map Prod.fst)).symm.append_left s.posted
    cases posts with
    | true =>
      exact was.move rfl (by simp only [held]; simp [busy, ProgressThread.held, RecvPool.waiting])
        (by simp only [RecvPool.buffers, free]; simpa [RecvPool.buffers] using same)
    | false =>
      exact was.move rfl (by simp only [held]; simp [busy, ProgressThread.held, RecvPool.waiting, RecvNote.arrived])
        (by simp only [RecvPool.buffers, free]; simp [busy, ProgressThread.buffer, RecvNote.lost])
  · simpa using was

theorem step (was : Accounts count s log) (event : RecvEvent) :
    Accounts count (s.step event).1 (log ++ (s.step event).2) := by
  cases event with
  | complete place message =>
    simp only [RecvPool.step]
    split
    next buf here => exact was.complete here _
    · simpa using was
  | poll allocates => exact was.poll allocates
  | repost posts => exact was.repost posts
  | dispatch =>
    simp only [RecvPool.step]
    split
    next copy busy =>
      exact was.settle copy (by simp) rfl rfl (by simp [busy, ProgressThread.held, RecvPool.waiting]) rfl
        (by simp [RecvPool.buffers, busy, ProgressThread.buffer])
    · simpa using was
  | stop =>
    simp only [RecvPool.step]
    split
    next idle =>
      exact was.move rfl (by simp [idle, ProgressThread.held, RecvPool.waiting])
        (by simp [RecvPool.buffers, idle, ProgressThread.buffer])
    · simpa using was

end Accounts

/-- Whatever the provider and the progress thread do in turn: each message that came is dispatched
once, with its own bytes and in the order of the completions, or is given up for want of memory,
or is still on its way; and each buffer is posted, or will be, or was stranded once. -/
theorem fabric_messages_dispatched_once (count : Nat) (events : List RecvEvent) :
    let s := machine.final (.start count) events
    let log := machine.log (.start count) events
    (∃ done, log.flatMap RecvNote.arrived = done ++ (s.thread.held ++ s.waiting) ∧
      List.Forall₂ (fun outcome message => ∀ copy ∈ outcome, copy = message) (log.flatMap RecvNote.outcome) done) ∧
    (s.buffers ++ log.flatMap RecvNote.lost).Perm (List.range count) := by
  have admits : machine.Admits (fun _ _ => True) (.start count) events := machine.admits_of_forall fun _ _ => trivial
  have accounts := machine.run_invariant (Accounts count) (.start count)
    (fun s log event was _ => was.step event) admits
  exact ⟨accounts.messages, accounts.buffers⟩

end RecvPool

end DEFw.Fabric
