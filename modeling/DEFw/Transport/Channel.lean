import Mathlib.Algebra.BigOperators.Fin
import DEFw.Lib.Interleaving
import DEFw.Lib.Machine
import DEFw.Transport.Receive
import DEFw.Transport.Write

namespace DEFw.Transport
open Function

/-- Where a thread stands inside `defw_send_msg`: in the write loop of the
header, with the body still to come, or in that of the body. -/
inductive Sending
  | header (left body : List UInt8)
  | body (left : List UInt8)

namespace Sending

/-- `defw_send_msg` with its header populated. -/
def begin (sender : Uuid) (message : Message) : Sending := header (message.header sender) message.body

/-- The bytes that the current `sendTcpMessage` has left. -/
def left : Sending → List UInt8
  | header left _ => left
  | body left => left

def advance (left : List UInt8) : Sending → Sending
  | header _ after => header left after
  | body _ => body left

/-- The bytes of the message that are not written yet. -/
def pending : Sending → List UInt8
  | header left after => left ++ after
  | body left => left

theorem pending_advance {sending : Sending} {written rest : List UInt8} (split : written ++ rest = sending.left) :
    written ++ (sending.advance rest).pending = sending.pending := by
  cases sending with
  | header left after =>
    change written ++ (rest ++ after) = left ++ after
    rw [← List.append_assoc, split]
    rfl
  | body left => exact split

end Sending

/-- A thread with the messages it has yet to pass to `tcp_send`. -/
structure Thread where
  queue : List Message
  sending : Option Sending

/-- One channel of an agent: its threads, its send mutex, the bytes under way
and the peer that reads them. -/
structure Channel (ι : Type) where
  threads : ι → Thread
  mutex : Option ι
  wire : List UInt8
  reader : Reader

inductive Action (ι : Type)
  | lock (thread : ι)
  | write (thread : ι) (result : WriteResult)
  | body (thread : ι)
  | unlock (thread : ι)
  | read (count : Nat)
  | interruptedRead
  | proceed

namespace Channel

def start {ι : Type} (remote : Uuid) (messages : ι → List Message) : Channel ι :=
  ⟨fun i => ⟨messages i, none⟩, none, [], Reader.start remote⟩

variable {ι : Type} [DecidableEq ι]

/-- `tcp_send` at the sender and `process_agent_message` at the receiver, one
system call or mutex operation at a time. `none` when the action cannot happen
now. -/
def next (sender : Uuid) (handlers : Handlers) (c : Channel ι) : Action ι → Option (Channel ι × List Received)
  | .lock i =>
    match c.mutex, c.threads i with
    | none, ⟨message :: rest, none⟩ =>
      some ({ c with mutex := some i, threads := update c.threads i ⟨rest, some (.begin sender message)⟩ }, [])
    | _, _ => none
  | .write i result =>
    match c.threads i with
    | ⟨queue, some sending⟩ =>
      if sending.left = [] then none
      else
        match writeOnce sending.left result with
        | none => none
        | some (written, left) =>
          some ({ c with
            threads := update c.threads i ⟨queue, some (sending.advance left)⟩
            wire := c.wire ++ written }, [])
    | _ => none
  -- An empty body is not sent. Its loop would make no round.
  | .body i =>
    match c.threads i with
    | ⟨queue, some (.header [] body)⟩ => some ({ c with threads := update c.threads i ⟨queue, some (.body body)⟩ }, [])
    | _ => none
  | .unlock i =>
    match c.threads i with
    | ⟨queue, some (.body [])⟩ => some ({ c with mutex := none, threads := update c.threads i ⟨queue, none⟩ }, [])
    | _ => none
  | .read count =>
    if 0 < count ∧ count ≤ c.reader.wanted ∧ count ≤ c.wire.length then
      some ({ c with wire := c.wire.drop count, reader := c.reader.read (c.wire.take count) }, [])
    else none
  | .interruptedRead => if 0 < c.reader.wanted then some (c, []) else none
  | .proceed =>
    if c.reader.wanted = 0 then
      some ({ c with reader := (c.reader.proceed handlers).1 }, (c.reader.proceed handlers).2)
    else none

/-- The channel as a machine that logs what the receiver hands over. -/
def machine (sender : Uuid) (handlers : Handlers) : Machine (Channel ι) (Action ι) Received where
  step c action := (next sender handlers c action).getD (c, [])

def Enabled (sender : Uuid) (handlers : Handlers) (c : Channel ι) (action : Action ι) : Prop :=
  (next sender handlers c action).isSome

instance (sender : Uuid) (handlers : Handlers) (c : Channel ι) (action : Action ι) :
    Decidable (Enabled sender handlers c action) :=
  inferInstanceAs (Decidable (_ = true))

/-- What an action can do. -/
inductive Moves (sender : Uuid) (handlers : Handlers) (c : Channel ι) : Action ι → Channel ι → List Received → Prop
  | lock {i message rest} (free : c.mutex = none) (waits : c.threads i = ⟨message :: rest, none⟩) :
      Moves sender handlers c (.lock i)
        { c with mutex := some i, threads := update c.threads i ⟨rest, some (.begin sender message)⟩ } []
  | write {i result queue sending written left} (busy : c.threads i = ⟨queue, some sending⟩) (more : sending.left ≠ [])
      (wrote : writeOnce sending.left result = some (written, left)) :
      Moves sender handlers c (.write i result)
        { c with threads := update c.threads i ⟨queue, some (sending.advance left)⟩, wire := c.wire ++ written } []
  | body {i queue body} (busy : c.threads i = ⟨queue, some (.header [] body)⟩) :
      Moves sender handlers c (.body i) { c with threads := update c.threads i ⟨queue, some (.body body)⟩ } []
  | unlock {i queue} (busy : c.threads i = ⟨queue, some (.body [])⟩) :
      Moves sender handlers c (.unlock i) { c with mutex := none, threads := update c.threads i ⟨queue, none⟩ } []
  | read {count} (some : 0 < count) (wanted : count ≤ c.reader.wanted) (there : count ≤ c.wire.length) :
      Moves sender handlers c (.read count)
        { c with wire := c.wire.drop count, reader := c.reader.read (c.wire.take count) } []
  | interruptedRead : Moves sender handlers c .interruptedRead c []
  | proceed (complete : c.reader.wanted = 0) :
      Moves sender handlers c .proceed { c with reader := (c.reader.proceed handlers).1 } (c.reader.proceed handlers).2

section Step

variable {sender : Uuid} {handlers : Handlers} {c : Channel ι}

theorem moves_of_next {action : Action ι} {result : Channel ι × List Received}
    (happens : next sender handlers c action = some result) : Moves sender handlers c action result.1 result.2 := by
  cases action with
  | lock i =>
    simp only [next] at happens
    split at happens
    · next message rest free waits => cases happens; exact .lock free waits
    · cases happens
  | write i writeResult =>
    simp only [next] at happens
    split at happens
    · next queue sending busy =>
      split at happens
      · cases happens
      · next more =>
        split at happens
        · cases happens
        · next written left wrote => cases happens; exact .write busy more wrote
    · cases happens
  | body i =>
    simp only [next] at happens
    split at happens
    · next queue body busy => cases happens; exact .body busy
    · cases happens
  | unlock i =>
    simp only [next] at happens
    split at happens
    · next queue busy => cases happens; exact .unlock busy
    · cases happens
  | read count =>
    simp only [next] at happens
    split at happens
    · next bounds => cases happens; exact .read bounds.1 bounds.2.1 bounds.2.2
    · cases happens
  | interruptedRead =>
    simp only [next] at happens
    split at happens
    · cases happens; exact .interruptedRead
    · cases happens
  | proceed =>
    simp only [next] at happens
    split at happens
    · next complete => cases happens; exact .proceed complete
    · cases happens

theorem moves_of_enabled {action : Action ι} (enabled : Enabled sender handlers c action) :
    Moves sender handlers c action ((machine sender handlers).step c action).1
      ((machine sender handlers).step c action).2 := by
  obtain ⟨result, happens⟩ := Option.isSome_iff_exists.mp enabled
  have stepped : (machine sender handlers).step c action = result := by
    simp only [machine, happens, Option.getD_some]
  rw [stepped]
  exact moves_of_next happens

end Step

/-- The bytes that the holder of the mutex has still to write. -/
def pending (c : Channel ι) : List UInt8 :=
  match c.mutex with
  | none => []
  | some i => (c.threads i).sending.elim [] Sending.pending

/-- The channel after some steps: `sent` lists the messages in the order in
which the mutex was taken for them, `consumed` the bytes the peer has read. -/
structure Explains (sender : Uuid) (handlers : Handlers) (remote : Uuid) (messages : ι → List Message)
    (sent : List (ι × Message)) (consumed : List UInt8) (c : Channel ι) (log : List Received) : Prop where
  inOrder : ∀ i, Interleaving.part i sent ++ (c.threads i).queue = messages i
  held : ∀ i, (c.threads i).sending.isSome ↔ c.mutex = some i
  stream : consumed ++ (c.wire ++ c.pending) = sent.flatMap (fun item => item.2.bytes sender)
  decoded : ∀ ahead, decodeAll handlers remote (consumed ++ ahead) = log ++ c.reader.decodes handlers ahead

theorem explains_start (sender : Uuid) (handlers : Handlers) (remote : Uuid) (messages : ι → List Message) :
    Explains sender handlers remote messages [] [] (start remote messages) [] where
  inOrder _ := rfl
  held _ := by simp [start]
  stream := rfl
  decoded _ := rfl

section Invariant

variable {sender remote : Uuid} {handlers : Handlers} {messages : ι → List Message} {c : Channel ι}
  {log : List Received} {sent : List (ι × Message)} {consumed : List UInt8}

/-- A step of the mutex holder that leaves its queue alone keeps the order. -/
theorem Explains.inOrder_update (explains : Explains sender handlers remote messages sent consumed c log) {i : ι}
    {queue : List Message} {before after : Option Sending} (current : c.threads i = ⟨queue, before⟩) (j : ι) :
    Interleaving.part j sent ++ (update c.threads i ⟨queue, after⟩ j).queue = messages j := by
  have order := explains.inOrder j
  by_cases same : j = i
  · subst same
    rw [update_self]
    rwa [current] at order
  · rwa [update_of_ne same]

theorem Explains.held_update (explains : Explains sender handlers remote messages sent consumed c log) {i : ι}
    {queue rest : List Message} {before after : Sending} (current : c.threads i = ⟨queue, some before⟩) (j : ι) :
    (update c.threads i ⟨rest, some after⟩ j).sending.isSome ↔ c.mutex = some j := by
  have holds := explains.held j
  by_cases same : j = i
  · subst same
    rw [update_self]
    rw [current] at holds
    exact holds
  · rwa [update_of_ne same]

theorem Explains.holder (explains : Explains sender handlers remote messages sent consumed c log) {i : ι}
    {queue : List Message} {sending : Sending} (current : c.threads i = ⟨queue, some sending⟩) : c.mutex = some i :=
  (explains.held i).mp (by rw [current]; rfl)

theorem Explains.pending_holder (explains : Explains sender handlers remote messages sent consumed c log) {i : ι}
    {queue : List Message} {sending : Sending} (current : c.threads i = ⟨queue, some sending⟩) :
    c.pending = sending.pending := by
  rw [pending, explains.holder current]
  simp only [current, Option.elim_some]

/-- Whoever takes the mutex has its message sent next. -/
theorem Explains.lock (explains : Explains sender handlers remote messages sent consumed c log) {i : ι}
    {message : Message} {rest : List Message} (free : c.mutex = none) (waits : c.threads i = ⟨message :: rest, none⟩) :
    Explains sender handlers remote messages (sent ++ [(i, message)]) consumed
      { c with mutex := some i, threads := update c.threads i ⟨rest, some (.begin sender message)⟩ } log where
  inOrder j := by
    have order := explains.inOrder j
    dsimp only
    by_cases same : j = i
    · subst same
      rw [waits] at order
      rw [Interleaving.part_concat_self, update_self, List.append_assoc]
      exact order
    · rwa [Interleaving.part_concat_other (Ne.symm same), update_of_ne same]
  held j := by
    by_cases same : j = i
    · subst same
      simp
    · have idle := explains.held j
      rw [free] at idle
      simpa [update_of_ne same, Ne.symm same] using idle
  stream := by
    have stream := explains.stream
    simp only [pending, free, List.append_nil] at stream
    simp only [pending, update_self, Option.elim_some, Sending.begin, Sending.pending, List.flatMap_append, ← stream,
      List.flatMap_singleton, List.append_assoc]
    rfl
  decoded := explains.decoded

/-- The holder of the mutex moves bytes from its message to the wire. -/
theorem Explains.advance (explains : Explains sender handlers remote messages sent consumed c log) {i : ι}
    {queue : List Message} {before after : Sending} {written : List UInt8}
    (busy : c.threads i = ⟨queue, some before⟩) (moved : written ++ after.pending = before.pending) :
    Explains sender handlers remote messages sent consumed
      { c with threads := update c.threads i ⟨queue, some after⟩, wire := c.wire ++ written } log where
  inOrder := explains.inOrder_update busy
  held := explains.held_update busy
  stream := by
    have stream := explains.stream
    rw [explains.pending_holder busy, ← moved] at stream
    simpa [pending, explains.holder busy, List.append_assoc] using stream
  decoded := explains.decoded

theorem Explains.unlock (explains : Explains sender handlers remote messages sent consumed c log) {i : ι}
    {queue : List Message} (busy : c.threads i = ⟨queue, some (.body [])⟩) :
    Explains sender handlers remote messages sent consumed
      { c with mutex := none, threads := update c.threads i ⟨queue, none⟩ } log where
  inOrder := explains.inOrder_update busy
  held j := by
    by_cases same : j = i
    · subst same
      simp
    · have idle := explains.held j
      rw [explains.holder busy] at idle
      simpa [update_of_ne same, Ne.symm same] using idle
  stream := by
    have stream := explains.stream
    rw [explains.pending_holder busy] at stream
    simpa [pending, Sending.pending] using stream
  decoded := explains.decoded

theorem Explains.read (explains : Explains sender handlers remote messages sent consumed c log) {count : Nat}
    (wanted : count ≤ c.reader.wanted) :
    Explains sender handlers remote messages sent (consumed ++ c.wire.take count)
      { c with wire := c.wire.drop count, reader := c.reader.read (c.wire.take count) } log where
  inOrder := explains.inOrder
  held := explains.held
  stream := by
    change consumed ++ c.wire.take count ++ (c.wire.drop count ++ c.pending) = _
    rw [List.append_assoc, ← List.append_assoc (c.wire.take count), List.take_append_drop]
    exact explains.stream
  decoded ahead := by
    have bounded : (c.wire.take count).length ≤ c.reader.wanted := by
      rw [List.length_take]
      omega
    rw [Reader.decodes_read bounded, ← explains.decoded, List.append_assoc]

theorem Explains.proceed (explains : Explains sender handlers remote messages sent consumed c log)
    (complete : c.reader.wanted = 0) :
    Explains sender handlers remote messages sent consumed { c with reader := (c.reader.proceed handlers).1 }
      (log ++ (c.reader.proceed handlers).2) where
  inOrder := explains.inOrder
  held := explains.held
  stream := explains.stream
  decoded ahead := by rw [explains.decoded, Reader.decodes_proceed complete, List.append_assoc]

/-- One step is explained when the state before it was. -/
theorem explains_step {action : Action ι} {after : Channel ι} {received : List Received}
    (explains : Explains sender handlers remote messages sent consumed c log)
    (moves : Moves sender handlers c action after received) :
    ∃ sent consumed, Explains sender handlers remote messages sent consumed after (log ++ received) := by
  cases moves with
  | lock free waits =>
    rw [List.append_nil]
    exact ⟨_, _, explains.lock free waits⟩
  | write busy more wrote =>
    rw [List.append_nil]
    exact ⟨_, _, explains.advance busy (Sending.pending_advance (writeOnce_append wrote))⟩
  | @body i queue body busy =>
    have nothing : [] ++ (Sending.body body).pending = (Sending.header [] body).pending := rfl
    have explained := explains.advance busy nothing
    rw [List.append_nil] at explained ⊢
    exact ⟨_, _, explained⟩
  | unlock busy =>
    rw [List.append_nil]
    exact ⟨_, _, explains.unlock busy⟩
  | read positive wanted there =>
    rw [List.append_nil]
    exact ⟨_, _, explains.read wanted⟩
  | interruptedRead =>
    rw [List.append_nil]
    exact ⟨_, _, explains⟩
  | proceed complete => exact ⟨_, _, explains.proceed complete⟩

/-- Every run is explained. -/
theorem explains_run {actions : List (Action ι)}
    (admits : (machine sender handlers).Admits (Enabled sender handlers) (start remote messages) actions) :
    ∃ sent consumed, Explains sender handlers remote messages sent consumed
      ((machine sender handlers).final (start remote messages) actions)
      ((machine sender handlers).log (start remote messages) actions) := by
  refine Machine.run_invariant (machine sender handlers)
    (fun state log => ∃ sent consumed, Explains sender handlers remote messages sent consumed state log)
    ⟨[], [], explains_start sender handlers remote messages⟩ ?_ admits
  rintro state log action ⟨sent, consumed, explains⟩ enabled
  exact explains_step explains (moves_of_enabled enabled)

/-- What was handed over is the beginning of what was sent. -/
theorem Explains.log_eq (explains : Explains sender handlers remote messages sent consumed c log)
    (trusts : Trusts sender remote) (keeps : ∀ i, ∀ message ∈ messages i, handlers.Keeps sender message) :
    log ++ c.reader.decodes handlers (c.wire ++ c.pending) = sent.map (fun item => .ok (item.2.frame sender)) := by
  have kept : ∀ message ∈ sent.map Prod.snd, handlers.Keeps sender message := by
    intro message member
    obtain ⟨⟨i, _⟩, found, rfl⟩ := List.mem_map.mp member
    have listed := List.mem_append_left (c.threads i).queue (Interleaving.mem_part found)
    rw [explains.inOrder] at listed
    exact keeps i _ listed
  have whole := decodeAll_messages trusts kept
  rw [List.flatMap_map, List.map_map] at whole
  rw [← explains.decoded, explains.stream]
  exact whole

end Invariant

end Channel

end DEFw.Transport
