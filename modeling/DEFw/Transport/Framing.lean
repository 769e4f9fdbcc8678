import DEFw.Transport.Channel

namespace DEFw.Transport
open Function

/-- The actions that bring the channel forward: all but `EINTR` and a `write`
that takes nothing. -/
def Action.progresses {ι : Type} : Action ι → Bool
  | .write _ (.accepted count) => 0 < count
  | .write _ _ => false
  | .interruptedRead => false
  | _ => true

/-- Three for each byte to be written, and one for each further action of the
thread. A byte under way counts two. -/
def Message.effort (message : Message) : Nat := 3 * (headerSize + message.body.length) + 3

def Sending.effort : Sending → Nat
  | header left after => 3 * (left.length + after.length) + 2
  | body left => 3 * left.length + 1

def Thread.effort (thread : Thread) : Nat :=
  (thread.queue.map Message.effort).sum + thread.sending.elim 0 Sending.effort

def Reader.effort (reader : Reader) : Nat :=
  match reader.stage with
  | .header got => got.length
  | .body _ _ => 1

theorem Sending.effort_begin (sender : Uuid) (message : Message) :
    (Sending.begin sender message).effort + 1 = message.effort := by
  simp [begin, effort, Message.effort]

theorem Sending.effort_advance {sending : Sending} {written rest : List UInt8} (split : written ++ rest = sending.left) :
    (sending.advance rest).effort + 3 * written.length = sending.effort := by
  have lengths := congrArg List.length split
  rw [List.length_append] at lengths
  cases sending with
  | header left after =>
    simp only [Sending.left] at lengths
    simp only [advance, effort]
    omega
  | body left =>
    simp only [Sending.left] at lengths
    simp only [advance, effort]
    omega

theorem Reader.effort_read (reader : Reader) (bytes : List UInt8) :
    (reader.read bytes).effort ≤ reader.effort + bytes.length := by
  obtain ⟨remote, stage, fits⟩ := reader
  cases stage with
  | header got =>
    simp only [read, effort, Stage.push, List.length_append, List.length_take]
    omega
  | body hdr got =>
    simp only [read, effort, Stage.push]
    omega

theorem Reader.effort_proceed {reader : Reader} (handlers : Handlers) (complete : reader.wanted = 0) :
    (reader.proceed handlers).1.effort < reader.effort := by
  obtain ⟨remote, stage, fits⟩ := reader
  cases stage with
  | header got =>
    have whole : got.length = 28 := by
      simp only [wanted, Stage.size, Stage.got, headerSize] at complete fits
      omega
    simp only [proceed, effort]
    cases checkHeader remote got with
    | error rc =>
      simp only [start, List.length_nil]
      omega
    | ok hdr =>
      dsimp only
      omega
  | body hdr got => simp [proceed, effort, start]

/-- A write that comes back with a count takes at least one byte. -/
theorem written_pos {left written rest : List UInt8} {count : Nat} (more : left ≠ []) (positive : 0 < count)
    (wrote : writeOnce left (.accepted count) = some (written, rest)) : 0 < written.length := by
  simp only [writeOnce, Option.some.injEq, Prod.mk.injEq] at wrote
  obtain ⟨rfl, rfl⟩ := wrote
  have nonempty := List.length_pos_iff.mpr more
  rw [List.length_take]
  omega

namespace Channel

variable {ι : Type} [DecidableEq ι]

section Progress

variable [Fintype ι] {sender : Uuid} {handlers : Handlers}

def effort (c : Channel ι) : Nat :=
  ∑ i, (c.threads i).effort + 2 * c.wire.length + c.reader.effort

theorem sum_effort_update (threads : ι → Thread) (i : ι) (thread : Thread) :
    ∑ j, (update threads i thread j).effort + (threads i).effort = ∑ j, (threads j).effort + thread.effort := by
  have updated : (fun j => (update threads i thread j).effort) =
      update (fun j => (threads j).effort) i thread.effort := by
    funext j
    exact apply_update (fun _ => Thread.effort) threads i thread j
  have split := Finset.add_sum_erase Finset.univ (fun j => (threads j).effort) (Finset.mem_univ i)
  rw [updated, Finset.sum_update_of_mem (Finset.mem_univ i), Finset.sdiff_singleton_eq_erase]
  omega

/-- No step raises the effort, and every step that progresses lowers it. -/
theorem effort_moves {c after : Channel ι} {action : Action ι} {received : List Received}
    (moves : Moves sender handlers c action after received) :
    after.effort + action.progresses.toNat ≤ c.effort := by
  cases moves with
  | @lock i message rest free waits =>
    have sums := sum_effort_update c.threads i ⟨rest, some (.begin sender message)⟩
    have begun := Sending.effort_begin sender message
    simp only [waits, Thread.effort, Option.elim_some, Option.elim_none, List.map_cons, List.sum_cons] at sums
    simp only [effort, Thread.effort, Action.progresses, Bool.toNat_true]
    omega
  | @write i result queue sending written left busy more wrote =>
    have sums := sum_effort_update c.threads i ⟨queue, some (sending.advance left)⟩
    have advanced := Sending.effort_advance (writeOnce_append wrote)
    have counted : (Action.write i result).progresses.toNat ≤ written.length := by
      cases result with
      | accepted count =>
        by_cases positive : 0 < count
        · have taken := written_pos more positive wrote
          simp only [Action.progresses, positive, decide_true, Bool.toNat_true]
          omega
        · simp [Action.progresses, positive]
      | interrupted => exact Nat.zero_le _
      | failed => exact Nat.zero_le _
    simp only [busy, Thread.effort, Option.elim_some] at sums
    simp only [effort, Thread.effort, List.length_append]
    omega
  | @body i queue body busy =>
    have sums := sum_effort_update c.threads i ⟨queue, some (.body body)⟩
    simp only [busy, Thread.effort, Option.elim_some, Sending.effort, List.length_nil] at sums
    simp only [effort, Thread.effort, Action.progresses, Bool.toNat_true]
    omega
  | @unlock i queue busy =>
    have sums := sum_effort_update c.threads i ⟨queue, none⟩
    simp only [busy, Thread.effort, Option.elim_some, Option.elim_none, Sending.effort, List.length_nil] at sums
    simp only [effort, Thread.effort, Action.progresses, Bool.toNat_true]
    omega
  | @read count positive wanted there =>
    have reading := Reader.effort_read c.reader (c.wire.take count)
    rw [List.length_take] at reading
    simp only [effort, Action.progresses, Bool.toNat_true, List.length_drop]
    omega
  | interruptedRead => exact Nat.le_refl _
  | proceed complete =>
    have reading := Reader.effort_proceed handlers complete
    simp only [effort, Action.progresses, Bool.toNat_true]
    omega

end Progress

/-- Nothing can bring the channel forward. -/
def Blocked (sender : Uuid) (handlers : Handlers) (c : Channel ι) : Prop :=
  ∀ action : Action ι, action.progresses = true → ¬ Enabled sender handlers c action

section Blocked

variable {sender remote : Uuid} {handlers : Handlers} {messages : ι → List Message} {c : Channel ι}
  {log : List Received} {sent : List (ι × Message)} {consumed : List UInt8}

theorem Blocked.wants (blocked : Blocked sender handlers c) : 0 < c.reader.wanted := by
  by_contra nothing
  have complete : c.reader.wanted = 0 := by omega
  exact blocked .proceed rfl (by simp [Enabled, next, complete])

theorem Blocked.wire_empty (blocked : Blocked sender handlers c) : c.wire = [] := by
  by_contra some
  have wants := blocked.wants
  have there := List.length_pos_iff.mpr some
  have possible : 0 < 1 ∧ 1 ≤ c.reader.wanted ∧ 1 ≤ c.wire.length := by omega
  exact blocked (.read 1) rfl (by simp only [Enabled, next, if_pos possible, Option.isSome_some])

/-- The holder of the mutex can always go on. -/
theorem Blocked.not_sending (blocked : Blocked sender handlers c) (i : ι) : (c.threads i).sending = none := by
  cases current : c.threads i with
  | mk queue sending =>
    cases sending with
    | none => rfl
    | some sending =>
      by_cases finished : sending.left = []
      · cases sending with
        | header left after =>
          cases finished
          exact absurd (by simp [Enabled, next, current]) (blocked (.body i) rfl)
        | body left =>
          cases finished
          exact absurd (by simp [Enabled, next, current]) (blocked (.unlock i) rfl)
      · exact absurd (by simp [Enabled, next, current, finished, writeOnce]) (blocked (.write i (.accepted 1)) rfl)

theorem Blocked.mutex_free (blocked : Blocked sender handlers c)
    (explains : Explains sender handlers remote messages sent consumed c log) : c.mutex = none := by
  cases holder : c.mutex with
  | none => rfl
  | some i =>
    have busy := (explains.held i).mpr holder
    rw [blocked.not_sending i] at busy
    cases busy

theorem Blocked.queue_empty (blocked : Blocked sender handlers c)
    (explains : Explains sender handlers remote messages sent consumed c log) (i : ι) : (c.threads i).queue = [] := by
  have free := blocked.mutex_free explains
  have idle := blocked.not_sending i
  cases current : c.threads i with
  | mk queue sending =>
    rw [current] at idle
    cases queue with
    | nil => rfl
    | cons message rest =>
      dsimp only at idle
      subst idle
      exact absurd (by simp [Enabled, next, current, free]) (blocked (.lock i) rfl)

theorem Blocked.decodes_rest (blocked : Blocked sender handlers c)
    (explains : Explains sender handlers remote messages sent consumed c log) :
    c.reader.decodes handlers (c.wire ++ c.pending) = [] := by
  rw [blocked.wire_empty, pending, blocked.mutex_free explains]
  exact Reader.decodes_waits blocked.wants

end Blocked

/-- Whatever the threads, the schedule, the short writes and reads and the
interruptions: what the peer hands over is an interleaving of beginnings of
the threads' messages, of all of them once nothing can go on, and only so many
steps can bring the channel forward. -/
theorem tcp_framing_lossless [Fintype ι] (sender remote : Uuid) (handlers : Handlers) (messages : ι → List Message)
    (trusts : Trusts sender remote) (keeps : ∀ i, ∀ message ∈ messages i, handlers.Keeps sender message)
    (actions : List (Action ι))
    (admits : (machine sender handlers).Admits (Enabled sender handlers) (start remote messages) actions) :
    (∃ merged : List (ι × Message),
      (machine sender handlers).log (start remote messages) actions =
        merged.map (fun item => .ok (item.2.frame sender)) ∧
      (∀ i, Interleaving.part i merged <+: messages i) ∧
      (Blocked sender handlers ((machine sender handlers).final (start remote messages) actions) →
        ∀ i, Interleaving.part i merged = messages i)) ∧
    actions.countP Action.progresses ≤ ∑ i, ((messages i).map Message.effort).sum := by
  constructor
  · obtain ⟨sent, consumed, explains⟩ := explains_run admits
    generalize (machine sender handlers).log (start remote messages) actions = log at explains ⊢
    generalize (machine sender handlers).final (start remote messages) actions = c at explains ⊢
    have whole := explains.log_eq trusts keeps
    have delivered : log = (sent.take log.length).map (fun item => .ok (item.2.frame sender)) := by
      rw [List.map_take, ← whole, List.take_left' rfl]
    refine ⟨sent.take log.length, delivered, ?_, ?_⟩
    · intro i
      rw [← explains.inOrder i]
      exact (Interleaving.part_prefix i (List.take_prefix _ _)).trans (List.prefix_append _ _)
    · intro blocked i
      rw [blocked.decodes_rest explains, List.append_nil] at whole
      have all : sent.take log.length = sent := by
        rw [whole, List.length_map, List.take_length]
      rw [all, ← explains.inOrder i, blocked.queue_empty explains i, List.append_nil]
  · have bound := Machine.countP_le_measure (machine sender handlers) Action.progresses effort
      (fun state action enabled => effort_moves (moves_of_enabled enabled)) admits
    have initial : (start remote messages).effort = ∑ i, ((messages i).map Message.effort).sum := by
      simp [effort, start, Thread.effort, Reader.start, Reader.effort]
    omega

/-- Two threads, one of them with a message without a body. -/
def twoThreads : Bool → List Message
  | false => [⟨.pyRequest, [1, 2], by decide⟩]
  | true => [⟨.pyResponse, [], by decide⟩]

/-- A schedule with short writes and reads and with interruptions. -/
def brokenUp : List (Action Bool) :=
  [.lock true, .write true (.accepted 10), .read 4, .write true .interrupted, .write true (.accepted 18), .body true,
    .unlock true, .lock false, .read 24, .proceed, .write false (.accepted 28), .proceed, .body false,
    .write false (.accepted 1), .interruptedRead, .read 28, .proceed, .read 1, .write false (.accepted 1),
    .unlock false, .read 1, .proceed]

theorem tcp_framing_lossless_two_threads :
    (machine (Uuid.filled 7) msgProcessTbl).log (start (Uuid.filled 0) twoThreads) brokenUp =
      [.ok ⟨.pyResponse, Uuid.filled 7, []⟩, .ok ⟨.pyRequest, Uuid.filled 7, [1, 2]⟩] ∧
    (∃ merged : List (Bool × Message),
      (machine (Uuid.filled 7) msgProcessTbl).log (start (Uuid.filled 0) twoThreads) brokenUp =
        merged.map (fun item => .ok (item.2.frame (Uuid.filled 7))) ∧
      ∀ i, Interleaving.part i merged <+: twoThreads i) ∧
    brokenUp.countP Action.progresses ≤ ∑ i, ((twoThreads i).map Message.effort).sum := by
  have keeps : ∀ i, ∀ message ∈ twoThreads i, msgProcessTbl.Keeps (Uuid.filled 7) message := by
    intro i message member
    apply msgProcessTbl_keeps
    cases i with
    | false =>
      obtain rfl := List.mem_singleton.mp member
      rintro (hb | session)
      · cases hb
      · cases session
    | true =>
      obtain rfl := List.mem_singleton.mp member
      rintro (hb | session)
      · cases hb
      · cases session
  obtain ⟨⟨merged, log, begins, _⟩, bound⟩ :=
    tcp_framing_lossless (Uuid.filled 7) (Uuid.filled 0) msgProcessTbl twoThreads (.inl rfl) keeps brokenUp (by decide)
  exact ⟨rfl, ⟨merged, log, begins⟩, bound⟩

/-- A heartbeat of full size that carries another uuid than its sender's. -/
def foreignHeartbeat : Message where
  type := .hb
  body := (Uuid.filled 9).bytes ++ List.replicate 2340 0
  short := by
    rw [List.length_append, Uuid.size, List.length_replicate]
    decide

def heartbeatThenRequest : Unit → List Message := fun _ => [foreignHeartbeat, ⟨.pyRequest, [], by decide⟩]

/-- Both messages are written and read at once. -/
def wholeFrames : List (Action Unit) :=
  [.lock (), .write () (.accepted 28), .body (), .write () (.accepted 2356), .unlock (), .read 28, .proceed, .read 2356,
    .proceed, .lock (), .write () (.accepted 28), .body (), .unlock (), .read 28, .proceed]

/-- After a heartbeat that names another peer, the next frame of the
connection is refused. -/
theorem frame_refused_after_foreign_heartbeat :
    (machine (Uuid.filled 7) msgProcessTbl).Admits (Enabled (Uuid.filled 7) msgProcessTbl)
      (start (Uuid.filled 0) heartbeatThenRequest) wholeFrames ∧
    (machine (Uuid.filled 7) msgProcessTbl).log (start (Uuid.filled 0) heartbeatThenRequest) wholeFrames =
      [.ok (foreignHeartbeat.frame (Uuid.filled 7)), .error .badAddr] ∧
    (((machine (Uuid.filled 7) msgProcessTbl).final (start (Uuid.filled 0) heartbeatThenRequest)
      wholeFrames).threads ()).queue = [] ∧
    ((machine (Uuid.filled 7) msgProcessTbl).final (start (Uuid.filled 0) heartbeatThenRequest) wholeFrames).wire = [] := by
  decide +kernel

end Channel

end DEFw.Transport
