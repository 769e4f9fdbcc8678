import DEFw.Agents.Block
import DEFw.Lib.Machine

namespace DEFw.Fabric
open Agents (DefwRc)

/-- A call of `ofi_send_msg`, with the outcome of its `malloc`, or of
`defw_transport_ofi_rma_read` on a peer's region, with the buffer and length it is given. -/
inductive Request where
  | sendMsg (allocated : Bool)
  | rmaRead (region : Nat) (buf : Bool) (len : Nat)
  deriving DecidableEq

/-- An operation that the provider has accepted. -/
structure Operation where
  number : Nat
  request : Request
  deriving DecidableEq

/-- An entry of the transmit queue: a completion, or an error. -/
structure Entry where
  operation : Operation
  ok : Bool
  deriving DecidableEq

inductive Stage where
  | issuing
  | waiting (operation : Operation)
  deriving DecidableEq

/-- A call that holds `send_lock`. -/
structure Call where
  thread : Nat
  request : Request
  stage : Stage
  deriving DecidableEq

/-- The transmit side of the endpoint. `issued` counts the accepted operations, `flight` are those
the provider has not completed, and `filled` those it has carried out. -/
structure Transmit where
  up : Bool
  rmaCapable : Bool
  sendLock : Option Call
  issued : Nat
  flight : List Operation
  txCq : List Entry
  filled : List Operation
  deriving DecidableEq

/-- The endpoint after its set-up. -/
def Transmit.start (rmaCapable : Bool) : Transmit := ⟨true, rmaCapable, none, 0, [], [], []⟩

/-- What `fi_send` or `fi_read` returns: 0, `-FI_EAGAIN` or another error. -/
inductive Issue where
  | accepted
  | again
  | failed
  deriving DecidableEq

/-- What `fi_cq_sread` returns: the first entry if there is one and `-FI_EAGAIN` otherwise, or
another error. -/
inductive Wait where
  | entry
  | failed
  deriving DecidableEq

/-- A step of a thread, or the completion of an operation, whose entry comes at any place of the queue. -/
inductive Action where
  | begin (thread : Nat) (request : Request)
  | issue (answer : Issue)
  | wait (answer : Wait)
  | complete (number : Nat) (ok : Bool) (place : Nat)
  deriving DecidableEq

/-- A call that returned, the operation it issued and the one whose entry it took. -/
structure Returned where
  thread : Nat
  request : Request
  issued : Option Operation
  consumed : Option Operation
  filled : Bool
  rc : DefwRc
  deriving DecidableEq

/-- What is checked before the lock is taken. -/
def Transmit.refusal (t : Transmit) : Request → Option DefwRc
  | .sendMsg allocated => if allocated then none else some .oom
  | .rmaRead _ buf len => if !buf || len = 0 then some .badParam else if !t.up || !t.rmaCapable then some .fail else none

/-- `fi_cq_read` of one entry, which leaves an error where it is. -/
def cqRead : List Entry → List Entry
  | [] => []
  | entry :: rest => if entry.ok then rest else entry :: rest

/-- The unlocking and the return of the call. -/
def Transmit.leave (t : Transmit) (call : Call) (issued consumed : Option Operation) (rc : DefwRc) :
    Transmit × List Returned :=
  ({ t with sendLock := none },
    [⟨call.thread, call.request, issued, consumed, issued.any (fun operation => operation ∈ t.filled), rc⟩])

/-- The loop on `-FI_EAGAIN`, once. -/
def Transmit.issue (t : Transmit) (call : Call) : Issue → Transmit × List Returned
  | .accepted =>
    let operation : Operation := ⟨t.issued, call.request⟩
    ({ t with sendLock := some { call with stage := .waiting operation }, issued := t.issued + 1,
              flight := t.flight ++ [operation] }, [])
  | .again => ({ t with txCq := cqRead t.txCq }, [])
  | .failed => t.leave call none none .socketFail

/-- `fi_cq_sread` and what follows it. -/
def Transmit.wait (t : Transmit) (call : Call) (operation : Operation) : Wait → Transmit × List Returned
  | .entry =>
    match t.txCq with
    | [] => t.leave call (some operation) none .timeout
    | entry :: rest =>
      { t with txCq := rest }.leave call (some operation) (some entry.operation) (if entry.ok then .ok else .socketFail)
  | .failed => t.leave call (some operation) none .socketFail

/-- The provider is done with an operation. -/
def Transmit.complete (t : Transmit) (number : Nat) (ok : Bool) (place : Nat) : Transmit :=
  match t.flight.find? (fun operation => operation.number = number) with
  | none => t
  | some operation =>
    { t with flight := t.flight.filter (fun other => other.number ≠ number)
             txCq := t.txCq.take place ++ ⟨operation, ok⟩ :: t.txCq.drop place
             filled := if ok then t.filled ++ [operation] else t.filled }

/-- A thread that finds the lock taken waits: its call begins when the lock is free. -/
def Transmit.begin (t : Transmit) (thread : Nat) (request : Request) : Transmit × List Returned :=
  match t.refusal request with
  | some rc => (t, [⟨thread, request, none, none, false, rc⟩])
  | none => if t.sendLock = none then ({ t with sendLock := some ⟨thread, request, .issuing⟩ }, []) else (t, [])

def Transmit.step (t : Transmit) : Action → Transmit × List Returned
  | .begin thread request => t.begin thread request
  | .issue answer =>
    match t.sendLock with
    | some ⟨thread, request, .issuing⟩ => t.issue ⟨thread, request, .issuing⟩ answer
    | _ => (t, [])
  | .wait answer =>
    match t.sendLock with
    | some ⟨thread, request, .waiting operation⟩ => t.wait ⟨thread, request, .waiting operation⟩ operation answer
    | _ => (t, [])
  | .complete number ok place => (t.complete number ok place, [])

def transmit : Machine Transmit Action Returned := ⟨Transmit.step⟩

/-- The operation whose completion the holder of the lock waits for. -/
def Transmit.awaited (t : Transmit) : Option Operation :=
  match t.sendLock with
  | some ⟨_, _, .waiting operation⟩ => some operation
  | _ => none

/-- A call returned `EN_DEFW_RC_OK` for its own operation, which was carried out. -/
def Returned.Attributed (returned : Returned) : Prop :=
  returned.rc = .ok → ∃ operation, returned.issued = some operation ∧ returned.consumed = some operation ∧
    operation.request = returned.request ∧ returned.filled = true

/-- An operation completes while its call waits for it, if it ever does, and a wait that fails finds
no entry. -/
def Timely (t : Transmit) : Action → Prop
  | .complete number _ _ => t.awaited.map Operation.number = some number
  | .wait .failed => t.txCq = []
  | _ => True

instance (t : Transmit) (action : Action) : Decidable (Timely t action) := by
  cases action with
  | begin | issue => exact .isTrue trivial
  | wait answer =>
    cases answer with
    | entry => exact .isTrue trivial
    | failed => exact inferInstanceAs (Decidable (t.txCq = []))
  | complete number => exact inferInstanceAs (Decidable (t.awaited.map Operation.number = some number))

/-- The queue holds nothing but the entry of the awaited operation. -/
structure Transmit.Sound (t : Transmit) : Prop where
  numbered : ∀ operation ∈ t.flight, operation.number < t.issued
  own : ∀ operation ∈ t.awaited, ∀ other ∈ t.flight, other.number = operation.number → other = operation
  single : t.txCq.length ≤ 1
  queued : ∀ entry ∈ t.txCq, t.awaited = some entry.operation ∧ (entry.ok = true → entry.operation ∈ t.filled) ∧
    ∀ other ∈ t.flight, other.number ≠ entry.operation.number
  asked : ∀ call ∈ t.sendLock, ∀ operation, call.stage = .waiting operation → operation.request = call.request

theorem Transmit.sound_start (rmaCapable : Bool) : (Transmit.start rmaCapable).Sound := by
  constructor <;> simp [Transmit.start, Transmit.awaited]

/-- The lock changes hands while the queue is empty. -/
theorem Transmit.Sound.relock {t : Transmit} (sound : t.Sound) (empty : t.txCq = []) {holder : Option Call}
    (idle : ∀ call ∈ holder, call.stage = .issuing) : Transmit.Sound { t with sendLock := holder } := by
  have none : Transmit.awaited { t with sendLock := holder } = none := by
    cases holder with
    | none => rfl
    | some call =>
      obtain ⟨thread, request, stage⟩ := call
      obtain rfl : stage = .issuing := idle _ rfl
      rfl
  refine ⟨sound.numbered, ?_, sound.single, ?_, ?_⟩
  · intro operation awaited
    rw [none] at awaited
    cases awaited
  · intro entry member
    rw [show t.txCq = [] from empty] at member
    cases member
  · intro call held operation waiting
    rw [idle call held] at waiting
    cases waiting

theorem Transmit.Sound.empty {t : Transmit} (sound : t.Sound) (none : t.awaited = none) : t.txCq = [] := by
  cases queue : t.txCq with
  | nil => rfl
  | cons entry rest =>
    have := (sound.queued entry (by simp [queue])).1
    rw [none] at this
    cases this

/-- A call gives up while the queue is empty. -/
theorem Transmit.Sound.leave {t : Transmit} (sound : t.Sound) (empty : t.txCq = []) (call : Call)
    (issued consumed : Option Operation) {rc : DefwRc} (failed : rc ≠ .ok) :
    (t.leave call issued consumed rc).1.Sound ∧
      ∀ returned ∈ (t.leave call issued consumed rc).2, returned.Attributed := by
  refine ⟨sound.relock empty (fun _ held => nomatch held), ?_⟩
  intro returned member ok
  obtain rfl := List.mem_singleton.mp member
  exact absurd ok failed

theorem Transmit.Sound.accepted {t : Transmit} (sound : t.Sound) (empty : t.txCq = []) (call : Call) :
    (t.issue call .accepted).1.Sound := by
  unfold Transmit.issue
  refine ⟨?_, ?_, sound.single, ?_, ?_⟩
  · intro operation member
    rcases List.mem_append.mp member with old | new
    · exact Nat.lt_succ_of_lt (sound.numbered operation old)
    · rw [List.mem_singleton.mp new]
      exact Nat.lt_succ_self _
  · intro operation awaited other member same
    obtain rfl : ⟨t.issued, call.request⟩ = operation := Option.some.inj awaited
    rcases List.mem_append.mp member with old | new
    · exact absurd same (Nat.ne_of_lt (sound.numbered other old))
    · exact List.mem_singleton.mp new
  · intro entry member
    dsimp only at member
    rw [empty] at member
    cases member
  · intro holder locked operation waiting
    obtain rfl := Option.some.inj locked
    obtain rfl := Stage.waiting.inj waiting
    rfl

theorem Transmit.Sound.issue {t : Transmit} (sound : t.Sound) {call : Call} (held : t.sendLock = some call)
    (issuing : call.stage = .issuing) (answer : Issue) :
    (t.issue call answer).1.Sound ∧ ∀ returned ∈ (t.issue call answer).2, returned.Attributed := by
  have none : t.awaited = none := by
    obtain ⟨thread, request, stage⟩ := call
    cases issuing
    simp [Transmit.awaited, held]
  have empty := sound.empty none
  cases answer with
  | accepted => exact ⟨sound.accepted empty call, fun _ member => nomatch member⟩
  | again =>
    have same : cqRead t.txCq = t.txCq := by
      rw [empty]
      rfl
    unfold Transmit.issue
    rw [same]
    exact ⟨sound, fun _ member => nomatch member⟩
  | failed => exact sound.leave empty call _ _ (by decide)

theorem Transmit.Sound.wait {t : Transmit} (sound : t.Sound) {call : Call} {operation : Operation}
    (held : t.sendLock = some call) (waiting : call.stage = .waiting operation) {answer : Wait}
    (timely : Timely t (.wait answer)) :
    (t.wait call operation answer).1.Sound ∧ ∀ returned ∈ (t.wait call operation answer).2, returned.Attributed := by
  have awaited : t.awaited = some operation := by
    obtain ⟨thread, request, stage⟩ := call
    cases waiting
    simp [Transmit.awaited, held]
  cases answer with
  | failed => exact sound.leave timely call _ _ (by decide)
  | entry =>
    unfold Transmit.wait
    cases queue : t.txCq with
    | nil => exact sound.leave queue call _ _ (by decide)
    | cons entry rest =>
      obtain rfl : rest = [] := by
        have := sound.single
        rw [queue] at this
        exact List.length_eq_zero_iff.mp (by simpa using this)
      obtain ⟨isOwn, carried, _⟩ := sound.queued entry (by simp [queue])
      obtain rfl : operation = entry.operation := Option.some.inj (awaited.symm.trans isOwn)
      have emptied : Transmit.Sound { t with txCq := [] } := by
        refine ⟨sound.numbered, sound.own, Nat.zero_le 1, nofun, sound.asked⟩
      refine ⟨emptied.relock rfl (fun _ held => nomatch held), ?_⟩
      intro returned member ok
      obtain rfl := List.mem_singleton.mp member
      have isOk : entry.ok = true := by
        by_contra failed
        simp [failed] at ok
      refine ⟨entry.operation, rfl, rfl, sound.asked call held _ waiting, ?_⟩
      simpa using carried isOk

theorem Transmit.Sound.complete {t : Transmit} (sound : t.Sound) {number : Nat} {ok : Bool} {place : Nat}
    (timely : Timely t (.complete number ok place)) : (t.complete number ok place).Sound := by
  unfold Transmit.complete
  split
  · exact sound
  · rename_i found flown
    obtain ⟨operation, awaited, rfl⟩ := Option.map_eq_some_iff.mp timely
    have inFlight := List.mem_of_find?_eq_some flown
    have same : found.number = operation.number := by simpa using List.find?_some flown
    obtain rfl := sound.own operation awaited found inFlight same
    have empty : t.txCq = [] := by
      cases queue : t.txCq with
      | nil => rfl
      | cons entry rest =>
        obtain ⟨isOwn, _, landed⟩ := sound.queued entry (by simp [queue])
        obtain rfl : found = entry.operation := Option.some.inj (awaited.symm.trans isOwn)
        exact absurd rfl (landed _ inFlight)
    have kept : ∀ other ∈ t.flight.filter (fun other => other.number ≠ found.number),
        other ∈ t.flight ∧ other.number ≠ found.number := by
      intro other member
      simpa using List.mem_filter.mp member
    refine ⟨?_, ?_, ?_, ?_, sound.asked⟩
    · intro other member
      exact sound.numbered other (kept other member).1
    · intro operation waited other member alike
      exact sound.own operation waited other (kept other member).1 alike
    · simp [empty]
    · intro entry member
      obtain rfl : entry = ⟨found, ok⟩ := by simpa [empty] using member
      refine ⟨awaited, ?_, fun other member => (kept other member).2⟩
      rintro rfl
      simp

theorem Transmit.refusal_ne_ok (t : Transmit) (request : Request) : t.refusal request ≠ some .ok := by
  cases request with
  | sendMsg allocated => cases allocated <;> simp [Transmit.refusal]
  | rmaRead region buf len =>
    unfold Transmit.refusal
    split
    · simp
    · split <;> simp

theorem Transmit.Sound.begin {t : Transmit} (sound : t.Sound) (thread : Nat) (request : Request) :
    (t.begin thread request).1.Sound ∧ ∀ returned ∈ (t.begin thread request).2, returned.Attributed := by
  unfold Transmit.begin
  cases refusal : t.refusal request with
  | some rc =>
    refine ⟨sound, ?_⟩
    intro returned member ok
    obtain rfl := List.mem_singleton.mp member
    exact absurd (refusal.trans (congrArg some ok)) (t.refusal_ne_ok request)
  | none =>
    dsimp only
    split
    · rename_i free
      have idle : t.awaited = none := by simp [Transmit.awaited, free]
      refine ⟨sound.relock (sound.empty idle) ?_, fun _ member => nomatch member⟩
      intro call held
      obtain rfl := Option.some.inj held
      rfl
    · exact ⟨sound, fun _ member => nomatch member⟩

/-- What a step keeps, and what its return means. -/
theorem Transmit.Sound.step {t : Transmit} (sound : t.Sound) {action : Action} (timely : Timely t action) :
    (t.step action).1.Sound ∧ ∀ returned ∈ (t.step action).2, returned.Attributed := by
  have idle : t.Sound ∧ ∀ returned ∈ ([] : List Returned), returned.Attributed :=
    ⟨sound, fun _ member => nomatch member⟩
  cases action with
  | begin thread request => exact sound.begin thread request
  | issue answer =>
    unfold Transmit.step
    dsimp only
    split
    · rename_i held
      exact sound.issue held rfl answer
    · exact idle
  | wait answer =>
    unfold Transmit.step
    dsimp only
    split
    · rename_i held
      exact sound.wait held rfl timely
    · exact idle
  | complete number ok place => exact ⟨sound.complete timely, idle.2⟩

/-- A carried-out operation stays so, and the flag of a return is about the state it leaves. -/
theorem Transmit.step_filled (t : Transmit) (action : Action) : ∀ operation ∈ t.filled,
    operation ∈ (t.step action).1.filled := by
  intro operation member
  cases action with
  | begin thread request =>
    simp only [Transmit.step, Transmit.begin]
    split
    · exact member
    · split <;> exact member
  | issue answer =>
    simp only [Transmit.step]
    split
    · cases answer <;> exact member
    · exact member
  | wait answer =>
    simp only [Transmit.step]
    split
    · cases answer with
      | entry =>
        unfold Transmit.wait
        cases t.txCq <;> exact member
      | failed => exact member
    · exact member
  | complete number ok place =>
    simp only [Transmit.step, Transmit.complete]
    split
    · exact member
    · dsimp only
      split
      · exact List.mem_append_left _ member
      · exact member

theorem Transmit.leave_filled {t : Transmit} {call : Call} {issued consumed : Option Operation} {rc : DefwRc}
    {returned : Returned} (member : returned ∈ (t.leave call issued consumed rc).2) (filled : returned.filled = true) :
    ∃ operation ∈ returned.issued, operation ∈ (t.leave call issued consumed rc).1.filled := by
  obtain rfl := List.mem_singleton.mp member
  cases issued with
  | none => cases filled
  | some operation =>
    have carried : operation ∈ t.filled := by simpa using filled
    exact ⟨operation, rfl, carried⟩

theorem Transmit.returned_filled {t : Transmit} {action : Action} {returned : Returned}
    (member : returned ∈ (t.step action).2) (filled : returned.filled = true) :
    ∃ operation ∈ returned.issued, operation ∈ (t.step action).1.filled := by
  cases action with
  | begin thread request =>
    simp only [Transmit.step, Transmit.begin] at member ⊢
    split at member
    · obtain rfl := List.mem_singleton.mp member
      cases filled
    · split at member <;> cases member
  | issue answer =>
    simp only [Transmit.step] at member ⊢
    split at member
    · cases answer with
      | accepted | again => cases member
      | failed => exact Transmit.leave_filled member filled
    · cases member
  | wait answer =>
    simp only [Transmit.step] at member ⊢
    split at member
    · cases answer with
      | entry =>
        unfold Transmit.wait at member ⊢
        cases queue : t.txCq with
        | nil =>
          simp only [queue] at member
          exact Transmit.leave_filled member filled
        | cons entry rest =>
          simp only [queue] at member
          exact Transmit.leave_filled member filled
      | failed => exact Transmit.leave_filled member filled
    · cases member
  | complete number ok place => cases member

/-- Where no operation completes after its call has given up on it, a call returns
`EN_DEFW_RC_OK` only for the completion of the operation that it issued itself. -/
theorem completions_attributed (rmaCapable : Bool) (actions : List Action)
    (timely : transmit.Admits Timely (Transmit.start rmaCapable) actions) :
    ∀ returned ∈ transmit.log (Transmit.start rmaCapable) actions, returned.Attributed := by
  have run := transmit.run_invariant (fun t log => t.Sound ∧ ∀ returned ∈ log, returned.Attributed)
    ⟨Transmit.sound_start rmaCapable, fun _ member => nomatch member⟩ ?_ timely
  · exact run.2
  · rintro t log action ⟨sound, attributed⟩ allowed
    obtain ⟨kept, new⟩ := sound.step allowed
    refine ⟨kept, ?_⟩
    intro returned member
    exact (List.mem_append.mp member).elim (attributed returned) (new returned)

/-- A read of the region 4 by the thread 0 and one of the region 5 by the thread 1. -/
def firstRead : List Action := [.begin 0 (.rmaRead 4 true 8), .issue .accepted]

def secondRead : List Action := [.begin 1 (.rmaRead 5 true 8), .issue .again, .issue .accepted]

theorem completions_attributed_reads :
    let log := transmit.log (.start true) (firstRead ++ [.complete 0 true 0, .wait .entry] ++ secondRead ++ [.wait .entry])
    log.map Returned.rc = [.ok, .timeout] ∧ ∀ returned ∈ log, returned.Attributed :=
  ⟨by decide +kernel, completions_attributed true _ (by decide +kernel)⟩

/-- The first read times out and completes when the second one waits, which returns
`EN_DEFW_RC_OK` with its buffer not filled. -/
theorem completion_misattributed :
    let first : Operation := ⟨0, .rmaRead 4 true 8⟩
    let second : Operation := ⟨1, .rmaRead 5 true 8⟩
    transmit.log (.start true) (firstRead ++ [.wait .entry] ++ secondRead ++ [.complete 0 true 0, .wait .entry]) =
        [⟨0, first.request, some first, none, false, .timeout⟩,
          ⟨1, second.request, some second, some first, false, .ok⟩] ∧
      ¬Returned.Attributed ⟨1, second.request, some second, some first, false, .ok⟩ := by
  refine ⟨by decide +kernel, ?_⟩
  intro attributed
  obtain ⟨_, _, _, _, filled⟩ := attributed rfl
  cases filled

end DEFw.Fabric
