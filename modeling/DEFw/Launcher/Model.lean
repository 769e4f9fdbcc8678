import DEFw.Lib.Dict
import DEFw.Lib.Machine

namespace DEFw.Launcher

/-- How far the thread is that looks after a process: `launch`, and for a
process it does not wait for the waiter. -/
inductive Stage (ρ : Type) where
  /-- `Popen` has returned -/
  | spawned
  /-- the process is in `__proc_dict` -/
  | entered
  /-- the waiter is in `get_result` -/
  | waiting
  /-- `get_result` has returned, the lock is next -/
  | collected (result : ρ)
  | done (result : ρ)
  /-- the waiter could not be started -/
  | unwatched
deriving DecidableEq, Repr

/-- A `Process` object and its child; a result is its `(stdout, stderr, rc)`. -/
structure Proc (ρ : Type) where
  pid : Nat
  wait : Bool
  stage : Stage ρ
  reaped : Bool
deriving DecidableEq, Repr

/-- The processes are named in the order of their launches. Beside an unread
result stands the process it is of, which the code does not store. -/
structure State (ρ : Type) where
  procs : Dict Nat (Proc ρ)
  procDict : Dict Nat Nat
  deadProcs : Dict Nat (Nat × ρ)
  launched : Nat

inductive Action (ρ : Type) where
  /-- `Popen` in `launch`; the pid is the operating system's choice -/
  | spawn (pid : Nat) (wait : Bool)
  /-- the first critical section of `launch` -/
  | enter (p : Nat)
  | startWaiter (p : Nat)
  /-- `waiter.start()` raises, and `launch` kills the pid -/
  | failWaiter (p : Nat)
  /-- `communicate` returns, to the waiter or to a `launch` that waits -/
  | getResult (p : Nat) (result : ρ)
  /-- the critical section after it -/
  | settle (p : Nat)
  | kill (pid : Nat)
  | terminate (pid : Nat)
  | status (pid : Nat)
  | shutdown (keep : Bool)
deriving DecidableEq, Repr

inductive Entry (ρ : Type) where
  | removed (p : Nat)
  /-- what `status` returned for the pid, and whose result it is -/
  | returned (pid p : Nat) (result : ρ)
  | inProgress (pid : Nat)
deriving DecidableEq, Repr

section Calls

variable {ρ : Type}

def State.start : State ρ := ⟨.empty, .empty, .empty, 0⟩

/-- No child with the pid waits to be reaped. -/
def State.pidFree (s : State ρ) (pid : Nat) : Bool :=
  s.procs.values.all fun proc => proc.reaped || proc.pid ≠ pid

def State.goto (s : State ρ) (p : Nat) (proc : Proc ρ) (stage : Stage ρ) : State ρ :=
  { s with procs := s.procs.set p { proc with stage } }

/-- `Process.kill`: the signal and the wait for the child. -/
def State.reap (s : State ρ) (p : Nat) : State ρ :=
  match s.procs.get? p with
  | none => s
  | some proc => { s with procs := s.procs.set p { proc with reaped := true } }

/-- The critical section of `kill` and of `terminate`. -/
def State.removePid (s : State ρ) (pid : Nat) : State ρ × List (Entry ρ) :=
  match s.procDict.get? pid with
  | none => (s, [])
  | some p => ({ s.reap p with procDict := s.procDict.erase pid }, [.removed p])

def State.kill (s : State ρ) (pid : Nat) : State ρ × List (Entry ρ) := s.removePid pid

/-- `terminate` calls `kill` of the process too. -/
def State.terminate (s : State ρ) (pid : Nat) : State ρ × List (Entry ρ) := s.removePid pid

def State.status (s : State ρ) (pid : Nat) : State ρ × List (Entry ρ) :=
  match s.deadProcs.get? pid with
  | some (p, result) => ({ s with deadProcs := s.deadProcs.erase pid }, [.returned pid p result])
  | none => (s, [.inProgress pid])

/-- All processes are killed in one loop and deleted in a second. -/
def State.shutdown (s : State ρ) (keep : Bool) : State ρ × List (Entry ρ) :=
  if keep then (s, [])
  else
    ({ s.procDict.values.foldl State.reap s with procDict := s.procDict.keys.foldl Dict.erase s.procDict },
      s.procDict.values.map .removed)

/-- The critical section of `__wait_for_exit`, and the last one of a `launch`
that waits. -/
def State.settle (s : State ρ) (p : Nat) (proc : Proc ρ) (result : ρ) : State ρ :=
  let finished := s.goto p proc (.done result)
  if s.procDict.get? proc.pid = some p then
    { finished with
      procDict := s.procDict.erase proc.pid
      deadProcs := if proc.wait then s.deadProcs else s.deadProcs.set proc.pid (p, result) }
  else finished

def State.spawn (s : State ρ) (pid : Nat) (wait : Bool) : State ρ :=
  { s with procs := s.procs.set s.launched ⟨pid, wait, .spawned, false⟩, launched := s.launched + 1 }

/-- A step of a thread that is not at this point does nothing. -/
def step (s : State ρ) : Action ρ → State ρ × List (Entry ρ)
  | .spawn pid wait => if s.pidFree pid then (s.spawn pid wait, []) else (s, [])
  | .enter p =>
    match s.procs.get? p with
    | some ⟨pid, wait, .spawned, reaped⟩ =>
      ({ s.goto p ⟨pid, wait, .spawned, reaped⟩ .entered with procDict := s.procDict.set pid p }, [])
    | _ => (s, [])
  | .startWaiter p =>
    match s.procs.get? p with
    | some ⟨pid, false, .entered, reaped⟩ => (s.goto p ⟨pid, false, .entered, reaped⟩ .waiting, [])
    | _ => (s, [])
  | .failWaiter p =>
    match s.procs.get? p with
    | some ⟨pid, false, .entered, reaped⟩ => (s.goto p ⟨pid, false, .entered, reaped⟩ .unwatched).kill pid
    | _ => (s, [])
  | .getResult p result =>
    match s.procs.get? p with
    | some ⟨pid, false, .waiting, _⟩ => (s.goto p ⟨pid, false, .waiting, true⟩ (.collected result), [])
    | some ⟨pid, true, .entered, _⟩ => (s.goto p ⟨pid, true, .entered, true⟩ (.collected result), [])
    | _ => (s, [])
  | .settle p =>
    match s.procs.get? p with
    | some ⟨pid, wait, .collected result, reaped⟩ =>
      (s.settle p ⟨pid, wait, .collected result, reaped⟩ result, [])
    | _ => (s, [])
  | .kill pid => s.kill pid
  | .terminate pid => s.terminate pid
  | .status pid => s.status pid
  | .shutdown keep => s.shutdown keep

def machine : Machine (State ρ) (Action ρ) (Entry ρ) := ⟨step⟩

end Calls

end DEFw.Launcher
