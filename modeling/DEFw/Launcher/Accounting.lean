import DEFw.Launcher.Consistency

namespace DEFw.Launcher

variable {ρ : Type}

/-- What holds of the processes with one pid while pids are not reused early: at
most one of them is looked after, and an unread result is the only one. -/
structure KeptAt (s : State ρ) (log : List (Entry ρ)) (pid : Nat) : Prop where
  distinct : ∀ p q a b, s.procs.get? p = some a → s.procs.get? q = some b → a.pid = pid → b.pid = pid →
    a.reaped = false → b.reaped = false → p = q
  spawned : ∀ p proc, s.procs.get? p = some proc → proc.pid = pid → proc.stage = .spawned →
    proc.reaped = false ∧ s.procDict.get? pid = none ∧ s.deadProcs.get? pid = none
  running : ∀ p proc, s.procs.get? p = some proc → proc.pid = pid → proc.stage.running = true → .removed p ∉ log →
    s.procDict.get? pid = some p
  apart : ∀ p, s.procDict.get? pid = some p → s.deadProcs.get? pid = none
  kept : ∀ p proc result, s.procs.get? p = some proc → proc.pid = pid → proc.wait = false → proc.stage = .done result →
    .removed p ∉ log → s.deadProcs.get? pid = some (p, result) ∨ .returned pid p result ∈ log

namespace KeptAt

variable {s : State ρ} {log : List (Entry ρ)} {pid p : Nat} {proc : Proc ρ}

/-- What happens at one pid leaves the others alone. -/
theorem frame {later : State ρ} {more : List (Entry ρ)} (was : KeptAt s log pid)
    (procs : ∀ p proc, proc.pid = pid → later.procs.get? p = some proc → s.procs.get? p = some proc)
    (procDict : later.procDict.get? pid = s.procDict.get? pid) (deadProcs : later.deadProcs.get? pid = s.deadProcs.get? pid)
    (logged : ∀ entry ∈ log, entry ∈ more) : KeptAt later more pid where
  distinct p q a b first second atA atB := was.distinct p q a b (procs p a atA first) (procs q b atB second) atA atB
  spawned p proc found atPid stage := by
    rw [procDict, deadProcs]
    exact was.spawned p proc (procs p proc atPid found) atPid stage
  running p proc found atPid stage kept := by
    rw [procDict]
    exact was.running p proc (procs p proc atPid found) atPid stage (mt (logged _) kept)
  apart p := by
    rw [procDict, deadProcs]
    exact was.apart p
  kept p proc result found atPid waitless stage kept := by
    rw [deadProcs]
    exact (was.kept p proc result (procs p proc atPid found) atPid waitless stage (mt (logged _) kept)).imp_right (logged _)

/-- The record of a process changes, with the entries at its pid. -/
theorem changed (was : KeptAt s log pid) (found : s.procs.get? p = some proc) (atPid : proc.pid = pid) (next : Proc ρ)
    (procDict : Dict Nat Nat) (deadProcs : Dict Nat (Nat × ρ)) {more : List (Entry ρ)}
    (reaped : next.reaped = false → proc.reaped = false) (born : next.stage ≠ .spawned)
    (running : next.stage.running = true → .removed p ∉ more → procDict.get? pid = some p)
    (kept : ∀ result, next.wait = false → next.stage = .done result → .removed p ∉ more →
      deadProcs.get? pid = some (p, result) ∨ .returned pid p result ∈ more)
    (apart : ∀ q, procDict.get? pid = some q → deadProcs.get? pid = none)
    (others : ∀ q other, q ≠ p → s.procs.get? q = some other → other.pid = pid →
      (other.stage = .spawned → procDict.get? pid = none ∧ deadProcs.get? pid = none) ∧
      (other.stage.running = true → .removed q ∉ more → procDict.get? pid = some q) ∧
      ∀ result, other.wait = false → other.stage = .done result → .removed q ∉ more →
        deadProcs.get? pid = some (q, result) ∨ .returned pid q result ∈ more) :
    KeptAt { s with procs := s.procs.set p next, procDict, deadProcs } more pid := by
  have split : ∀ q now, (s.procs.set p next).get? q = some now →
      (q = p ∧ now = next) ∨ (q ≠ p ∧ s.procs.get? q = some now) := by
    intro q now there
    rw [Dict.get?_set] at there
    split at there
    next same => exact .inl ⟨same, (Option.some.inj there).symm⟩
    next different => exact .inr ⟨different, there⟩
  refine ⟨fun q r a b first second atA atB liveA liveB => ?_, fun q now there atNow stage => ?_,
    fun q now there atNow stage kept' => ?_, apart, fun q now result there atNow waitless stage kept' => ?_⟩
  · rcases split q a first with ⟨rfl, rfl⟩ | ⟨-, old⟩ <;> rcases split r b second with ⟨rfl, rfl⟩ | ⟨-, old'⟩
    · rfl
    · exact was.distinct q r proc b found old' atPid atB (reaped liveA) liveB
    · exact was.distinct q r a proc old found atA atPid liveA (reaped liveB)
    · exact was.distinct q r a b old old' atA atB liveA liveB
  · rcases split q now there with ⟨rfl, rfl⟩ | ⟨different, there⟩
    · exact absurd stage born
    · exact ⟨(was.spawned q now there atNow stage).1, (others q now different there atNow).1 stage⟩
  · rcases split q now there with ⟨rfl, rfl⟩ | ⟨different, there⟩
    · exact running stage kept'
    · exact (others q now different there atNow).2.1 stage kept'
  · rcases split q now there with ⟨rfl, rfl⟩ | ⟨different, there⟩
    · exact kept result waitless stage kept'
    · exact (others q now different there atNow).2.2 result waitless stage kept'

/-- Beside the process that holds the entry of a pid, no other one with the
pid has anything left to do. -/
theorem others_of_entry (was : KeptAt s log pid) (entry : s.procDict.get? pid = some p) {q : Nat} {other : Proc ρ}
    (different : q ≠ p) (there : s.procs.get? q = some other) (atPid : other.pid = pid) :
    other.stage ≠ .spawned ∧ (other.stage.running = true → .removed q ∈ log) ∧
      ∀ result, other.wait = false → other.stage = .done result → .removed q ∉ log → .returned pid q result ∈ log := by
  refine ⟨fun stage => ?_, fun stage => ?_, fun result waitless stage kept => ?_⟩
  · have free := (was.spawned q other there atPid stage).2.1
    simp [entry] at free
  · by_contra kept
    have own := was.running q other there atPid stage kept
    exact different (Option.some.inj (own.symm.trans entry))
  · rcases was.kept q other result there atPid waitless stage kept with filed | returned
    · simp [was.apart p entry] at filed
    · exact returned

end KeptAt

/-- The operating system gives a child no pid that the launcher still has an
entry or an unread result for. -/
def Unclaimed (s : State ρ) : Action ρ → Prop
  | .spawn pid _ => s.procDict.get? pid = none ∧ s.deadProcs.get? pid = none
  | _ => True

instance : ∀ (s : State ρ) action, Decidable (Unclaimed s action)
  | s, .spawn pid _ =>
    decidable_of_iff ((s.procDict.get? pid).isNone ∧ (s.deadProcs.get? pid).isNone) (by simp [Unclaimed])
  | _, .enter _ | _, .startWaiter _ | _, .failWaiter _ | _, .getResult _ _ | _, .settle _ | _, .kill _ | _, .terminate _
  | _, .status _ | _, .shutdown _ => isTrue trivial

def Kept (s : State ρ) (log : List (Entry ρ)) : Prop := ∀ pid, KeptAt s log pid

namespace Kept

variable {s : State ρ} {log : List (Entry ρ)} {p : Nat} {proc : Proc ρ}

theorem start : Kept (.start : State ρ) [] := by
  intro pid
  refine ⟨?_, ?_, ?_, ?_, ?_⟩ <;> simp [State.start]

theorem spawn (was : Kept s log) {pid : Nat} (wait : Bool) (free : s.pidFree pid = true)
    (unclaimed : s.procDict.get? pid = none ∧ s.deadProcs.get? pid = none) : Kept (s.spawn pid wait) log := by
  have split : ∀ q now, (s.spawn pid wait).procs.get? q = some now →
      (q = s.launched ∧ now = ⟨pid, wait, .spawned, false⟩) ∨ s.procs.get? q = some now := by
    intro q now there
    simp only [State.spawn, Dict.get?_set] at there
    split at there
    next same => exact .inl ⟨same, (Option.some.inj there).symm⟩
    next => exact .inr there
  have reaped : ∀ q old, s.procs.get? q = some old → old.pid = pid → old.reaped = true := by
    intro q old there atPid
    have all := List.all_eq_true.mp free old (Dict.mem_values_iff.mpr ⟨q, there⟩)
    simpa [atPid] using all
  intro pid'
  by_cases same : pid' = pid
  · subst same
    refine ⟨fun q r a b first second atA atB liveA liveB => ?_, fun q now there atNow stage => ?_,
      fun q now there atNow stage kept => ?_, (was pid').apart, fun q now result there atNow waitless stage kept => ?_⟩
    · rcases split q a first with ⟨rfl, rfl⟩ | old <;> rcases split r b second with ⟨rfl, rfl⟩ | old'
      · rfl
      · simp [reaped r b old' atB] at liveB
      · simp [reaped q a old atA] at liveA
      · exact (was pid').distinct q r a b old old' atA atB liveA liveB
    · rcases split q now there with ⟨rfl, rfl⟩ | old
      · exact ⟨rfl, unclaimed⟩
      · exact (was pid').spawned q now old atNow stage
    · rcases split q now there with ⟨rfl, rfl⟩ | old
      · simp [Stage.running] at stage
      · exact (was pid').running q now old atNow stage kept
    · rcases split q now there with ⟨rfl, rfl⟩ | old
      · simp at stage
      · exact (was pid').kept q now result old atNow waitless stage kept
  · refine (was pid').frame (fun q now atNow there => ?_) rfl rfl (fun _ => id)
    rcases split q now there with ⟨-, rfl⟩ | old
    · exact absurd atNow (Ne.symm same)
    · exact old

/-- A change of one process and of the entries at its pid. -/
theorem changed (was : Kept s log) (next : Proc ρ) (samePid : next.pid = proc.pid)
    (procDict : Dict Nat Nat) (deadProcs : Dict Nat (Nat × ρ)) {more : List (Entry ρ)} (logged : ∀ entry ∈ log, entry ∈ more)
    (entries : ∀ pid, pid ≠ proc.pid → procDict.get? pid = s.procDict.get? pid)
    (results : ∀ pid, pid ≠ proc.pid → deadProcs.get? pid = s.deadProcs.get? pid)
    (own : KeptAt { s with procs := s.procs.set p next, procDict, deadProcs } more proc.pid) :
    Kept { s with procs := s.procs.set p next, procDict, deadProcs } more := by
  intro pid
  by_cases same : pid = proc.pid
  · exact same ▸ own
  · refine (was pid).frame (fun q now atNow there => ?_) (entries pid same) (results pid same) logged
    simp only [Dict.get?_set] at there
    split at there
    · cases there
      exact absurd (atNow.symm.trans samePid) same
    · exact there

theorem enter (was : Kept s log) (found : s.procs.get? p = some proc) (stage : proc.stage = .spawned) :
    Kept { s.goto p proc .entered with procDict := s.procDict.set proc.pid p } log := by
  obtain ⟨live, unlisted, unfiled⟩ := (was proc.pid).spawned p proc found rfl stage
  refine was.changed { proc with stage := .entered } rfl _ s.deadProcs (fun _ => id)
    (fun pid different => by rw [Dict.get?_set, if_neg different]) (fun _ _ => rfl) ?_
  refine (was proc.pid).changed found rfl _ _ _ id (by simp) (fun _ _ => Dict.get?_set_self ..) (by simp)
    (fun _ _ => unfiled) fun q other different there atPid => ⟨fun born => ?_, fun runs kept => ?_, ?_⟩
  · have bornLive := ((was proc.pid).spawned q other there atPid born).1
    exact absurd ((was proc.pid).distinct q p other proc there found atPid rfl bornLive live) different
  · have listed := (was proc.pid).running q other there atPid runs kept
    simp [unlisted] at listed
  · exact fun result => (was proc.pid).kept q other result there atPid

/-- A thread goes on with its process; the tables stay. -/
theorem moved (was : Kept s log) (found : s.procs.get? p = some proc) (stage : proc.stage.running = true) (next : Proc ρ)
    (samePid : next.pid = proc.pid) (reaped : next.reaped = false → proc.reaped = false)
    (listed : next.stage.listed = true) : Kept { s with procs := s.procs.set p next } log := by
  refine was.changed next samePid s.procDict s.deadProcs (fun _ => id) (fun _ _ => rfl) (fun _ _ => rfl) ?_
  exact (was proc.pid).changed found rfl next _ _ reaped (fun born => by simp [born, Stage.listed] at listed)
    (fun _ kept => (was proc.pid).running p proc found rfl stage kept)
    (fun result _ finished => by simp [finished, Stage.listed] at listed) (was proc.pid).apart
    fun q other _ there atPid => ⟨fun born => ((was proc.pid).spawned q other there atPid born).2,
      (was proc.pid).running q other there atPid, fun result => (was proc.pid).kept q other result there atPid⟩

theorem settle (was : Kept s log) (found : s.procs.get? p = some proc) {result : ρ}
    (collected : proc.stage = .collected result) : Kept (s.settle p proc result) log := by
  unfold State.settle
  simp only []
  split
  next entry =>
    refine was.changed { proc with stage := .done result } rfl (s.procDict.erase proc.pid) _ (fun _ => id)
      (fun pid different => by rw [Dict.get?_erase, if_neg different]) (fun pid different => ?_) ?_
    · split
      · rfl
      · rw [Dict.get?_set, if_neg different]
    · refine (was proc.pid).changed found rfl _ _ _ id (by simp) (by simp [Stage.running])
        (fun other waitless finished _ => ?_) (fun q there => absurd rfl (Dict.get?_of_erase there).1)
        fun q other different there atPid => ?_
      · cases finished
        have plain : proc.wait = false := waitless
        exact .inl (by simp [plain])
      · obtain ⟨born, idle, given⟩ := (was proc.pid).others_of_entry entry different there atPid
        exact ⟨fun stage => absurd stage born, fun runs kept => absurd (idle runs) kept,
          fun value waitless finished kept => .inr (given value waitless finished kept)⟩
  next elsewhere =>
    -- its entry is gone although its thread runs, so that it was removed
    have gone : .removed p ∈ log := by
      by_contra kept
      exact elsewhere ((was proc.pid).running p proc found rfl (by simp [collected, Stage.running]) kept)
    refine was.changed { proc with stage := .done result } rfl s.procDict s.deadProcs (fun _ => id) (fun _ _ => rfl)
      (fun _ _ => rfl) ?_
    exact (was proc.pid).changed found rfl _ _ _ id (by simp) (by simp [Stage.running])
      (fun _ _ _ kept => absurd gone kept) (was proc.pid).apart
      fun q other _ there atPid => ⟨fun born => ((was proc.pid).spawned q other there atPid born).2,
        (was proc.pid).running q other there atPid, fun value => (was proc.pid).kept q other value there atPid⟩

theorem removePid (was : Kept s log) (consistent : Consistent s log) (pid : Nat) :
    Kept (s.removePid pid).1 (log ++ (s.removePid pid).2) := by
  unfold State.removePid
  cases entry : s.procDict.get? pid with
  | none => simpa using was
  | some p =>
    obtain ⟨proc, found, rfl, listed, -⟩ := consistent.entries pid p entry
    simp only [State.reap, found]
    refine was.changed { proc with reaped := true } rfl (s.procDict.erase proc.pid) s.deadProcs
      (fun _ => List.mem_append_left _) (fun pid different => by rw [Dict.get?_erase, if_neg different]) (fun _ _ => rfl) ?_
    refine (was proc.pid).changed found rfl _ _ _ (by simp) (fun born => ?_) (fun _ kept => ?_) (fun _ _ _ kept => ?_)
      (fun q there => absurd rfl (Dict.get?_of_erase there).1) fun q other different there atPid => ?_
    · have stage : proc.stage = .spawned := born
      simp [stage, Stage.listed] at listed
    · exact absurd (by simp) kept
    · exact absurd (by simp) kept
    · obtain ⟨born, idle, given⟩ := (was proc.pid).others_of_entry entry different there atPid
      exact ⟨fun stage => absurd stage born, fun runs kept => absurd (List.mem_append_left _ (idle runs)) kept,
        fun value waitless finished kept =>
          .inr (List.mem_append_left _ (given value waitless finished (mt (List.mem_append_left _) kept)))⟩

theorem status (was : Kept s log) (pid : Nat) : Kept (s.status pid).1 (log ++ (s.status pid).2) := by
  unfold State.status
  cases filed : s.deadProcs.get? pid with
  | none => exact fun other => (was other).frame (fun _ _ _ => id) rfl rfl (fun _ => List.mem_append_left _)
  | some value =>
    obtain ⟨p, result⟩ := value
    intro other
    by_cases same : other = pid
    · subst same
      have unlisted : s.procDict.get? other = none := by
        cases entry : s.procDict.get? other with
        | none => rfl
        | some q => simp [(was other).apart q entry] at filed
      refine ⟨(was other).distinct, fun q now there atPid born => ?_, fun q now there atPid runs kept => ?_, fun q entry => ?_,
        fun q now value there atPid waitless finished kept => ?_⟩
      · simp [((was other).spawned q now there atPid born).2.2] at filed
      · exact (was other).running q now there atPid runs (mt (List.mem_append_left _) kept)
      · simp [unlisted] at entry
      · rcases (was other).kept q now value there atPid waitless finished (mt (List.mem_append_left _) kept) with old | given
        · cases filed.symm.trans old
          exact .inr (by simp)
        · exact .inr (List.mem_append_left _ given)
    · refine (was other).frame (fun _ _ _ => id) rfl ?_ (fun _ => List.mem_append_left _)
      simp only []
      rw [Dict.get?_erase, if_neg same]

theorem step (was : Kept s log) (consistent : Consistent s log) {action : Action ρ} (unclaimed : Unclaimed s action) :
    Kept (step s action).1 (log ++ (step s action).2) := by
  have both := step_keeps (fun s log => Consistent s log ∧ Kept s log) ⟨consistent, was⟩ action
    (fun pid wait same free => ⟨consistent.spawn pid wait, was.spawn wait free (by subst same; exact unclaimed)⟩)
    (fun p proc found stage => ⟨consistent.enter found stage, was.enter found stage⟩)
    (fun p proc next found running samePid reaped listed =>
      ⟨consistent.moved found next samePid (fun _ => listed) (fun result finished => by simp [finished, Stage.running] at running)
        (fun born => by simp [born, Stage.listed] at listed), was.moved found running next samePid reaped listed⟩)
    (fun p proc result found stage => ⟨consistent.settle found stage, was.settle found stage⟩)
    (fun s log pid now => ⟨now.1.removePid pid, now.2.removePid now.1 pid⟩)
    (fun pid => ⟨consistent.status pid, was.status pid⟩)
  exact both.2

end Kept

/-- Every process that was not waited for, not removed, and whose waiter has
finished has its own result stored under its pid or returned; no result is
returned twice, and none of a process that was removed. -/
structure Accounted (s : State ρ) (log : List (Entry ρ)) : Prop where
  kept : ∀ p proc result, s.procs.get? p = some proc → proc.wait = false → proc.stage = .done result → .removed p ∉ log →
    s.deadProcs.get? proc.pid = some (p, result) ∨ .returned proc.pid p result ∈ log
  once : ∀ p, log.countP (Entry.returns p) ≤ 1
  unreturned : ∀ pid p result, s.deadProcs.get? pid = some (p, result) → log.countP (Entry.returns p) = 0
  own : ∀ pid p result, .returned pid p result ∈ log → Own s log pid p result

/-- In every run of launches, status calls, removals and waiters in which the
operating system reuses no pid that the launcher still has an entry or an unread
result for, every process is accounted for. -/
theorem launches_accounted {actions : List (Action ρ)} (unclaimed : machine.Admits Unclaimed .start actions) :
    Accounted (machine.final .start actions) (machine.log .start actions) := by
  obtain ⟨consistent, kept⟩ := machine.run_invariant (fun s log => Consistent s log ∧ Kept s log)
    ⟨Consistent.start, Kept.start⟩ (fun s log action was allowed => ⟨was.1.step action, was.2.step was.1 allowed⟩) unclaimed
  exact {
    kept := fun p proc result found => (kept proc.pid).kept p proc result found rfl
    once := consistent.once
    unreturned := fun pid p result filed => (consistent.unread pid p result filed).2
    own := consistent.returned }

/-- Two processes one after the other with one pid, the first result read
before the second launch. -/
def readBetween : List (Action Int) :=
  [.spawn 5 false, .enter 0, .startWaiter 0, .getResult 0 1, .settle 0, .status 5,
    .spawn 5 false, .enter 1, .startWaiter 1, .getResult 1 2, .settle 1, .status 5]

theorem launches_accounted_read_between :
    Accounted (machine.final .start readBetween) (machine.log .start readBetween) ∧
      machine.log .start readBetween = [.returned 5 0 1, .returned 5 1 2] :=
  ⟨launches_accounted (by decide +kernel), by decide +kernel⟩

/-- The pid of a finished process goes to a new one before its result is read:
the second result replaces the first, which is returned to nobody. -/
def reusedPid : List (Action Int) :=
  [.spawn 5 false, .enter 0, .startWaiter 0, .getResult 0 1, .settle 0,
    .spawn 5 false, .enter 1, .startWaiter 1, .getResult 1 2, .settle 1, .status 5, .status 5]

theorem unread_result_lost :
    machine.log .start reusedPid = [.returned 5 1 2, .inProgress 5] ∧
      (machine.final .start reusedPid).procs.get? 0 = some ⟨5, false, .done 1, true⟩ ∧
      (machine.final .start reusedPid).deadProcs.get? 5 = none ∧
      ¬ Accounted (machine.final .start reusedPid) (machine.log .start reusedPid) := by
  have log : machine.log .start reusedPid = [.returned 5 1 2, .inProgress 5] := by decide +kernel
  have record : (machine.final .start reusedPid).procs.get? 0 = some ⟨5, false, .done 1, true⟩ := by decide +kernel
  have unfiled : (machine.final .start reusedPid).deadProcs.get? 5 = none := by decide +kernel
  refine ⟨log, record, unfiled, fun accounted => ?_⟩
  rcases accounted.kept 0 _ 1 record rfl rfl (by simp [log]) with filed | returned
  · simp [unfiled] at filed
  · simp [log] at returned

end DEFw.Launcher
