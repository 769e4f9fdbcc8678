import DEFw.Launcher.Model

namespace DEFw.Launcher

variable {ρ : Type}

/-- The process may be in `__proc_dict`. -/
def Stage.listed : Stage ρ → Bool
  | .entered | .waiting | .collected _ | .unwatched => true
  | _ => false

/-- A thread looks after the process, which it has entered into `__proc_dict`. -/
def Stage.running : Stage ρ → Bool
  | .entered | .waiting | .collected _ => true
  | _ => false

theorem Stage.listed_of_running {stage : Stage ρ} (running : stage.running = true) : stage.listed = true := by
  cases stage <;> simp_all [Stage.running, Stage.listed]

/-- A result that `status` gave out, of this process. -/
def Entry.returns (p : Nat) : Entry ρ → Bool
  | .returned _ q _ => q = p
  | _ => false

/-- The result is that of a process which was not waited for and not removed,
and whose waiter has finished. -/
def Own (s : State ρ) (log : List (Entry ρ)) (pid p : Nat) (result : ρ) : Prop :=
  ∃ proc, s.procs.get? p = some proc ∧ proc.pid = pid ∧ proc.wait = false ∧ proc.stage = .done result ∧
    .removed p ∉ log

/-- What holds in every run: entries and results belong to the processes they
are filed for, and no result is given out twice. -/
structure Consistent (s : State ρ) (log : List (Entry ρ)) : Prop where
  named : ∀ p proc, s.procs.get? p = some proc → p < s.launched
  entries : ∀ pid p, s.procDict.get? pid = some p →
    ∃ proc, s.procs.get? p = some proc ∧ proc.pid = pid ∧ proc.stage.listed = true ∧ .removed p ∉ log
  removed : ∀ p, .removed p ∈ log → ∃ proc, s.procs.get? p = some proc ∧ proc.stage ≠ .spawned
  unread : ∀ pid p result, s.deadProcs.get? pid = some (p, result) →
    Own s log pid p result ∧ log.countP (Entry.returns p) = 0
  returned : ∀ pid p result, .returned pid p result ∈ log → Own s log pid p result
  once : ∀ p, log.countP (Entry.returns p) ≤ 1

namespace Consistent

variable {s : State ρ} {log : List (Entry ρ)} {p : Nat} {proc : Proc ρ}

theorem start : Consistent (.start : State ρ) [] where
  named := by simp [State.start]
  entries := by simp [State.start]
  removed := by simp
  unread := by simp [State.start]
  returned := by simp
  once := by simp

/-- A result that was given out is no longer filed. -/
theorem returned_counted {pid : Nat} {result : ρ} (returned : .returned pid p result ∈ log) :
    log.countP (Entry.returns p) ≠ 0 := by
  have positive := List.countP_pos_iff.mpr ⟨_, returned, show Entry.returns p (.returned pid p result) = true by simp [Entry.returns]⟩
  omega

/-- The record of a process changes; in `__proc_dict` it stays listed. -/
theorem moved (was : Consistent s log) (found : s.procs.get? p = some proc) (next : Proc ρ) (samePid : next.pid = proc.pid)
    (listed : s.procDict.get? proc.pid = some p → next.stage.listed = true)
    (undone : ∀ result, proc.stage = .done result → next = proc)
    (unborn : next.stage = .spawned → proc.stage = .spawned) : Consistent { s with procs := s.procs.set p next } log := by
  have still : ∀ q old, s.procs.get? q = some old →
      ∃ new, (s.procs.set p next).get? q = some new ∧ new.pid = old.pid ∧
        (s.procDict.get? old.pid = some q → old.stage.listed = true → new.stage.listed = true) ∧
        (∀ result, old.stage = .done result → new = old) ∧ (new.stage = .spawned → old.stage = .spawned) := by
    intro q old there
    by_cases same : q = p
    · subst same
      cases found.symm.trans there
      exact ⟨next, Dict.get?_set_self .., samePid, fun entry _ => listed entry, undone, unborn⟩
    · exact ⟨old, by rw [Dict.get?_set, if_neg same]; exact there, rfl, fun _ => id, fun _ _ => rfl, id⟩
  have own : ∀ pid q result, Own s log pid q result → Own { s with procs := s.procs.set p next } log pid q result := by
    rintro pid q result ⟨old, there, atPid, waitless, finished, kept⟩
    obtain ⟨new, now, -, -, unchanged, -⟩ := still q old there
    exact ⟨old, unchanged result finished ▸ now, atPid, waitless, finished, kept⟩
  refine ⟨fun q now there => ?_, fun pid q entry => ?_, fun q gone => ?_, fun pid q result filed => ?_,
    fun pid q result given => own _ _ _ (was.returned pid q result given), was.once⟩
  · rw [Dict.get?_set] at there
    split at there
    next same => exact same ▸ was.named p proc found
    next => exact was.named q now there
  · obtain ⟨old, there, atPid, stage, kept⟩ := was.entries pid q entry
    obtain ⟨new, now, pids, listed, -, -⟩ := still q old there
    exact ⟨new, now, pids.trans atPid, listed (atPid.symm ▸ entry) stage, kept⟩
  · obtain ⟨old, there, born⟩ := was.removed q gone
    obtain ⟨new, now, -, -, -, unborn⟩ := still q old there
    exact ⟨new, now, fun spawned => born (unborn spawned)⟩
  · obtain ⟨whose, fresh⟩ := was.unread pid q result filed
    exact ⟨own _ _ _ whose, fresh⟩

theorem spawn (was : Consistent s log) (pid : Nat) (wait : Bool) : Consistent (s.spawn pid wait) log := by
  have still : ∀ q old, s.procs.get? q = some old → (s.spawn pid wait).procs.get? q = some old := by
    intro q old there
    have before := was.named q old there
    simp only [State.spawn]
    rw [Dict.get?_set, if_neg (by omega)]
    exact there
  have own : ∀ pid' q result, Own s log pid' q result → Own (s.spawn pid wait) log pid' q result := by
    rintro pid' q result ⟨old, there, rest⟩
    exact ⟨old, still q old there, rest⟩
  refine ⟨fun q now there => ?_, fun pid' q entry => ?_, fun q gone => ?_, fun pid' q result filed => ?_,
    fun pid' q result given => own _ _ _ (was.returned pid' q result given), was.once⟩
  · simp only [State.spawn, Dict.get?_set] at there ⊢
    split at there
    · omega
    · have before := was.named q now there
      omega
  · obtain ⟨old, there, rest⟩ := was.entries pid' q entry
    exact ⟨old, still q old there, rest⟩
  · obtain ⟨old, there, born⟩ := was.removed q gone
    exact ⟨old, still q old there, born⟩
  · obtain ⟨whose, fresh⟩ := was.unread pid' q result filed
    exact ⟨own _ _ _ whose, fresh⟩

/-- The tables may lose entries at any time. -/
theorem fewer (was : Consistent s log) (procDict : Dict Nat Nat) (deadProcs : Dict Nat (Nat × ρ))
    (entries : ∀ pid p, procDict.get? pid = some p → s.procDict.get? pid = some p)
    (results : ∀ pid value, deadProcs.get? pid = some value → s.deadProcs.get? pid = some value) :
    Consistent { s with procDict, deadProcs } log where
  named := was.named
  entries pid p entry := was.entries pid p (entries pid p entry)
  removed := was.removed
  unread pid p result filed := was.unread pid p result (results pid _ filed)
  returned := was.returned
  once := was.once

theorem enter (was : Consistent s log) (found : s.procs.get? p = some proc) (spawned : proc.stage = .spawned) :
    Consistent { s.goto p proc .entered with procDict := s.procDict.set proc.pid p } log := by
  have now : Consistent (s.goto p proc .entered) log :=
    was.moved found { proc with stage := .entered } rfl (fun _ => rfl) (by simp [spawned]) (by simp)
  refine ⟨now.named, fun pid q entry => ?_, now.removed, now.unread, now.returned, now.once⟩
  rw [Dict.get?_set] at entry
  split at entry
  next same =>
    cases entry
    refine ⟨{ proc with stage := .entered }, Dict.get?_set_self .., same.symm, rfl, fun gone => ?_⟩
    obtain ⟨old, there, born⟩ := was.removed p gone
    cases found.symm.trans there
    exact born spawned
  next => exact now.entries pid q entry

/-- A process whose waiter has not finished has given out no result. -/
theorem unreturned (was : Consistent s log) (found : s.procs.get? p = some proc)
    (unfinished : ∀ result, proc.stage ≠ .done result) : log.countP (Entry.returns p) = 0 := by
  by_contra counted
  obtain ⟨given, member, returns⟩ := List.countP_pos_iff.mp (Nat.pos_of_ne_zero counted)
  cases given with
  | returned pid q result =>
    cases (of_decide_eq_true returns : q = p)
    obtain ⟨old, there, -, -, finished, -⟩ := was.returned pid p result member
    cases found.symm.trans there
    exact unfinished result finished
  | removed | inProgress => simp [Entry.returns] at returns

theorem file (was : Consistent s log) {pid : Nat} {result : ρ} (whose : Own s log pid p result)
    (fresh : log.countP (Entry.returns p) = 0) :
    Consistent { s with deadProcs := s.deadProcs.set pid (p, result) } log := by
  refine ⟨was.named, was.entries, was.removed, fun other q value filed => ?_, was.returned, was.once⟩
  rw [Dict.get?_set] at filed
  split at filed
  next same =>
    cases filed
    exact ⟨same ▸ whose, fresh⟩
  next => exact was.unread other q value filed

theorem settle (was : Consistent s log) (found : s.procs.get? p = some proc) {result : ρ}
    (collected : proc.stage = .collected result) : Consistent (s.settle p proc result) log := by
  have fresh := was.unreturned found (by simp [collected])
  unfold State.settle
  simp only []
  split
  next entry =>
    obtain ⟨old, there, -, -, kept⟩ := was.entries _ _ entry
    have out := was.fewer (s.procDict.erase proc.pid) s.deadProcs (fun _ _ other => (Dict.get?_of_erase other).2)
      (fun _ _ => id)
    have finished := out.moved found { proc with stage := .done result } rfl
      (fun other => absurd rfl (Dict.get?_of_erase other).1) (by simp [collected]) (by simp)
    split
    next => exact finished
    next waitless =>
      exact finished.file ⟨_, Dict.get?_set_self .., rfl, by simpa using waitless, rfl, kept⟩ fresh
  next elsewhere =>
    exact was.moved found { proc with stage := .done result } rfl (fun entry => absurd entry elsewhere)
      (by simp [collected]) (by simp)

/-- A listed process that is in `__proc_dict` no more counts as removed. -/
theorem removing (was : Consistent s log) (found : s.procs.get? p = some proc) (listed : proc.stage.listed = true)
    (gone : ∀ pid, s.procDict.get? pid ≠ some p) : Consistent s (log ++ [.removed p]) := by
  have others : ∀ q, q ≠ p → .removed q ∉ log → .removed q ∉ log ++ [Entry.removed p] := by
    intro q different kept
    simp [kept, different]
  have own : ∀ pid q result, Own s log pid q result → Own s (log ++ [.removed p]) pid q result := by
    rintro pid q result ⟨now, there, atPid, waitless, finished, kept⟩
    have different : q ≠ p := by
      rintro rfl
      cases found.symm.trans there
      simp [finished, Stage.listed] at listed
    exact ⟨now, there, atPid, waitless, finished, others q different kept⟩
  have counts : ∀ q, (log ++ [Entry.removed p]).countP (Entry.returns q) = log.countP (Entry.returns q) := by
    simp [List.countP_append, Entry.returns]
  refine ⟨was.named, fun pid q entry => ?_, fun q removed => ?_, fun pid q result filed => ?_,
    fun pid q result given => ?_, fun q => counts q ▸ was.once q⟩
  · obtain ⟨now, there, atPid, stage, kept⟩ := was.entries pid q entry
    have different : q ≠ p := fun same => gone pid (same ▸ entry)
    exact ⟨now, there, atPid, stage, others q different kept⟩
  · rcases List.mem_append.mp removed with old | new
    · exact was.removed q old
    · cases List.mem_singleton.mp new
      refine ⟨proc, found, fun spawned => ?_⟩
      simp [spawned, Stage.listed] at listed
  · obtain ⟨whose, fresh⟩ := was.unread pid q result filed
    exact ⟨own _ _ _ whose, (counts q).trans fresh⟩
  · exact own _ _ _ (was.returned pid q result (by simpa using given))

theorem removePid (was : Consistent s log) (pid : Nat) :
    Consistent (s.removePid pid).1 (log ++ (s.removePid pid).2) := by
  unfold State.removePid
  cases entry : s.procDict.get? pid with
  | none => simpa using was
  | some p =>
    obtain ⟨proc, found, atPid, listed, -⟩ := was.entries pid p entry
    have killed := was.moved found { proc with reaped := true } rfl (fun _ => listed)
      (by intro result finished; simp [finished, Stage.listed] at listed) id
    have fewer := killed.fewer (s.procDict.erase pid) s.deadProcs
      (fun _ _ there => (Dict.get?_of_erase there).2) (fun _ _ => id)
    simp only [State.reap, found]
    refine fewer.removing (Dict.get?_set_self ..) listed fun other there => ?_
    obtain ⟨elsewhere, before⟩ := Dict.get?_of_erase there
    obtain ⟨old, found', atOther, -⟩ := was.entries other p before
    cases found.symm.trans found'
    exact elsewhere (atOther.symm.trans atPid)

theorem status (was : Consistent s log) (pid : Nat) : Consistent (s.status pid).1 (log ++ (s.status pid).2) := by
  unfold State.status
  cases filed : s.deadProcs.get? pid with
  | none =>
    have counts : ∀ q, (log ++ [Entry.inProgress pid]).countP (Entry.returns q) = log.countP (Entry.returns (ρ := ρ) q) := by
      simp [List.countP_append, Entry.returns]
    simp only []
    refine ⟨was.named, ?_, ?_, ?_, ?_, fun q => counts q ▸ was.once q⟩
    · simpa using was.entries
    · simpa using was.removed
    · intro pid' q result there
      simpa [Own, counts] using was.unread pid' q result there
    · simpa [Own] using was.returned
  | some value =>
    obtain ⟨p, result⟩ := value
    obtain ⟨whose, fresh⟩ := was.unread pid p result filed
    have own : ∀ pid' q other, Own s log pid' q other →
        Own { s with deadProcs := s.deadProcs.erase pid } (log ++ [.returned pid p result]) pid' q other := by
      rintro pid' q other ⟨old, there, at', waitless, finished, kept⟩
      exact ⟨old, there, at', waitless, finished, by simpa using kept⟩
    simp only []
    refine ⟨was.named, ?_, ?_, fun pid' q other there => ?_, fun pid' q other given => ?_, fun q => ?_⟩
    · simpa using was.entries
    · simpa using was.removed
    · obtain ⟨elsewhere, filed'⟩ := Dict.get?_of_erase there
      obtain ⟨whose', fresh'⟩ := was.unread pid' q other filed'
      refine ⟨own _ _ _ whose', ?_⟩
      have different : ¬ p = q := by
        rintro rfl
        obtain ⟨old, at1, pid1, -⟩ := whose
        obtain ⟨old', at2, pid2, -⟩ := whose'
        cases at1.symm.trans at2
        exact elsewhere (pid2.symm.trans pid1)
      simp [List.countP_append, fresh', Entry.returns, different]
    · rcases List.mem_append.mp given with old | new
      · exact own _ _ _ (was.returned pid' q other old)
      · cases List.mem_singleton.mp new
        exact own _ _ _ whose
    · by_cases same : p = q
      · subst same
        simp [List.countP_append, fresh, Entry.returns]
      · simpa [List.countP_append, Entry.returns, same] using was.once q

end Consistent

/-- The removals of a `shutdown`, one after another. -/
def State.removePids (s : State ρ) : List Nat → State ρ × List (Entry ρ)
  | [] => (s, [])
  | pid :: rest =>
    (((s.removePid pid).1.removePids rest).1, (s.removePid pid).2 ++ ((s.removePid pid).1.removePids rest).2)

theorem State.reap_procDict (s : State ρ) (p : Nat) (d : Dict Nat Nat) :
    State.reap { s with procDict := d } p = { s.reap p with procDict := d } := by
  unfold State.reap
  cases s.procs.get? p <;> rfl

theorem State.reaps_procDict (s : State ρ) (ps : List Nat) (d : Dict Nat Nat) :
    ps.foldl State.reap { s with procDict := d } = { ps.foldl State.reap s with procDict := d } := by
  induction ps generalizing s with
  | nil => rfl
  | cons p rest ih => rw [List.foldl_cons, List.foldl_cons, State.reap_procDict, ih]

theorem removePids_eq (s : State ρ) (entries : List (Nat × Nat)) (nodup : (entries.map Prod.fst).Nodup)
    (listed : ∀ entry ∈ entries, s.procDict.get? entry.1 = some entry.2) :
    s.removePids (entries.map Prod.fst) =
      ({ (entries.map Prod.snd).foldl State.reap s with
          procDict := (entries.map Prod.fst).foldl Dict.erase s.procDict },
        (entries.map Prod.snd).map .removed) := by
  induction entries generalizing s with
  | nil => rfl
  | cons entry rest ih =>
    obtain ⟨pid, p⟩ := entry
    rw [List.map_cons, List.nodup_cons] at nodup
    have first : s.removePid pid = ({ s.reap p with procDict := s.procDict.erase pid }, [.removed p]) := by
      simp only [State.removePid, listed (pid, p) List.mem_cons_self]
    have later := ih { s.reap p with procDict := s.procDict.erase pid } nodup.2 (by
      intro entry member
      have different : entry.1 ≠ pid := fun same => nodup.1 (List.mem_map.mpr ⟨entry, member, same⟩)
      simp only []
      rw [Dict.get?_erase, if_neg different]
      exact listed entry (List.mem_cons_of_mem _ member))
    simp only [List.map_cons, State.removePids, first, later, List.foldl_cons, State.reaps_procDict, List.singleton_append]

/-- Killing all and then deleting all is removing one after another. -/
theorem State.shutdown_eq (s : State ρ) : s.shutdown false = s.removePids s.procDict.keys := by
  have removed := removePids_eq s s.procDict.entries s.procDict.nodup
    (fun _ member => Dict.get?_eq_some_iff.mpr member)
  exact removed.symm

/-- What every part of a step keeps, the step keeps. -/
theorem step_keeps (holds : State ρ → List (Entry ρ) → Prop) {s : State ρ} {log : List (Entry ρ)} (was : holds s log)
    (action : Action ρ)
    (spawn : ∀ pid wait, action = .spawn pid wait → s.pidFree pid = true → holds (s.spawn pid wait) log)
    (enter : ∀ p proc, s.procs.get? p = some proc → proc.stage = .spawned →
      holds { s.goto p proc .entered with procDict := s.procDict.set proc.pid p } log)
    (move : ∀ p proc next, s.procs.get? p = some proc → proc.stage.running = true → next.pid = proc.pid →
      (next.reaped = false → proc.reaped = false) → next.stage.listed = true →
      holds { s with procs := s.procs.set p next } log)
    (settle : ∀ p proc result, s.procs.get? p = some proc → proc.stage = .collected result →
      holds (s.settle p proc result) log)
    (remove : ∀ s log pid, holds s log → holds (s.removePid pid).1 (log ++ (s.removePid pid).2))
    (status : ∀ pid, holds (s.status pid).1 (log ++ (s.status pid).2)) :
    holds (step s action).1 (log ++ (step s action).2) := by
  have still : holds s (log ++ []) := (List.append_nil log).symm ▸ was
  have unlogged : ∀ {later}, holds later log → holds later (log ++ []) := fun now => (List.append_nil log).symm ▸ now
  cases action with
  | spawn pid wait =>
    simp only [step]
    split
    next free => exact unlogged (spawn pid wait rfl free)
    next => exact still
  | enter p =>
    simp only [step]
    split
    next found => exact unlogged (enter p _ found rfl)
    next => exact still
  | startWaiter p =>
    simp only [step]
    split
    next found => exact unlogged (move p _ _ found rfl rfl id rfl)
    next => exact still
  | failWaiter p =>
    simp only [step]
    split
    next pid _ found => exact remove _ log pid (move p _ _ found rfl rfl id rfl)
    next => exact still
  | getResult p result =>
    simp only [step]
    split
    next found => exact unlogged (move p _ _ found rfl rfl (by simp) rfl)
    next found => exact unlogged (move p _ _ found rfl rfl (by simp) rfl)
    next => exact still
  | settle p =>
    simp only [step]
    split
    next found => exact unlogged (settle p _ _ found rfl)
    next => exact still
  | kill pid => exact remove s log pid was
  | terminate pid => exact remove s log pid was
  | status pid => exact status pid
  | shutdown keep =>
    cases keep with
    | true => exact still
    | false =>
      simp only [step]
      rw [State.shutdown_eq]
      generalize s.procDict.keys = pids
      clear spawn enter move settle status still unlogged
      induction pids generalizing s log with
      | nil => exact (List.append_nil log).symm ▸ was
      | cons pid rest ih =>
        have later := ih (remove s log pid was)
        simpa only [State.removePids, List.append_assoc] using later

theorem Consistent.step {s : State ρ} {log : List (Entry ρ)} (was : Consistent s log) (action : Action ρ) :
    Consistent (step s action).1 (log ++ (step s action).2) := by
  refine step_keeps Consistent was action (fun pid wait _ _ => was.spawn pid wait) (fun p proc => was.enter)
    (fun p proc next found running samePid _ listed => ?_) (fun p proc result found stage => was.settle found stage)
    (fun s log pid now => now.removePid pid) was.status
  refine was.moved found next samePid (fun _ => listed) (fun result finished => ?_) (fun born => ?_)
  · simp [finished, Stage.running] at running
  · simp [born, Stage.listed] at listed

end DEFw.Launcher
