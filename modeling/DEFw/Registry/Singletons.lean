import DEFw.Registry.Threads

namespace DEFw.Registry
open Py

/-- What a thread can do under its next lock. -/
inductive Moves (host : Host) (thread : Thread) (t : Tables) : Stage → Tables → Prop
  | plain (to_ : Stage) (bare : ∀ instance_, to_ ≠ .aliasing instance_ ∧ to_ ≠ .binding instance_ ∧ to_ ≠ .adding instance_) :
      Moves host thread t to_ t
  | known (instance_ : Instance) (stored : t.globalSingletonDb.get? thread.rpc.key = some instance_) :
      Moves host thread t (.aliasing instance_) t
  | created (made : ClassName) (locked : thread.takesSingletons host = true)
      (absent : t.globalSingletonDb.get? thread.rpc.key = none) :
      Moves host thread t (.aliasing (t.create made).1) { (t.create made).2 with
        globalSingletonDb := (t.create made).2.globalSingletonDb.set thread.rpc.key (t.create made).1 }
  | unaliased (instance_ : Instance) (stage : thread.stage = .aliasing instance_) : Moves host thread t (.binding instance_) t
  | bound (instance_ : Instance) (outcome : Except Raised Value) (stage : thread.stage = .binding instance_)
      (absent : t.globalClassDb.get? thread.rpc.classId = none) :
      Moves host thread t (.ended outcome) { t with
        globalClassDb := t.globalClassDb.set thread.rpc.classId instance_
        globalSingletonAliasDb := t.globalSingletonAliasDb.set thread.rpc.classId thread.rpc.key }
  | dirsvc : Moves host thread t (.adding host.dirsvc) t
  | constructed (made : ClassName) : Moves host thread t (.adding (t.create made).1) (t.create made).2
  | added (instance_ : Instance) (outcome : Except Raised Value) (stage : thread.stage = .adding instance_)
      (absent : t.globalClassDb.get? thread.rpc.classId = none) :
      Moves host thread t (.ended outcome) { t with globalClassDb := t.globalClassDb.set thread.rpc.classId instance_ }
  | deleted (outcome : Except Raised Value) : Moves host thread t (.ended outcome) (t.delEntryFromClassDb thread.rpc.classId)

section Inversion

variable {host : Host} {thread : Thread} {t : Tables}

theorem Moves.ended (outcome : Except Raised Value) : Moves host thread t (.ended outcome) t := .plain _ (by simp)

theorem moves_acquireSingleton (stage : thread.stage = .started) (type : thread.rpc.type = .instantiateClass)
    (foreign : host.isOwnDirsvc thread.rpc = false) (mode : thread.callee.instanceMode = .singleton) :
    Moves host thread t (acquireSingleton thread.callee thread.rpc t).1 (acquireSingleton thread.callee thread.rpc t).2 := by
  unfold acquireSingleton Tables.getOrCreateSingletonInstance
  cases found : thread.callee.construct with
  | none => exact .ended _
  | some made =>
    cases stored : t.globalSingletonDb.get? (Tables.getSingletonKey thread.rpc.module thread.rpc.className) with
    | some instance_ => exact .known instance_ stored
    | none =>
      simp only [Option.isNone_some, Bool.false_eq_true, if_false, Callee.instantiate, found]
      cases made with
      | error raised => exact .ended _
      | ok made =>
        refine .created made ?_ stored
        simp [Thread.takesSingletons, stage, type, mode, foreign, found]

theorem moves_constructUnknown :
    Moves host thread t (constructUnknown thread.callee thread.rpc t).1 (constructUnknown thread.callee thread.rpc t).2 := by
  unfold constructUnknown
  cases t.getClassFromDb thread.rpc.classId with
  | ok instance_ => exact .ended _
  | error raised =>
    cases thread.callee.instantiate thread.rpc with
    | error raised => exact .ended _
    | ok made => exact .constructed made

theorem moves_startInstantiate (stage : thread.stage = .started) (type : thread.rpc.type = .instantiateClass) :
    Moves host thread t (startInstantiate host thread.callee thread.rpc t).1
      (startInstantiate host thread.callee thread.rpc t).2 := by
  unfold startInstantiate
  cases own : host.isOwnDirsvc thread.rpc with
  | true =>
    cases t.hasClassEntry thread.rpc.classId with
    | true => exact .ended _
    | false => exact .dirsvc
  | false =>
    cases mode : thread.callee.instanceMode with
    | singleton => exact moves_acquireSingleton stage type own mode
    | perConnection => exact moves_constructUnknown

theorem moves_startDestroy :
    Moves host thread t (startDestroy host thread.rpc t).1 (startDestroy host thread.rpc t).2 := by
  unfold startDestroy
  cases host.isOwnDirsvc thread.rpc with
  | true => exact .deleted _
  | false =>
    cases t.getClassFromDb thread.rpc.classId with
    | error raised => exact .ended _
    | ok instance_ => exact .plain _ (by simp)

theorem moves_binding (instance_ : Instance) (stage : thread.stage = .binding instance_) :
    Moves host thread t (advance host thread.callee thread.rpc t (.binding instance_)).1
      (advance host thread.callee thread.rpc t (.binding instance_)).2 := by
  simp only [advance, Tables.bindSingletonAlias]
  cases absent : t.globalClassDb.get? thread.rpc.classId with
  | some other => exact .ended _
  | none => exact .bound instance_ _ stage absent

theorem moves_adding (instance_ : Instance) (stage : thread.stage = .adding instance_) :
    Moves host thread t (advance host thread.callee thread.rpc t (.adding instance_)).1
      (advance host thread.callee thread.rpc t (.adding instance_)).2 := by
  simp only [advance, Tables.addToClassDb]
  cases absent : t.globalClassDb.get? thread.rpc.classId with
  | some other => exact .ended _
  | none => exact .added instance_ _ stage absent

theorem moves_advance : Moves host thread t (advance host thread.callee thread.rpc t thread.stage).1
    (advance host thread.callee thread.rpc t thread.stage).2 := by
  cases stage : thread.stage with
  | started =>
    simp only [advance]
    cases type : thread.rpc.type with
    | functionCall => exact .ended _
    | methodCall => exact .ended _
    | unexpected text => exact .ended _
    | instantiateClass => exact moves_startInstantiate stage type
    | destroyClass => exact moves_startDestroy
  | aliasing instance_ =>
    simp only [advance]
    cases t.hasClassEntry thread.rpc.classId with
    | true => exact .ended _
    | false => exact .unaliased instance_ stage
  | binding instance_ => exact moves_binding instance_ stage
  | adding instance_ => exact moves_adding instance_ stage
  | releasing => exact .plain _ (by simp [advance])
  | deleting => exact .deleted _
  | ended outcome => exact .ended outcome

end Inversion

/-- The service has this object: in the table, or in the hands of an eviction that has
not dropped the aliases yet. -/
def Server.Shared (s : Server) (instance_ : Instance) (key : String) : Prop :=
  s.tables.globalSingletonDb.get? key = some instance_ ∨ s.evicting = some (key, some instance_)

/-- An object that is not, and never was, the object of a singleton service. -/
structure Server.Private (s : Server) (log : List Observed) (instance_ : Instance) : Prop where
  old : instance_.object < s.tables.created
  apart : ∀ key, ¬s.Shared instance_ key
  kept : .evicted instance_ ∉ log

/-- The object that a thread has in hand. -/
def Thread.Holds (thread : Thread) (s : Server) (log : List Observed) : Prop :=
  match thread.stage with
  | .aliasing instance_ | .binding instance_ => s.tables.globalSingletonDb.get? thread.rpc.key = some instance_
  | .adding instance_ => s.Private log instance_
  | _ => True

/-- The service of which a thread has the object that it is going to bind. -/
def Thread.window (thread : Thread) : Option String :=
  match thread.stage with
  | .aliasing _ | .binding _ => some thread.rpc.key
  | _ => none

/-- The tables agree: an alias leads to the object of its service, and every other entry
to an object that is no singleton. -/
structure Consistent (host : Host) (s : Server) (log : List Observed) : Prop where
  bound : ∀ classId key, s.tables.globalSingletonAliasDb.get? classId = some key →
    ∃ instance_, s.tables.globalClassDb.get? classId = some instance_ ∧ s.Shared instance_ key
  entries : ∀ classId instance_, s.tables.globalClassDb.get? classId = some instance_ →
    s.tables.globalSingletonAliasDb.get? classId = none → s.Private log instance_
  threads : ∀ id thread, s.threads.get? id = some thread → thread.Holds s log
  dirsvc : s.Private log host.dirsvc
  made : ∀ instance_ key, s.Shared instance_ key → instance_.object < s.tables.created
  unique : ∀ instance_ key other, s.Shared instance_ key → s.Shared instance_ other → key = other
  taken : ∀ key popped, s.evicting = some (key, popped) → s.tables.globalSingletonDb.get? key = none
  evicted : ∀ instance_, .evicted instance_ ∈ log →
    instance_.object < s.tables.created ∧ ∀ key, ¬s.Shared instance_ key
  order : log.Pairwise fun earlier later => ∀ classId instance_, earlier = .evicted instance_ → later ≠ .reached classId instance_

variable {host : Host} {s next : Server} {log : List Observed}

/-- An object that is no singleton stays so while singletons are new objects and only
singletons are evicted. -/
theorem Server.Private.keep (new : List Observed) {instance_ : Instance} (was : s.Private log instance_)
    (grown : s.tables.created ≤ next.tables.created)
    (shared : ∀ key, next.Shared instance_ key → s.Shared instance_ key ∨ s.tables.created ≤ instance_.object)
    (evicts : .evicted instance_ ∈ new → ∃ key, s.Shared instance_ key) : next.Private (log ++ new) instance_ where
  old := Nat.lt_of_lt_of_le was.old grown
  apart key now := (shared key now).elim (was.apart key) (Nat.not_le_of_lt was.old)
  kept member := by
    rcases List.mem_append.mp member with earlier | later
    · exact was.kept earlier
    · obtain ⟨key, now⟩ := evicts later
      exact was.apart key now

theorem Thread.Holds.keep (new : List Observed) {thread : Thread} (holds : thread.Holds s log)
    (stored : ∀ key instance_, thread.window = some key → s.tables.globalSingletonDb.get? key = some instance_ →
      next.tables.globalSingletonDb.get? key = some instance_)
    (apart : ∀ instance_, s.Private log instance_ → next.Private (log ++ new) instance_) : thread.Holds next (log ++ new) := by
  unfold Thread.Holds Thread.window at *
  cases stage : thread.stage with
  | aliasing instance_ =>
    rw [stage] at holds stored
    exact stored _ _ rfl holds
  | binding instance_ =>
    rw [stage] at holds stored
    exact stored _ _ rfl holds
  | adding instance_ =>
    rw [stage] at holds
    exact apart instance_ holds
  | _ => trivial

namespace Consistent

/-- No entry of the class table leads to an object that was evicted. -/
theorem entry_kept (was : Consistent host s log) {classId : String} {instance_ : Instance}
    (entry : s.tables.globalClassDb.get? classId = some instance_) : .evicted instance_ ∉ log := by
  intro member
  cases alias_ : s.tables.globalSingletonAliasDb.get? classId with
  | none => exact (was.entries classId instance_ entry alias_).kept member
  | some key =>
    obtain ⟨other, same, shared⟩ := was.bound classId key alias_
    cases entry.symm.trans same
    exact (was.evicted instance_ member).2 key shared

/-- A service has one object. -/
theorem shared_unique (was : Consistent host s log) {key : String} {instance_ other : Instance}
    (first : s.Shared instance_ key) (second : s.Shared other key) : instance_ = other := by
  rcases first with stored | taken <;> rcases second with otherStored | otherTaken
  · exact Option.some.inj (stored.symm.trans otherStored)
  · simp [was.taken key _ otherTaken] at stored
  · simp [was.taken key _ taken] at otherStored
  · simpa [taken] using otherTaken

/-- A step that leaves alone which object is shared by which service. -/
theorem frame (was : Consistent host s log) (shared : ∀ instance_ key, next.Shared instance_ key ↔ s.Shared instance_ key)
    (grown : s.tables.created ≤ next.tables.created)
    (bound : ∀ classId key, next.tables.globalSingletonAliasDb.get? classId = some key →
      ∃ instance_, next.tables.globalClassDb.get? classId = some instance_ ∧ s.Shared instance_ key)
    (entries : ∀ classId instance_, next.tables.globalClassDb.get? classId = some instance_ →
      next.tables.globalSingletonAliasDb.get? classId = none → s.Private log instance_)
    (threads : ∀ id thread, next.threads.get? id = some thread → thread.Holds s log ∧
      ∀ key instance_, thread.window = some key → s.tables.globalSingletonDb.get? key = some instance_ →
        next.tables.globalSingletonDb.get? key = some instance_)
    (taken : ∀ key popped, next.evicting = some (key, popped) → next.tables.globalSingletonDb.get? key = none) :
    Consistent host next log := by
  have apart (instance_ : Instance) (private_ : s.Private log instance_) : next.Private (log ++ []) instance_ :=
    private_.keep [] grown (fun key now => .inl ((shared instance_ key).mp now)) (by simp)
  have held (id : Nat) (thread : Thread) (found : next.threads.get? id = some thread) : thread.Holds next (log ++ []) :=
    (threads id thread found).1.keep [] (threads id thread found).2 apart
  rw [List.append_nil] at apart held
  refine ⟨?_, fun classId instance_ entry alias_ => apart _ (entries classId instance_ entry alias_), held,
    apart _ was.dirsvc, ?_, ?_, taken, ?_, was.order⟩
  · simpa only [shared] using bound
  · intro instance_ key now
    exact Nat.lt_of_lt_of_le (was.made instance_ key ((shared instance_ key).mp now)) grown
  · simpa only [shared] using was.unique
  · intro instance_ member
    obtain ⟨old, apart⟩ := was.evicted instance_ member
    exact ⟨Nat.lt_of_lt_of_le old grown, fun key now => apart key ((shared instance_ key).mp now)⟩

/-- A step of a thread that leaves the singletons alone. -/
theorem retable (was : Consistent host s log) {t : Tables} (singletons : t.globalSingletonDb = s.tables.globalSingletonDb)
    (grown : s.tables.created ≤ t.created)
    (bound : ∀ classId key, t.globalSingletonAliasDb.get? classId = some key →
      ∃ instance_, t.globalClassDb.get? classId = some instance_ ∧ s.Shared instance_ key)
    (entries : ∀ classId instance_, t.globalClassDb.get? classId = some instance_ →
      t.globalSingletonAliasDb.get? classId = none → s.Private log instance_) :
    Consistent host { s with tables := t } log := by
  refine was.frame (fun instance_ key => ?_) grown bound entries (fun id thread found => ⟨was.threads id thread found, ?_⟩) ?_
  · simp only [Server.Shared, singletons]
  · simp only [singletons]
    exact fun key instance_ _ stored => stored
  · simpa only [singletons] using was.taken

/-- A thread that comes in or goes on. -/
theorem resume (was : Consistent host s log) (slot accepted : Nat) (thread : Thread) (holds : thread.Holds s log) :
    Consistent host { s with threads := s.threads.set slot thread, accepted := accepted } log := by
  refine was.frame (fun _ _ => Iff.rfl) le_rfl was.bound was.entries (fun other resumed found => ⟨?_, fun _ _ _ => id⟩) was.taken
  rw [Dict.get?_set] at found
  split at found
  · cases found
    exact holds
  · exact was.threads other resumed found

/-- `bind_singleton_alias`, with the object that the table has for the service. -/
theorem bind (was : Consistent host s log) {classId key : String} {instance_ : Instance}
    (stored : s.tables.globalSingletonDb.get? key = some instance_) : Consistent host { s with tables := { s.tables with
      globalClassDb := s.tables.globalClassDb.set classId instance_
      globalSingletonAliasDb := s.tables.globalSingletonAliasDb.set classId key } } log := by
  refine was.retable rfl le_rfl (fun other otherKey alias_ => ?_) (fun other found entry alias_ => ?_)
  · simp only [Dict.get?_set] at alias_ ⊢
    by_cases same : other = classId
    · simp only [same, if_true, Option.some.injEq] at alias_ ⊢
      subst alias_
      exact ⟨instance_, rfl, .inl stored⟩
    · simp only [same, if_false] at alias_ ⊢
      exact was.bound other otherKey alias_
  · simp only [Dict.get?_set] at entry alias_
    by_cases same : other = classId
    · simp [same] at alias_
    · simp only [same, if_false] at entry alias_
      exact was.entries other found entry alias_

/-- `add_to_class_db`, with an object that is no singleton. -/
theorem add (was : Consistent host s log) {classId : String} {instance_ : Instance}
    (absent : s.tables.globalClassDb.get? classId = none) (apart : s.Private log instance_) :
    Consistent host { s with tables := { s.tables with
      globalClassDb := s.tables.globalClassDb.set classId instance_ } } log := by
  refine was.retable rfl le_rfl (fun other key alias_ => ?_) (fun other found entry alias_ => ?_)
  · obtain ⟨found, entry, shared⟩ := was.bound other key alias_
    have different : other ≠ classId := by
      rintro rfl
      simp [absent] at entry
    exact ⟨found, by simpa [Dict.get?_set, different] using entry, shared⟩
  · simp only [Dict.get?_set] at entry
    split at entry
    · cases entry
      exact apart
    · exact was.entries other found entry alias_

theorem delete (was : Consistent host s log) (classId : String) :
    Consistent host { s with tables := s.tables.delEntryFromClassDb classId } log := by
  unfold Tables.delEntryFromClassDb
  split
  · refine was.retable rfl le_rfl (fun other key alias_ => ?_) (fun other found entry alias_ => ?_)
    · simp only [Dict.get?_erase] at alias_ ⊢
      by_cases same : other = classId
      · simp [same] at alias_
      · simp only [same, if_false] at alias_ ⊢
        exact was.bound other key alias_
    · simp only [Dict.get?_erase] at entry alias_
      by_cases same : other = classId
      · simp [same] at entry
      · simp only [same, if_false] at entry alias_
        exact was.entries other found entry alias_
  · exact was

/-- A new object is no singleton yet. -/
theorem create (was : Consistent host s log) (made : ClassName) :
    Consistent host { s with tables := (s.tables.create made).2 } log ∧
      Server.Private { s with tables := (s.tables.create made).2 } log (s.tables.create made).1 := by
  refine ⟨was.retable rfl (Nat.le_succ _) was.bound was.entries, Nat.lt_succ_self _, fun key shared => ?_,
    fun member => ?_⟩
  · exact Nat.lt_irrefl _ (was.made _ key shared)
  · exact Nat.lt_irrefl _ (was.evicted _ member).1

/-- `get_or_create_singleton_instance` makes a new object the object of a service that
has none. -/
theorem share (was : Consistent host s log) {key : String} (made : ClassName) (free : s.evicting = none)
    (absent : s.tables.globalSingletonDb.get? key = none) :
    Consistent host { s with tables := { (s.tables.create made).2 with
      globalSingletonDb := s.tables.globalSingletonDb.set key (s.tables.create made).1 } } log := by
  generalize after : ({ s with tables := { (s.tables.create made).2 with
    globalSingletonDb := s.tables.globalSingletonDb.set key (s.tables.create made).1 } } : Server) = next
  have created : next.tables.created = s.tables.created + 1 := by rw [← after]; rfl
  have shared (instance_ : Instance) (other : String) : next.Shared instance_ other ↔
      if other = key then instance_ = (s.tables.create made).1 else s.Shared instance_ other := by
    simp only [← after, Server.Shared, Dict.get?_set, free]
    by_cases same : other = key
    · simp [same, eq_comm]
    · simp [same]
  have unshared (instance_ : Instance) : ¬s.Shared instance_ key := by simp [Server.Shared, absent, free]
  have older {instance_ : Instance} {other : String} (now : next.Shared instance_ other) :
      s.Shared instance_ other ∨ instance_.object = s.tables.created := by
    rw [shared] at now
    split at now
    · exact .inr (by rw [now]; rfl)
    · exact .inl now
  have apart (instance_ : Instance) (private_ : s.Private log instance_) : next.Private (log ++ []) instance_ := by
    refine private_.keep [] (by omega) (fun other now => ?_) (by simp)
    exact (older now).imp_right fun same => by omega
  have held (id : Nat) (thread : Thread) (found : s.threads.get? id = some thread) : thread.Holds next (log ++ []) := by
    refine (was.threads id thread found).keep [] (fun other instance_ _ stored => ?_) apart
    have different : other ≠ key := by
      rintro rfl
      simp [absent] at stored
    simpa [← after, Dict.get?_set, different] using stored
  rw [List.append_nil] at apart held
  have kept {instance_ : Instance} {other : String} (was : s.Shared instance_ other) : next.Shared instance_ other := by
    have different : other ≠ key := fun same => unshared instance_ (same ▸ was)
    rw [shared, if_neg different]
    exact was
  refine ⟨fun classId other alias_ => ?_, fun classId instance_ entry alias_ => ?_, ?_, apart _ was.dirsvc,
    fun instance_ other now => ?_, fun instance_ first second here there => ?_, fun other popped taken => ?_,
    fun instance_ member => ?_, was.order⟩
  · subst after
    obtain ⟨instance_, entry, was⟩ := was.bound classId other alias_
    exact ⟨instance_, entry, kept was⟩
  · subst after
    exact apart _ (was.entries classId instance_ entry alias_)
  · subst after
    exact held
  · rcases older now with before | fresh
    · have := was.made instance_ other before
      omega
    · omega
  · have fresh {other : String} (before : s.Shared (s.tables.create made).1 other) : False :=
      Nat.lt_irrefl _ (was.made _ other before)
    simp only [shared] at here there
    by_cases atFirst : first = key <;> by_cases atSecond : second = key <;> simp only [atFirst, atSecond, if_true, if_false]
      at here there ⊢
    · exact (fresh (here ▸ there)).elim
    · exact (fresh (there ▸ here)).elim
    · exact was.unique instance_ first second here there
  · subst after
    simp [free] at taken
  · obtain ⟨old, before⟩ := was.evicted instance_ member
    refine ⟨by omega, fun other now => ?_⟩
    rcases older now with earlier | fresh
    · exact before other earlier
    · omega

/-- `evict_singleton_instance` takes the object of a service out of the table while no
thread is about to bind it. -/
theorem evict (was : Consistent host s log) {key : String} (free : s.evicting = none)
    (unbound : ∀ id thread, s.threads.get? id = some thread → thread.window ≠ some key) :
    Consistent host (s.evict key) log := by
  refine was.frame (fun instance_ other => ?_) le_rfl was.bound was.entries
    (fun id thread found => ⟨was.threads id thread found, fun other instance_ window stored => ?_⟩) (fun other popped taken => ?_)
  · simp only [Server.Shared, Server.evict, Tables.popSingleton, Dict.get?_erase, free]
    by_cases same : other = key
    · simp [same]
    · simp [same, Ne.symm same]
  · have different : other ≠ key := fun same => unbound id thread found (same ▸ window)
    simpa [Server.evict, Tables.popSingleton, Dict.get?_erase, different] using stored
  · cases taken
    simp [Server.evict, Tables.popSingleton, Dict.get?_erase]

/-- The aliases of the service go with its object. -/
theorem drop (was : Consistent host s log) {key : String} {popped : Option Instance} (taken : s.evicting = some (key, popped)) :
    Consistent host { s with tables := s.tables.dropAliases key, evicting := none } (log ++ popped.toList.map .evicted) := by
  generalize after : ({ s with tables := s.tables.dropAliases key, evicting := none } : Server) = next
  have gone : s.tables.globalSingletonDb.get? key = none := was.taken key popped taken
  have shared (instance_ : Instance) (other : String) :
      next.Shared instance_ other ↔ s.tables.globalSingletonDb.get? other = some instance_ := by
    simp [← after, Server.Shared, Tables.dropAliases]
  have older {instance_ : Instance} {other : String} (now : next.Shared instance_ other) : s.Shared instance_ other :=
    .inl ((shared instance_ other).mp now)
  have evicts (instance_ : Instance) : .evicted instance_ ∈ popped.toList.map Observed.evicted ↔ popped = some instance_ := by
    simp [eq_comm]
  have mine {instance_ : Instance} (out : popped = some instance_) : s.Shared instance_ key := .inr (out ▸ taken)
  have apart (instance_ : Instance) (private_ : s.Private log instance_) :
      next.Private (log ++ popped.toList.map .evicted) instance_ := by
    refine private_.keep _ ?_ (fun other now => .inl (older now)) fun member => ⟨key, mine ((evicts instance_).mp member)⟩
    rw [← after]
    exact le_rfl
  refine ⟨fun classId other alias_ => ?_, fun classId instance_ entry alias_ => ?_, fun id thread found => ?_,
    apart _ was.dirsvc, fun instance_ other now => ?_, fun instance_ first second here there => ?_,
    fun other popped taken => ?_, fun instance_ member => ?_, ?_⟩
  · simp only [← after, Tables.dropAliases, Dict.get?_filter, Option.filter_eq_some_iff, decide_eq_true_eq] at alias_ ⊢
    obtain ⟨alias_, different⟩ := alias_
    obtain ⟨instance_, entry, shares⟩ := was.bound classId other alias_
    refine ⟨instance_, ⟨entry, by simpa [alias_] using different⟩, .inl (shares.resolve_right fun evicting => ?_)⟩
    rw [taken] at evicting
    exact different (congrArg Prod.fst (Option.some.inj evicting)).symm
  · simp only [← after, Tables.dropAliases, Dict.get?_filter, Option.filter_eq_some_iff, decide_eq_true_eq] at entry alias_
    refine apart instance_ (was.entries classId instance_ entry.1 ?_)
    cases before : s.tables.globalSingletonAliasDb.get? classId with
    | none => rfl
    | some other =>
      have different : other ≠ key := by simpa [before] using entry.2
      simp [before, different] at alias_
  · subst after
    exact (was.threads id thread found).keep _ (fun _ _ _ stored => stored) apart
  · rw [← after]
    exact was.made instance_ other (older now)
  · exact was.unique instance_ first second (older here) (older there)
  · simp [← after] at taken
  · rcases List.mem_append.mp member with earlier | later
    · obtain ⟨old, before⟩ := was.evicted instance_ earlier
      refine ⟨?_, fun other now => before other (older now)⟩
      rw [← after]
      exact old
    · have out := mine ((evicts instance_).mp later)
      refine ⟨?_, fun other now => ?_⟩
      · rw [← after]
        exact was.made instance_ key out
      · cases was.unique instance_ other key (older now) out
        simp [shared, gone] at now
  · refine List.pairwise_append.mpr ⟨was.order, ?_, fun earlier _ later member classId instance_ _ => ?_⟩
    · cases popped <;> simp
    · obtain ⟨gone, -, rfl⟩ := List.mem_map.mp member
      simp

/-- A method call finds no evicted object. -/
theorem observe (was : Consistent host s log) (thread : Thread) : Consistent host s (log ++ thread.reaches s.tables) := by
  have reached (seen : Observed) (member : seen ∈ thread.reaches s.tables) :
      ∃ classId instance_, seen = .reached classId instance_ ∧ s.tables.globalClassDb.get? classId = some instance_ := by
    unfold Thread.reaches at member
    split at member
    · obtain ⟨instance_, found, rfl⟩ := List.mem_map.mp member
      exact ⟨_, instance_, rfl, Option.mem_toList.mp found⟩
    · exact absurd member List.not_mem_nil
  have quiet (instance_ : Instance) : .evicted instance_ ∉ thread.reaches s.tables := by
    intro member
    obtain ⟨_, _, impossible, -⟩ := reached _ member
    simp at impossible
  have apart (instance_ : Instance) (private_ : s.Private log instance_) :
      s.Private (log ++ thread.reaches s.tables) instance_ :=
    private_.keep _ le_rfl (fun _ => .inl) fun member => absurd member (quiet instance_)
  refine ⟨was.bound, fun classId instance_ entry alias_ => apart _ (was.entries classId instance_ entry alias_),
    fun slot other found => (was.threads slot other found).keep _ (fun _ _ _ => id) apart, apart _ was.dirsvc, was.made, was.unique,
    was.taken, fun instance_ member => ?_, List.pairwise_append.mpr ⟨was.order, ?_, fun earlier before later member => ?_⟩⟩
  · exact was.evicted instance_ ((List.mem_append.mp member).resolve_right (quiet instance_))
  · have any : (thread.reaches s.tables).Pairwise fun _ _ => True := List.pairwise_iff_forall_sublist.mpr fun _ => trivial
    refine any.imp_of_mem fun member _ _ classId instance_ gone => ?_
    exact absurd (gone ▸ member) (quiet instance_)
  · obtain ⟨classId, instance_, rfl, entry⟩ := reached later member
    rintro otherId other rfl same
    cases same
    exact was.entry_kept entry before

/-- A thread goes on. It needs the lock of the singletons to add one. -/
theorem move (was : Consistent host s log) {slot : Nat} {thread : Thread} {stage : Stage} {t : Tables}
    (found : s.threads.get? slot = some thread) (unblocked : s.evicting = none ∨ thread.takesSingletons host = false)
    (moves : Moves host thread s.tables stage t) :
    Consistent host { s with tables := t, threads := s.threads.set slot { thread with stage := stage } } log := by
  have holds := was.threads slot thread found
  cases moves with
  | plain stage bare =>
    refine was.resume slot s.accepted { thread with stage := stage } ?_
    unfold Thread.Holds
    split <;> simp_all
  | known instance_ stored => exact was.resume slot s.accepted { thread with stage := .aliasing instance_ } stored
  | created made locked absent =>
    have free : s.evicting = none := unblocked.resolve_right (by simp [locked])
    exact (was.share made free absent).resume slot s.accepted { thread with stage := .aliasing _ } (Dict.get?_set_self ..)
  | unaliased instance_ at_ =>
    simp only [Thread.Holds, at_] at holds
    exact was.resume slot s.accepted { thread with stage := .binding instance_ } holds
  | bound instance_ outcome at_ absent =>
    simp only [Thread.Holds, at_] at holds
    exact (was.bind holds).resume slot s.accepted { thread with stage := .ended outcome } trivial
  | dirsvc => exact was.resume slot s.accepted { thread with stage := .adding host.dirsvc } was.dirsvc
  | constructed made =>
    exact (was.create made).1.resume slot s.accepted { thread with stage := .adding _ } (was.create made).2
  | added instance_ outcome at_ absent =>
    simp only [Thread.Holds, at_] at holds
    exact (was.add absent holds).resume slot s.accepted { thread with stage := .ended outcome } trivial
  | deleted outcome =>
    exact (was.delete thread.rpc.classId).resume slot s.accepted { thread with stage := .ended outcome } trivial

end Consistent

/-- An eviction begins only while no thread is about to bind the object of the service. -/
def Spared (s : Server) : Action → Prop
  | .shutdownServiceInstance instance_ => s.evicting = none →
    ∀ thread ∈ s.threads.values, thread.window ≠ some (Tables.getSingletonKey instance_.module instance_.className)
  | _ => True

instance : ∀ s action, Decidable (Spared s action)
  | s, .shutdownServiceInstance instance_ => inferInstanceAs (Decidable (s.evicting = none →
      ∀ thread ∈ s.threads.values, thread.window ≠ some (Tables.getSingletonKey instance_.module instance_.className)))
  | _, .request _ _ => isTrue trivial
  | _, .proceed _ => isTrue trivial
  | _, .finishEviction => isTrue trivial

theorem Consistent.step (was : Consistent host s log) {action : Action} (spared : Spared s action) :
    Consistent host (step host s action).1 (log ++ (step host s action).2) := by
  cases action with
  | request rpc callee =>
    rw [Registry.step, List.append_nil]
    exact was.resume s.accepted (s.accepted + 1) ⟨rpc, callee, .started⟩ trivial
  | proceed slot =>
    simp only [Registry.step]
    cases found : s.threads.get? slot with
    | none => simpa using was
    | some thread =>
      by_cases blocked : (s.evicting.isSome && thread.takesSingletons host) = true
      · simpa [blocked] using was
      · simp only [if_neg blocked]
        have unblocked : s.evicting = none ∨ thread.takesSingletons host = false := by
          cases evicting : s.evicting <;> simp_all
        exact (was.observe thread).move found unblocked moves_advance
  | shutdownServiceInstance instance_ =>
    simp only [Registry.step]
    cases free : s.evicting with
    | some evicting => simpa using was
    | none =>
      simp only [Option.isSome_none, Bool.false_eq_true, if_false, List.append_nil]
      exact was.evict free fun slot thread found => spared free thread (Dict.mem_values_iff.mpr ⟨slot, found⟩)
  | finishEviction =>
    simp only [Registry.step]
    cases taken : s.evicting with
    | none => simpa using was
    | some evicting =>
      obtain ⟨key, popped⟩ := evicting
      exact was.drop taken

theorem consistent_start (host : Host) : Consistent host (.start host) [] where
  bound := by simp [Server.start, Tables.empty]
  entries := by simp [Server.start, Tables.empty]
  threads := by simp [Server.start]
  dirsvc := ⟨Nat.lt_succ_self _, by simp [Server.start, Tables.empty, Server.Shared], List.not_mem_nil⟩
  made := by simp [Server.start, Tables.empty, Server.Shared]
  unique := by simp [Server.start, Tables.empty, Server.Shared]
  taken := by simp [Server.start]
  evicted := by simp
  order := .nil

theorem consistent_run (host : Host) {actions : List Action} (spared : (machine host).Admits Spared (.start host) actions) :
    Consistent host ((machine host).final (.start host) actions) ((machine host).log (.start host) actions) :=
  (machine host).run_invariant (Consistent host) (consistent_start host) (fun _ _ _ was spared => was.step spared) spared

/-- While no eviction begins with an object that a thread is about to bind: every class
id of a singleton service is in the class table and leads to the one object of the
service, which is in the singleton table unless an eviction has just taken it from there,
and no method call finds an object that was evicted. -/
theorem one_live_singleton (host : Host) (actions : List Action)
    (spared : (machine host).Admits Spared (.start host) actions) :
    let s := (machine host).final (.start host) actions
    (∀ classId key, s.tables.globalSingletonAliasDb.get? classId = some key →
      ∃ instance_, s.tables.globalClassDb.get? classId = some instance_ ∧
        (s.tables.globalSingletonDb.get? key = some instance_ ∨ s.evicting = some (key, some instance_))) ∧
    (∀ classId other key, s.tables.globalSingletonAliasDb.get? classId = some key →
      s.tables.globalSingletonAliasDb.get? other = some key →
      s.tables.globalClassDb.get? classId = s.tables.globalClassDb.get? other) ∧
    ∀ before classId instance_ later,
      (machine host).log (.start host) actions = before ++ .reached classId instance_ :: later →
      .evicted instance_ ∉ before := by
  intro s
  have consistent := consistent_run host spared
  refine ⟨consistent.bound, fun classId other key first second => ?_, fun before classId instance_ later split member => ?_⟩
  · obtain ⟨instance_, entry, shared⟩ := consistent.bound classId key first
    obtain ⟨found, otherEntry, otherShared⟩ := consistent.bound other key second
    cases consistent.shared_unique shared otherShared
    exact entry.trans otherEntry.symm
  · have order := consistent.order
    rw [split] at order
    exact (List.pairwise_append.mp order).2.2 _ member _ List.mem_cons_self classId instance_ rfl rfl

/-- A process with the singleton service `svc_counter:Counter`. -/
def counterHost : Host := ⟨"server", false, ⟨0, "defw_dirsvc", "DEFwDirSvc"⟩⟩

def counterService : Callee := ⟨.ok (), .singleton, none, some (.ok ⟨"svc_counter", "Counter"⟩), some (.ok .none)⟩

def counterRequest (type : RpcType) (classId : String) : Action :=
  .request ⟨"client", "server", "svc_counter", type, "Counter", "count", classId, "request"⟩ counterService

/-- The object of the service that was made at the given time. -/
def counterObject (object : Nat) : Instance := ⟨object, "svc_counter", "Counter"⟩

/-- The service is shut down between two instantiations. -/
theorem one_live_singleton_replaced :
    let actions := [counterRequest .instantiateClass "class-1", .proceed 0, .proceed 0, .proceed 0,
      .shutdownServiceInstance (counterObject 1), .finishEviction,
      counterRequest .instantiateClass "class-2", .proceed 1, .proceed 1, .proceed 1]
    (machine counterHost).Admits Spared (.start counterHost) actions ∧
    ∃ instance_, ((machine counterHost).final (.start counterHost) actions).tables.globalClassDb.get? "class-2" =
      some instance_ := by
  intro actions
  have spared : (machine counterHost).Admits Spared (.start counterHost) actions := by decide +kernel
  have aliased : ((machine counterHost).final (.start counterHost) actions).tables.globalSingletonAliasDb.get? "class-2" =
      some "svc_counter:Counter" := by decide +kernel
  obtain ⟨instance_, entry, -⟩ := (one_live_singleton counterHost actions spared).1 _ _ aliased
  exact ⟨spared, instance_, entry⟩

/-- The eviction comes between the creation of the object and the binding of its first
alias: the alias leads to the evicted object, and the next caller gets another one. -/
theorem evicted_singleton_reached :
    let actions := [counterRequest .instantiateClass "class-1", .proceed 0,
      .shutdownServiceInstance (counterObject 1), .finishEviction, .proceed 0, .proceed 0,
      counterRequest .instantiateClass "class-2", .proceed 1, .proceed 1, .proceed 1,
      counterRequest .methodCall "class-1", .proceed 2]
    let s := (machine counterHost).final (.start counterHost) actions
    s.evicting = none ∧
    s.tables.globalSingletonAliasDb.get? "class-1" = some "svc_counter:Counter" ∧
    s.tables.globalSingletonAliasDb.get? "class-2" = some "svc_counter:Counter" ∧
    s.tables.globalSingletonDb.get? "svc_counter:Counter" = some (counterObject 2) ∧
    s.tables.globalClassDb.get? "class-2" = some (counterObject 2) ∧
    s.tables.globalClassDb.get? "class-1" = some (counterObject 1) ∧
    (machine counterHost).log (.start counterHost) actions =
      [.evicted (counterObject 1), .reached "class-1" (counterObject 1)] := by
  decide +kernel

end DEFw.Registry
