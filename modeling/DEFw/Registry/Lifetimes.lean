import DEFw.Registry.Proxies

namespace DEFw.Registry
open Py

/-- The objects that were made for a class id. -/
def built (classId : String) (log : List Event) : List Instance :=
  log.filterMap fun
    | .constructed other instance_ => if other = classId then some instance_ else none
    | .called _ _ => none

theorem built_append (classId : String) (log new : List Event) :
    built classId (log ++ new) = built classId log ++ built classId new :=
  List.filterMap_append

/-- The constructor of the class makes an object of the class that the proxy names, or
raises something that is sent to the caller. -/
def Proper (className : String) : Option (Except Raised ClassName) → Prop
  | some (.ok made) => made.name = className
  | some (.error raised) => raised.entry.isSome = true
  | none => True

/-- How far the object of a proxy is: what the class table has for the class id, which
objects were made for it, the state of the proxy and of the server thread. -/
inductive Progress (className : String) : Option Instance → List Instance → Status → Stage → Prop
  | requested (status : Status) (waiting : status ≠ .alive) : Progress className none [] status .started
  | made (instance_ : Instance) (named : instance_.className = className) (status : Status) (waiting : status ≠ .alive) :
      Progress className none [instance_] status (.adding instance_)
  | listed (instance_ : Instance) (named : instance_.className = className) (status : Status) (rc : Value) :
      Progress className (some instance_) [instance_] status (.ended (.ok rc))
  | failed (raised : Raised) (told : raised.entry.isSome = true) (status : Status) (waiting : status ≠ .alive) :
      Progress className none [] status (.ended (.error raised))

namespace Progress

variable {className : String} {entry : Option Instance} {objects : List Instance} {status : Status} {stage : Stage}

/-- A proxy that goes leaves its object as it is. -/
theorem gone (progress : Progress className entry objects status stage) : Progress className entry objects .gone stage := by
  cases progress with
  | requested => exact .requested .gone (by simp)
  | made instance_ named => exact .made instance_ named .gone (by simp)
  | listed instance_ named _ rc => exact .listed instance_ named .gone rc
  | failed raised told => exact .failed raised told .gone (by simp)

theorem of_failed {raised : Raised} (progress : Progress className entry objects status (.ended (.error raised))) :
    entry = none := by
  cases progress with
  | failed => rfl

/-- The object of a live proxy is in the class table. -/
theorem of_alive (progress : Progress className entry objects .alive stage) :
    ∃ instance_, entry = some instance_ ∧ objects = [instance_] ∧ instance_.className = className := by
  cases progress with
  | requested _ waiting => exact absurd rfl waiting
  | made _ _ _ waiting => exact absurd rfl waiting
  | listed instance_ named => exact ⟨instance_, rfl, rfl, named⟩
  | failed _ _ _ waiting => exact absurd rfl waiting

end Progress

/-- The thread of an `instantiate_class` for this proxy. -/
structure Thread.Constructs (host : Host) (thread : Thread) (classId className : String) : Prop where
  sameId : thread.rpc.classId = classId
  sameClass : thread.rpc.className = className
  type : thread.rpc.type = .instantiateClass
  mode : thread.callee.instanceMode = .perConnection
  foreign : host.isOwnDirsvc thread.rpc = false
  proper : Proper className thread.callee.construct

/-- The thread of a `method_call` on an object that is in the class table. -/
structure Thread.Calls (thread : Thread) (entry : Option Instance) (objects : List Instance) : Prop where
  type : thread.rpc.type = .methodCall
  stage : thread.stage = .started ∨ ∃ outcome, thread.stage = .ended outcome
  listed : ∃ instance_, entry = some instance_ ∧ objects = [instance_] ∧ instance_.className = thread.rpc.className

/-- What is known of a class id: the entry of the class table. -/
def Clients.entry (w : Clients) (classId : String) : Option Instance := w.server.tables.globalClassDb.get? classId

structure Coherent (host : Host) (w : Clients) (log : List Event) : Prop where
  free : w.server.evicting = none
  numbered : ∀ id thread, w.server.threads.get? id = some thread → id < w.server.accepted
  proxies : ∀ classId proxy, w.proxies.get? classId = some proxy → ∃ thread,
    w.server.threads.get? proxy.thread = some thread ∧ thread.Constructs host classId proxy.className ∧
    Progress proxy.className (w.entry classId) (built classId log) proxy.status thread.stage
  threads : ∀ id thread, w.server.threads.get? id = some thread →
    (∃ proxy, w.proxies.get? thread.rpc.classId = some proxy ∧ proxy.thread = id) ∨
    thread.Calls (w.entry thread.rpc.classId) (built thread.rpc.classId log)
  unused : ∀ classId, w.proxies.get? classId = none → built classId log = []
  calls : ∀ before classId found later, log = before ++ .called classId found :: later →
    ∃ instance_, found = some instance_ ∧ built classId before = [instance_]

section Advance

variable {host : Host} {thread : Thread} {t : Tables} {classId className : String} {objects : List Instance} {status : Status}

/-- What a step of the constructing thread of a class id does. -/
structure Advances (host : Host) (thread : Thread) (t : Tables) (classId className : String) (objects : List Instance)
    (status : Status) (next : Stage × Tables) : Prop where
  progress : Progress className (next.2.globalClassDb.get? classId) (objects ++ built classId (thread.events next.1 t)) status next.1
  elsewhere : ∀ other, other ≠ classId →
    next.2.globalClassDb.get? other = t.globalClassDb.get? other ∧ built other (thread.events next.1 t) = []
  listed : (t.globalClassDb.get? classId).isSome →
    next.2.globalClassDb.get? classId = t.globalClassDb.get? classId ∧ built classId (thread.events next.1 t) = []
  silent : ∀ other found, .called other found ∉ thread.events next.1 t

theorem Thread.events_of_ne_started (thread : Thread) (next : Stage) (t : Tables) (later : thread.stage ≠ .started) :
    thread.events next t = [] := by
  unfold Thread.events
  split <;> simp_all

/-- The step says nothing and leaves the tables alone. -/
theorem advances_quiet {next : Stage} (silent : thread.events next t = [])
    (progress : Progress className (t.globalClassDb.get? classId) objects status next) :
    Advances host thread t classId className objects status (next, t) where
  progress := by simpa [silent, built] using progress
  elsewhere := by simp [silent, built]
  listed := by simp [silent, built]
  silent := by simp [silent]

theorem advances_started (constructs : thread.Constructs host classId className) (stage : thread.stage = .started)
    (absent : t.globalClassDb.get? classId = none) (waiting : status ≠ .alive) :
    Advances host thread t classId className [] status (advance host thread.callee thread.rpc t .started) := by
  have proper := constructs.proper
  have ends (outcome : Except Raised Value) : thread.events (.ended outcome) t = [] := by
    simp [Thread.events, stage, constructs.type]
  simp only [advance, constructs.type, startInstantiate, constructs.foreign, constructs.mode, constructUnknown,
    Tables.getClassFromDb, constructs.sameId, absent, Callee.instantiate, Bool.false_eq_true, if_false]
  cases result : thread.callee.construct with
  | none => exact advances_quiet (ends _) (absent ▸ .failed _ rfl status waiting)
  | some result_ =>
    rw [result] at proper
    cases result_ with
    | error raised => exact advances_quiet (ends _) (absent ▸ .failed raised proper status waiting)
    | ok made =>
      have made_ : thread.events (.adding (t.create made).1) t = [.constructed classId (t.create made).1] := by
        simp [Thread.events, stage, constructs.type, constructs.sameId]
      refine ⟨?_, fun other different => ⟨rfl, ?_⟩, fun listed => ?_, ?_⟩
      · have objects : built classId (thread.events (.adding (t.create made).1) t) = [(t.create made).1] := by
          simp [made_, built]
        have named : (t.create made).1.className = className := proper
        have unlisted : (t.create made).2.globalClassDb.get? classId = none := absent
        rw [objects, unlisted]
        exact .made _ named status waiting
      · simp [made_, built, different.symm]
      · simp [absent] at listed
      · simp [made_]

theorem advances_constructor (constructs : thread.Constructs host classId className)
    (progress : Progress className (t.globalClassDb.get? classId) objects status thread.stage) :
    Advances host thread t classId className objects status (advance host thread.callee thread.rpc t thread.stage) := by
  generalize entry : t.globalClassDb.get? classId = known at progress
  generalize stage : thread.stage = reached at progress
  cases progress with
  | requested status waiting => exact advances_started constructs stage entry waiting
  | made instance_ named status waiting =>
    have silent (next : Stage) : thread.events next t = [] := thread.events_of_ne_started next t (by simp [stage])
    simp only [advance, Tables.addToClassDb, constructs.sameId, entry]
    refine ⟨?_, fun other different => ⟨?_, ?_⟩, fun listed => ?_, ?_⟩
    · simp only [silent, built, ending, settled]
      simpa using .listed instance_ named status emptyResult
    · simp [ending, settled, Dict.get?_set, different]
    · simp [silent, built]
    · simp [entry] at listed
    · simp [silent]
  | listed instance_ named status rc =>
    exact advances_quiet (thread.events_of_ne_started _ t (by simp [stage])) (entry ▸ .listed instance_ named status rc)
  | failed raised told status waiting =>
    exact advances_quiet (thread.events_of_ne_started _ t (by simp [stage])) (entry ▸ .failed raised told status waiting)

end Advance

variable {host : Host} {w : Clients} {log : List Event}

theorem coherent_start (host : Host) (t : Tables) : Coherent host (.start t) [] where
  free := rfl
  numbered := by simp [Clients.start]
  proxies := by simp [Clients.start]
  threads := by simp [Clients.start]
  unused := by simp [built]
  calls := by simp

namespace Coherent

/-- The state of a proxy changes. -/
theorem restatus (was : Coherent host w log) {classId : String} {proxy : Proxy} (found : w.proxies.get? classId = some proxy)
    (status : Status)
    (progress : ∀ stage, Progress proxy.className (w.entry classId) (built classId log) proxy.status stage →
      (w.server.threads.get? proxy.thread).map Thread.stage = some stage →
      Progress proxy.className (w.entry classId) (built classId log) status stage) :
    Coherent host { w with proxies := w.proxies.set classId { proxy with status := status } } log where
  free := was.free
  numbered := was.numbered
  proxies other changed present := by
    rw [Dict.get?_set] at present
    split at present
    next same =>
      cases present
      subst same
      obtain ⟨thread, running, constructs, before⟩ := was.proxies other proxy found
      exact ⟨thread, running, constructs, progress _ before (by rw [running]; rfl)⟩
    next => exact was.proxies other changed present
  threads id thread running := by
    refine (was.threads id thread running).imp_left ?_
    rintro ⟨owner, present, own⟩
    by_cases same : thread.rpc.classId = classId
    · rw [same, found] at present
      cases present
      exact ⟨{ proxy with status := status }, by simp [same], own⟩
    · exact ⟨owner, by simpa [Dict.get?_set, same] using present, own⟩
  unused other absent := by
    rw [Dict.get?_set] at absent
    split at absent
    · cases absent
    · exact was.unused other absent
  calls := was.calls

/-- A request comes in: the threads that run already go on as before. -/
theorem running_before (was : Coherent host w log) {id : Nat} {thread : Thread} (running : w.server.threads.get? id = some thread)
    (rpc : Rpc) (callee : Callee) : (w.send host rpc callee).server.threads.get? id = some thread := by
  have different : id ≠ w.server.accepted := Nat.ne_of_lt (was.numbered id thread running)
  simpa [Clients.send, step, Dict.get?_set, different] using running

theorem numbered_send (was : Coherent host w log) (rpc : Rpc) (callee : Callee) {id : Nat} {thread : Thread}
    (running : (w.send host rpc callee).server.threads.get? id = some thread) :
    id < (w.send host rpc callee).server.accepted := by
  simp only [Clients.send, step, Dict.get?_set] at running ⊢
  split at running
  · omega
  · exact Nat.lt_succ_of_lt (was.numbered id thread running)

/-- `method_call` on an object that is in the class table. -/
theorem sendCall (was : Coherent host w log) {rpc : Rpc} (callee : Callee)
    (calls : Thread.Calls ⟨rpc, callee, .started⟩ (w.entry rpc.classId) (built rpc.classId log)) :
    Coherent host (w.send host rpc callee) log where
  free := was.free
  numbered _ _ := was.numbered_send rpc callee
  proxies classId proxy present := by
    obtain ⟨thread, running, constructs, progress⟩ := was.proxies classId proxy present
    exact ⟨thread, was.running_before running rpc callee, constructs, progress⟩
  threads id thread running := by
    simp only [Clients.send, step, Dict.get?_set] at running
    split at running
    · cases running
      exact .inr calls
    · exact was.threads id thread running
  unused := was.unused
  calls := was.calls

/-- `instantiate_class` for a new class id. -/
theorem sendConstruct (was : Coherent host w log) {rpc : Rpc} (callee : Callee) (proxy : Proxy)
    (new : w.proxies.get? rpc.classId = none) (absent : w.entry rpc.classId = none)
    (mine : proxy.thread = w.server.accepted) (waiting : proxy.status ≠ .alive)
    (constructs : Thread.Constructs host ⟨rpc, callee, .started⟩ rpc.classId proxy.className) :
    Coherent host { w.send host rpc callee with proxies := w.proxies.set rpc.classId proxy } log where
  free := was.free
  numbered _ _ := was.numbered_send rpc callee
  proxies classId other present := by
    rw [Dict.get?_set] at present
    split at present
    next same =>
      cases present
      subst same
      refine ⟨⟨rpc, callee, .started⟩, by simp [Clients.send, step, mine], constructs, ?_⟩
      have progress : Progress proxy.className none [] proxy.status .started := .requested _ waiting
      rw [← was.unused _ new, ← absent] at progress
      exact progress
    next =>
      obtain ⟨thread, running, constructs, progress⟩ := was.proxies classId other present
      exact ⟨thread, was.running_before running rpc callee, constructs, progress⟩
  threads id thread running := by
    simp only [Clients.send, step, Dict.get?_set] at running ⊢
    split at running
    next same =>
      cases running
      exact .inl ⟨proxy, by simp, by rw [mine, same]⟩
    next =>
      refine (was.threads id thread running).imp_left ?_
      rintro ⟨owner, present, own⟩
      have different : thread.rpc.classId ≠ rpc.classId := fun same => by simp [same, new] at present
      exact ⟨owner, by rw [if_neg different]; exact present, own⟩
  unused classId absent := by
    rw [Dict.get?_set] at absent
    split at absent
    · cases absent
    · exact was.unused classId absent
  calls := was.calls

/-- The calls of a log that gets one more entry, or none. -/
theorem calls_append (was : Coherent host w log) {new : List Event} (short : new.length ≤ 1)
    (last : ∀ classId found, .called classId found ∈ new →
      ∃ instance_, found = some instance_ ∧ built classId log = [instance_])
    (before : List Event) (classId : String) (found : Option Instance) (later : List Event)
    (split : log ++ new = before ++ .called classId found :: later) :
    ∃ instance_, found = some instance_ ∧ built classId before = [instance_] := by
  rcases Machine.split_append short split with ⟨rfl, only, -⟩ | ⟨rest, -, rfl⟩
  · exact last classId found (by simp [only])
  · exact was.calls before classId found rest rfl

theorem step_proceed (was : Coherent host w log) {id : Nat} {thread : Thread}
    (running : w.server.threads.get? id = some thread) :
    (step host w.server (.proceed id)).1 = w.server.advanced host id thread := by
  simp [step, running, was.free]

/-- A thread goes on that changes at most the entry of its own class id, and that only
while there is none. -/
theorem moved (was : Coherent host w log) {id : Nat} {thread : Thread} {stage : Stage} {t : Tables} {new : List Event}
    (running : w.server.threads.get? id = some thread) (short : new.length ≤ 1)
    (last : ∀ classId found, .called classId found ∈ new →
      ∃ instance_, found = some instance_ ∧ built classId log = [instance_])
    (kept : ∀ classId, classId ≠ thread.rpc.classId ∨ (w.entry classId).isSome →
      t.globalClassDb.get? classId = w.entry classId ∧ built classId new = [])
    (own : (∃ proxy, w.proxies.get? thread.rpc.classId = some proxy ∧ proxy.thread = id ∧
        Progress proxy.className (t.globalClassDb.get? thread.rpc.classId)
          (built thread.rpc.classId log ++ built thread.rpc.classId new) proxy.status stage) ∨
      Thread.Calls { thread with stage := stage } (w.entry thread.rpc.classId) (built thread.rpc.classId log)) :
    Coherent host { w with server := { w.server with
      tables := t, threads := w.server.threads.set id { thread with stage := stage } } } (log ++ new) := by
  have listed {objects : List Instance} {other : Thread} {classId : String} (calls : other.Calls (w.entry classId) objects) :
      (w.entry classId).isSome := by
    obtain ⟨instance_, entry, -⟩ := calls.listed
    simp [entry]
  refine ⟨was.free, fun other found present => ?_, fun classId proxy present => ?_, fun other found present => ?_,
    fun classId absent => ?_, was.calls_append short last⟩
  · rw [Dict.get?_set] at present
    split at present
    next same => exact same ▸ was.numbered id thread running
    next => exact was.numbered other found present
  · obtain ⟨found, foundRunning, constructs, progress⟩ := was.proxies classId proxy present
    by_cases mine : proxy.thread = id
    · rw [mine, running] at foundRunning
      cases foundRunning
      rcases own with ⟨owner, ownerPresent, -, progress⟩ | calls
      · rw [constructs.sameId, present] at ownerPresent
        cases ownerPresent
        rw [constructs.sameId, ← built_append] at progress
        exact ⟨{ thread with stage := stage }, by simp [mine], ⟨constructs.1, constructs.2, constructs.3, constructs.4,
          constructs.5, constructs.6⟩, progress⟩
      · have impossible := constructs.type.symm.trans calls.type
        simp at impossible
    · have apart : classId ≠ thread.rpc.classId ∨ (w.entry classId).isSome := by
        rw [or_iff_not_imp_left, not_ne_iff]
        rintro rfl
        rcases was.threads id thread running with ⟨owner, ownerPresent, ownerMine⟩ | calls
        · rw [present] at ownerPresent
          cases ownerPresent
          exact absurd ownerMine mine
        · exact listed calls
      obtain ⟨entry, silent⟩ := kept classId apart
      refine ⟨found, by simpa [Dict.get?_set, mine] using foundRunning, constructs, ?_⟩
      rw [← entry] at progress
      rw [built_append, silent, List.append_nil]
      exact progress
  · rw [Dict.get?_set] at present
    split at present
    next same =>
      cases present
      rcases own with ⟨owner, ownerPresent, mine, -⟩ | calls
      · exact .inl ⟨owner, ownerPresent, mine.trans same.symm⟩
      · obtain ⟨entry, silent⟩ := kept thread.rpc.classId (.inr (listed calls))
        rw [← entry] at calls
        refine .inr ?_
        rw [built_append, silent, List.append_nil]
        exact calls
    next =>
      refine (was.threads other found present).imp_right fun calls => ?_
      obtain ⟨entry, silent⟩ := kept found.rpc.classId (.inr (listed calls))
      rw [← entry] at calls
      rw [built_append, silent, List.append_nil]
      exact calls
  · have different : classId ≠ thread.rpc.classId := by
      rintro rfl
      rcases was.threads id thread running with ⟨owner, ownerPresent, -⟩ | calls
      · exact absurd (ownerPresent.symm.trans absent) (by simp)
      · obtain ⟨instance_, -, objects, -⟩ := calls.listed
        simp [was.unused _ absent] at objects
    rw [built_append, (kept classId (.inl different)).2, List.append_nil]
    exact was.unused classId absent

theorem proceed (was : Coherent host w log) {id : Nat} {thread : Thread}
    (running : w.server.threads.get? id = some thread) :
    Coherent host { w with server := (step host w.server (.proceed id)).1 }
      (log ++ thread.events (advance host thread.callee thread.rpc w.server.tables thread.stage).1 w.server.tables) := by
  rw [was.step_proceed running]
  have short (next : Stage) : (thread.events next w.server.tables).length ≤ 1 := by
    unfold Thread.events
    split <;> simp
  rcases was.threads id thread running with ⟨proxy, present, mine⟩ | calls
  · obtain ⟨found, foundRunning, constructs, progress⟩ := was.proxies _ proxy present
    rw [mine, running] at foundRunning
    cases foundRunning
    have advances := advances_constructor constructs progress
    refine was.moved running (short _) (fun classId found member => absurd member (advances.silent classId found))
      (fun classId apart => ?_) (.inl ⟨proxy, present, mine, advances.progress⟩)
    by_cases same : classId = thread.rpc.classId
    · subst same
      exact advances.listed (apart.resolve_left (by simp))
    · exact advances.elsewhere classId same
  · obtain ⟨instance_, entry, objects, named⟩ := calls.listed
    rcases calls.stage with started | ⟨outcome, ended⟩
    · have lookup : w.server.tables.globalClassDb.get? thread.rpc.classId = some instance_ := entry
      have said (next : Stage) : thread.events next w.server.tables = [.called thread.rpc.classId (some instance_)] := by
        simp [Thread.events, started, calls.type, lookup, named]
      have next : advance host thread.callee thread.rpc w.server.tables thread.stage =
          (.ended (callMethod thread.callee thread.rpc w.server.tables), w.server.tables) := by
        simp [advance, started, calls.type]
      unfold Server.advanced
      rw [next]
      refine was.moved running (short _) (fun classId found member => ?_) (fun classId _ => ⟨rfl, by simp [said, built]⟩)
        (.inr ⟨calls.type, .inr ⟨_, rfl⟩, calls.listed⟩)
      rw [said, List.mem_singleton] at member
      cases member
      exact ⟨instance_, rfl, objects⟩
    · have said (next : Stage) : thread.events next w.server.tables = [] :=
        thread.events_of_ne_started next _ (by simp [ended])
      have next : advance host thread.callee thread.rpc w.server.tables thread.stage =
          (.ended outcome, w.server.tables) := by
        simp [advance, ended]
      unfold Server.advanced
      rw [next]
      exact was.moved running (short _) (by simp [said]) (fun classId _ => ⟨rfl, by simp [said, built]⟩)
        (.inr ⟨calls.type, .inr ⟨_, rfl⟩, calls.listed⟩)

end Coherent

/-- The class of a new proxy is a per-connection service of the server whose constructor
makes an object of that class, or raises something that is sent to the caller. -/
def Served (host : Host) : ClientAction → Prop
  | .create _ _ className _ construct => (host.isDirsvc && className == "DEFwDirSvc") = false ∧ Proper className construct
  | _ => True

/-- The call in the constructor has all arguments. -/
theorem sendReq_init (endpoint reqUuid module className classId : String) (blocking : Bool) :
    sendReq endpoint reqUuid [.str "instantiate_class", .str "client", .str module, .str className, .str "__init__",
      .str classId, .bool blocking] =
      .ok (⟨"client", endpoint, module, .instantiateClass, className, "__init__", classId, reqUuid⟩, blocking) := by
  simp [sendReq, RpcType.ofText]

theorem sendReq_method (endpoint reqUuid module className name classId : String) (blocking : Bool) (named : name ≠ "") :
    sendReq endpoint reqUuid [.str "method_call", .str "client", .str module, .str className, .str name, .str classId,
      .bool blocking] = .ok (⟨"client", endpoint, module, .methodCall, className, name, classId, reqUuid⟩, blocking) := by
  simp [sendReq, RpcType.ofText, named]

/-- The call in `__del__` has no argument for `blocking`: nothing is sent. -/
theorem del_sends_nothing (host : Host) (w : Clients) (classId : String) (proxy : Proxy) :
    w.del host classId proxy = { w with proxies := w.proxies.set classId { proxy with status := .gone } } := rfl

namespace Coherent

theorem create (was : Coherent host w log) {classId module className : String} {blocking : Bool}
    {construct : Option (Except Raised ClassName)} (new : w.proxies.get? classId = none) (absent : w.entry classId = none)
    (foreign : (host.isDirsvc && className == "DEFwDirSvc") = false) (proper : Proper className construct) :
    Coherent host (w.construct host classId module className blocking construct) log := by
  unfold Clients.construct
  rw [sendReq_init]
  refine was.sendConstruct _ ⟨module, className, blocking, w.server.accepted, _⟩ new absent rfl ?_ ?_
  · cases blocking <;> simp
  · exact ⟨rfl, rfl, rfl, rfl, foreign, proper⟩

theorem settle (was : Coherent host w log) {classId : String} {proxy : Proxy} {outcome : Except Raised Value}
    (present : w.proxies.get? classId = some proxy)
    (ended : (w.server.threads.get? proxy.thread).map Thread.stage = some (.ended outcome)) :
    Coherent host (w.settle classId proxy outcome) log := by
  unfold Clients.settle
  cases outcome with
  | ok rc =>
    refine was.restatus present .alive fun stage progress reached => ?_
    cases ended.symm.trans reached
    generalize w.entry classId = entry at progress ⊢
    generalize built classId log = objects at progress ⊢
    cases progress with
    | listed instance_ named => exact .listed instance_ named .alive rc
  | error raised =>
    simp only []
    split
    · exact was
    · refine was.restatus present _ fun stage progress reached => ?_
      cases ended.symm.trans reached
      generalize w.entry classId = entry at progress ⊢
      generalize built classId log = objects at progress ⊢
      cases progress with
      | failed _ told =>
        rw [if_pos told]
        exact .failed raised told .gone (by simp)

theorem call (was : Coherent host w log) {classId : String} {proxy : Proxy} (name : String)
    (method : Option (Except Raised Value)) (present : w.proxies.get? classId = some proxy) (alive : proxy.status = .alive) :
    Coherent host (w.callRemote host classId name proxy method) log := by
  unfold Clients.callRemote
  by_cases named : name = ""
  · simpa [sendReq, named] using was
  · rw [sendReq_method _ _ _ _ _ _ _ named]
    obtain ⟨thread, running, constructs, progress⟩ := was.proxies classId proxy present
    rw [alive] at progress
    exact was.sendCall _ ⟨rfl, .inl rfl, progress.of_alive⟩

theorem clientStep (was : Coherent host w log) {action : ClientAction} (served : Served host action) :
    Coherent host (clientStep host w action).1 (log ++ (clientStep host w action).2) := by
  cases action with
  | create classId module className blocking construct =>
    simp only [Registry.clientStep]
    split
    · simpa using was
    · rename_i fresh
      simp only [Bool.or_eq_true, not_or, Bool.not_eq_true, Option.isSome_eq_false_iff, Option.isNone_iff_eq_none] at fresh
      rw [List.append_nil]
      exact was.create fresh.1 fresh.2 served.1 served.2
  | answered classId =>
    simp only [Registry.clientStep]
    cases present : w.proxies.get? classId with
    | none => simpa using was
    | some proxy =>
      simp only []
      split
      · rw [List.append_nil]
        exact was.settle present ‹_›
      · simpa using was
  | call classId name method =>
    simp only [Registry.clientStep]
    cases present : w.proxies.get? classId with
    | none => simpa using was
    | some proxy =>
      simp only []
      split
      · rw [List.append_nil]
        exact was.call name method present ‹_›
      · simpa using was
  | drop classId =>
    simp only [Registry.clientStep]
    cases present : w.proxies.get? classId with
    | none => simpa using was
    | some proxy =>
      simp only []
      split
      · rw [List.append_nil, del_sends_nothing]
        exact was.restatus present .gone fun stage progress _ => progress.gone
      · simpa using was
  | proceed id =>
    simp only [Registry.clientStep]
    cases running : w.server.threads.get? id with
    | none => simpa using was
    | some thread => exact was.proceed running

end Coherent

/-- Every proxy waits for the response of its constructor, and no live proxy is dropped. -/
def Kept (w : Clients) : ClientAction → Prop
  | .create _ _ _ blocking _ => blocking = true
  | .drop classId => (w.proxies.get? classId).map Proxy.status ≠ some .alive
  | _ => True

instance : ∀ w action, Decidable (Kept w action)
  | _, .create _ _ _ blocking _ => inferInstanceAs (Decidable (blocking = true))
  | w, .drop classId => inferInstanceAs (Decidable ((w.proxies.get? classId).map Proxy.status ≠ some .alive))
  | _, .answered _ => isTrue trivial
  | _, .call _ _ _ => isTrue trivial
  | _, .proceed _ => isTrue trivial

/-- A proxy is only gone if its constructor raised. -/
def Retains (w : Clients) : Prop :=
  ∀ classId proxy, w.proxies.get? classId = some proxy → proxy.status = .gone →
    ∃ raised, (w.server.threads.get? proxy.thread).map Thread.stage = some (.ended (.error raised))

namespace Retains

/-- A thread that has ended stays as it is. -/
theorem frame {next : Clients} (was : Retains w) (proxies : next.proxies = w.proxies)
    (ended : ∀ id outcome, (w.server.threads.get? id).map Thread.stage = some (.ended outcome) →
      (next.server.threads.get? id).map Thread.stage = some (.ended outcome)) : Retains next := by
  intro classId proxy present gone
  rw [proxies] at present
  obtain ⟨raised, stage⟩ := was classId proxy present gone
  exact ⟨raised, ended _ _ stage⟩

theorem set (was : Retains w) (classId : String) (proxy : Proxy)
    (failed : proxy.status = .gone →
      ∃ raised, (w.server.threads.get? proxy.thread).map Thread.stage = some (.ended (.error raised))) :
    Retains { w with proxies := w.proxies.set classId proxy } := by
  intro other found present gone
  rw [Dict.get?_set] at present
  split at present
  · cases present
    exact failed gone
  · exact was other found present gone

theorem send (was : Retains w) (coherent : Coherent host w log) (rpc : Rpc) (callee : Callee) : Retains (w.send host rpc callee) := by
  refine was.frame rfl fun id outcome ended => ?_
  obtain ⟨thread, running, stage⟩ := Option.map_eq_some_iff.mp ended
  simp [coherent.running_before running rpc callee, stage]

theorem clientStep (was : Retains w) (coherent : Coherent host w log) {action : ClientAction} (kept : Kept w action) :
    Retains (clientStep host w action).1 := by
  cases action with
  | create classId module className blocking construct =>
    simp only [Registry.clientStep]
    split
    · exact was
    · unfold Clients.construct
      rw [sendReq_init]
      exact (was.send coherent _ _).set classId _ (by simp [show blocking = true from kept])
  | answered classId =>
    simp only [Registry.clientStep]
    cases present : w.proxies.get? classId with
    | none => exact was
    | some proxy =>
      simp only []
      split
      next outcome _ ended =>
        unfold Clients.settle
        cases outcome with
        | ok rc => exact was.set classId _ (by simp)
        | error raised =>
          simp only []
          split
          · exact was
          · exact was.set classId _ fun _ => ⟨raised, ended⟩
      next => exact was
  | call classId name method =>
    simp only [Registry.clientStep]
    cases present : w.proxies.get? classId with
    | none => exact was
    | some proxy =>
      simp only []
      split
      · unfold Clients.callRemote
        split
        · exact was
        · exact was.send coherent _ _
      · exact was
  | drop classId =>
    simp only [Registry.clientStep]
    cases present : w.proxies.get? classId with
    | none => exact was
    | some proxy =>
      have unused : proxy.status ≠ .alive := by simpa [Kept, present] using kept
      simpa [unused] using was
  | proceed id =>
    simp only [Registry.clientStep]
    cases running : w.server.threads.get? id with
    | none => exact was
    | some thread =>
      refine was.frame rfl fun other outcome ended => ?_
      simp only [coherent.step_proceed running, Server.advanced, Dict.get?_set]
      split
      next same =>
        rw [same, running, Option.map_some, Option.some.injEq] at ended
        simp [ended, advance]
      next => exact ended

end Retains

def Stage.isEnded : Stage → Bool
  | .ended _ => true
  | _ => false

/-- All requests are processed and answered. -/
def Clients.Quiet (w : Clients) : Prop :=
  (∀ thread ∈ w.server.threads.values, thread.stage.isEnded = true) ∧
  ∀ proxy ∈ w.proxies.values, proxy.status ≠ .creating

instance (w : Clients) : Decidable w.Quiet :=
  inferInstanceAs (Decidable ((∀ thread ∈ w.server.threads.values, thread.stage.isEnded = true) ∧
    ∀ proxy ∈ w.proxies.values, proxy.status ≠ .creating))

/-- A method call on a live proxy finds the one object that was made for the proxy. While
no live proxy is dropped and every proxy waits for the response of its constructor, the
objects that the server has for the proxies are those of the live proxies once all
requests are processed. -/
theorem remote_objects_of_proxies (host : Host) (t : Tables) (actions : List ClientAction)
    (served : ∀ action ∈ actions, Served host action) :
    let w := (clientMachine host).final (.start t) actions
    (∀ before classId found later,
      (clientMachine host).log (.start t) actions = before ++ .called classId found :: later →
      ∃ instance_, found = some instance_ ∧ built classId before = [instance_]) ∧
    ((clientMachine host).Admits Kept (.start t) actions → w.Quiet → ∀ classId, (w.proxies.get? classId).isSome →
      ((w.server.tables.globalClassDb.get? classId).isSome ↔
        ∃ proxy, w.proxies.get? classId = some proxy ∧ proxy.status = .alive)) := by
  intro w
  have admitted := (clientMachine host).admits_of_forall (s := .start t) served
  have coherent := (clientMachine host).run_invariant (Coherent host) (coherent_start host t)
    (fun _ _ _ was served => was.clientStep served) admitted
  refine ⟨coherent.calls, fun kept quiet classId created => ?_⟩
  have retains := (clientMachine host).run_invariant (fun w log => Coherent host w log ∧ Retains w)
    ⟨coherent_start host t, by simp [Retains, Clients.start]⟩
    (fun _ _ _ was allowed => ⟨was.1.clientStep allowed.1, was.2.clientStep was.1 allowed.2⟩)
    ((clientMachine host).admits_and.mpr ⟨admitted, kept⟩)
  obtain ⟨proxy, present⟩ := Option.isSome_iff_exists.mp created
  obtain ⟨thread, running, constructs, progress⟩ := coherent.proxies classId proxy present
  cases status : proxy.status with
  | creating => exact absurd status (quiet.2 proxy (Dict.mem_values_iff.mpr ⟨classId, present⟩))
  | alive =>
    rw [status] at progress
    obtain ⟨instance_, entry, -⟩ := progress.of_alive
    exact iff_of_true (by simpa [Clients.entry] using congrArg Option.isSome entry) ⟨proxy, present, status⟩
  | gone =>
    obtain ⟨raised, ended⟩ := retains.2 classId proxy present status
    have stage : thread.stage = .ended (.error raised) := by simpa [running] using ended
    rw [stage] at progress
    refine iff_of_false (fun listed => ?_) (fun ⟨other, found, alive⟩ => ?_)
    · have absent : w.server.tables.globalClassDb.get? classId = none := progress.of_failed
      rw [absent] at listed
      cases listed
    · cases present.symm.trans found
      simp [status] at alive

/-- A process that serves the per-connection class `Echo`. -/
def echoServer : Host := ⟨"server", false, ⟨0, "defw_dirsvc", "DEFwDirSvc"⟩⟩

/-- A client makes a proxy for an `Echo` and gets the response if it waits for it. -/
def makeEcho (classId : String) (blocking : Bool) (thread : Nat) : List ClientAction :=
  [.create classId "svc_echo" "Echo" blocking (some (.ok ⟨"svc_echo", "Echo"⟩)), .proceed thread, .proceed thread,
    .answered classId]

theorem remote_objects_of_two_proxies :
    let actions := makeEcho "class-1" true 0 ++ makeEcho "class-2" true 1 ++ [.call "class-1" "echo" (some (.ok .none)), .proceed 2]
    (∀ action ∈ actions, Served echoServer action) ∧
    (clientMachine echoServer).Admits Kept (.start .empty) actions ∧
    ((clientMachine echoServer).final (.start .empty) actions).Quiet ∧
    (((clientMachine echoServer).final (.start .empty) actions).server.tables.globalClassDb.get? "class-1").isSome := by
  intro actions
  have served : ∀ action ∈ actions, Served echoServer action := by
    simp [actions, makeEcho, Served, Proper, echoServer]
  have kept : (clientMachine echoServer).Admits Kept (.start .empty) actions := by decide +kernel
  have alive : (((clientMachine echoServer).final (.start .empty) actions).proxies.get? "class-1").map Proxy.status =
      some .alive := by decide +kernel
  have quiet : ((clientMachine echoServer).final (.start .empty) actions).Quiet := by decide +kernel
  obtain ⟨proxy, present, status⟩ := Option.map_eq_some_iff.mp alive
  refine ⟨served, kept, quiet, ?_⟩
  exact ((remote_objects_of_proxies echoServer .empty actions served).2 kept quiet "class-1" (by simp [present])).mpr
    ⟨proxy, present, status⟩

/-- All requests are processed, no proxy is alive, and the server has two objects: one of
a proxy that was dropped, one of a proxy that does not wait. -/
theorem remote_objects_outlive_proxies :
    let actions := makeEcho "class-1" true 0 ++ [.drop "class-1"] ++ makeEcho "class-2" false 1
    let w := (clientMachine echoServer).final (.start .empty) actions
    w.Quiet ∧ w.proxies.values.map Proxy.status = [.gone, .gone] ∧
    (w.server.tables.globalClassDb.get? "class-1").isSome ∧ (w.server.tables.globalClassDb.get? "class-2").isSome := by
  decide +kernel

end DEFw.Registry
