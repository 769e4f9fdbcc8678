import DEFw.Lib.Machine
import DEFw.Registry.Dispatch
import Mathlib.Logic.Function.Iterate

namespace DEFw.Registry
open Py

/-- How far the thread of a request is in the `try` block of `handle_rpc_req`. Between
two stages it holds none of the locks of the registry. -/
inductive Stage
  | started
  /-- `get_or_create_singleton_instance` returned -/
  | aliasing (instance_ : Instance)
  /-- `has_class_entry` found no entry, `bind_singleton_alias` is next -/
  | binding (instance_ : Instance)
  /-- `add_to_class_db` is next -/
  | adding (instance_ : Instance)
  /-- `get_class_from_db` found the object that is to be destroyed -/
  | releasing
  /-- `del_entry_from_class_db` is next -/
  | deleting
  | ended (outcome : Except Raised Value)

/-- The thread ends with this outcome and these tables. -/
def ending : Except Raised Value × Tables → Stage × Tables := Prod.map .ended id

/-- `get_or_create_singleton_instance` of a singleton service, under the lock of the
singletons. -/
def acquireSingleton (callee : Callee) (rpc : Rpc) (t : Tables) : Stage × Tables :=
  if callee.construct.isNone then (.ended (.error (attributeError rpc.module rpc.className)), t)
  else
    match t.getOrCreateSingletonInstance rpc.module rpc.className (callee.instantiate rpc) with
    | .ok (instance_, t) => (.aliasing instance_, t)
    | .error raised => (.ended (.error raised), t)

/-- `get_class_from_db` of a per-connection service, and the constructor if there is no
entry. -/
def constructUnknown (callee : Callee) (rpc : Rpc) (t : Tables) : Stage × Tables :=
  match t.getClassFromDb rpc.classId with
  | .ok _ => (.ended (.ok emptyResult), t)
  | .error _ =>
    match callee.instantiate rpc with
    | .error raised => (.ended (.error raised), t)
    | .ok made => (.adding (t.create made).1, (t.create made).2)

/-- The first lock of an `instantiate_class`. -/
def startInstantiate (host : Host) (callee : Callee) (rpc : Rpc) (t : Tables) : Stage × Tables :=
  if host.isOwnDirsvc rpc then
    if t.hasClassEntry rpc.classId then (.ended (.ok emptyResult), t) else (.adding host.dirsvc, t)
  else
    match callee.instanceMode with
    | .singleton => acquireSingleton callee rpc t
    | .perConnection => constructUnknown callee rpc t

/-- The first lock of a `destroy_class`. -/
def startDestroy (host : Host) (rpc : Rpc) (t : Tables) : Stage × Tables :=
  if host.isOwnDirsvc rpc then (.ended (.ok emptyResult), t.delEntryFromClassDb rpc.classId)
  else
    match t.getClassFromDb rpc.classId with
    | .error raised => (.ended (.error raised), t)
    | .ok _ => (.releasing, t)

/-- What the thread of a request does under the next lock that it takes. -/
def advance (host : Host) (callee : Callee) (rpc : Rpc) (t : Tables) : Stage → Stage × Tables
  | .started =>
    match rpc.type with
    | .functionCall => (.ended (callFunction callee rpc), t)
    | .methodCall => (.ended (callMethod callee rpc t), t)
    | .instantiateClass => startInstantiate host callee rpc t
    | .destroyClass => startDestroy host rpc t
    | .unexpected _ => (.ended (.ok emptyResult), t)
  | .aliasing instance_ =>
    if t.hasClassEntry rpc.classId then (.ended (.ok emptyResult), t) else (.binding instance_, t)
  | .binding instance_ => ending (settled t (t.bindSingletonAlias rpc.classId rpc.module rpc.className instance_))
  | .adding instance_ => ending (settled t (t.addToClassDb instance_ rpc.classId))
  -- `is_singleton_alias`: both branches delete the entry
  | .releasing => (.deleting, t)
  | .deleting => (.ended (.ok emptyResult), t.delEntryFromClassDb rpc.classId)
  | .ended outcome => (.ended outcome, t)

section Alone

variable (host : Host) (callee : Callee) (rpc : Rpc)

/-- A thread that is not interrupted takes its locks one after the other. -/
def advanceAlone (reached : Stage × Tables) : Stage × Tables := advance host callee rpc reached.2 reached.1

theorem advanceAlone_ending (count : Nat) (result : Except Raised Value × Tables) :
    (advanceAlone host callee rpc)^[count] (ending result) = ending result :=
  Function.iterate_fixed rfl count

theorem alone_singleton (t : Tables) : (advanceAlone host callee rpc)^[2] (acquireSingleton callee rpc t) =
    ending (settled t (instantiateSingleton callee rpc t)) := by
  unfold acquireSingleton instantiateSingleton
  cases found : callee.construct with
  | none => exact advanceAlone_ending host callee rpc 2 (.error _, t)
  | some made =>
    cases acquired : t.getOrCreateSingletonInstance rpc.module rpc.className (callee.instantiate rpc) with
    | error raised => exact advanceAlone_ending host callee rpc 2 (.error raised, t)
    | ok result =>
      obtain ⟨instance_, after⟩ := result
      cases entry : after.hasClassEntry rpc.classId with
      | true =>
        simp [advanceAlone, advance, entry, bind, Except.bind, pure, Except.pure, settled, ending]
      | false =>
        have absent : (after.globalClassDb.get? rpc.classId).isSome = false := entry
        simp [advanceAlone, advance, entry, absent, bind, Except.bind, settled, ending, Tables.bindSingletonAlias]

theorem alone_perConnection (t : Tables) : (advanceAlone host callee rpc)^[2] (constructUnknown callee rpc t) =
    ending (settled t (instantiatePerConnection callee rpc t)) := by
  unfold constructUnknown instantiatePerConnection Tables.getClassFromDb
  cases known : t.globalClassDb.get? rpc.classId with
  | some instance_ => exact advanceAlone_ending host callee rpc 2 (.ok emptyResult, t)
  | none =>
    cases result : callee.instantiate rpc with
    | error raised => exact advanceAlone_ending host callee rpc 2 (.error raised, t)
    | ok made =>
      have absent : ((t.create made).2.globalClassDb.get? rpc.classId).isSome = false := by simp [Tables.create, known]
      simp [advanceAlone, advance, bind, Except.bind, settled, ending, Tables.addToClassDb, absent]

theorem alone_instantiate (t : Tables) : (advanceAlone host callee rpc)^[2] (startInstantiate host callee rpc t) =
    ending (settled t (instantiateClass host callee rpc t)) := by
  unfold startInstantiate instantiateClass
  cases own : host.isOwnDirsvc rpc with
  | true =>
    cases entry : t.hasClassEntry rpc.classId with
    | true => exact advanceAlone_ending host callee rpc 2 (.ok emptyResult, t)
    | false =>
      have absent : (t.globalClassDb.get? rpc.classId).isSome = false := entry
      simp [advanceAlone, advance, settled, ending, Tables.addToClassDb, absent]
  | false =>
    cases callee.instanceMode with
    | singleton => exact alone_singleton host callee rpc t
    | perConnection => exact alone_perConnection host callee rpc t

theorem alone_destroy (t : Tables) : (advanceAlone host callee rpc)^[2] (startDestroy host rpc t) =
    ending (settled t (destroyClass host rpc t)) := by
  unfold startDestroy destroyClass
  cases own : host.isOwnDirsvc rpc with
  | true => exact advanceAlone_ending host callee rpc 2 (.ok emptyResult, _)
  | false =>
    cases known : t.getClassFromDb rpc.classId with
    | error raised => exact advanceAlone_ending host callee rpc 2 (.error raised, t)
    | ok instance_ => rfl

/-- A thread that no other thread interrupts does what `dispatch` does. -/
theorem advance_alone (t : Tables) :
    (advanceAlone host callee rpc)^[3] (.started, t) = ending (dispatch host callee rpc t) := by
  rw [Function.iterate_succ_apply]
  unfold dispatch
  simp only [advanceAlone, advance]
  cases rpc.type with
  | functionCall => exact advanceAlone_ending host callee rpc 2 (callFunction callee rpc, t)
  | methodCall => exact advanceAlone_ending host callee rpc 2 (callMethod callee rpc t, t)
  | unexpected text => exact advanceAlone_ending host callee rpc 2 (.ok emptyResult, t)
  | instantiateClass => exact alone_instantiate host callee rpc t
  | destroyClass => exact alone_destroy host callee rpc t

end Alone

/-- The thread of one request. -/
structure Thread where
  rpc : Rpc
  callee : Callee
  stage : Stage

/-- The key of the service that a request names. -/
def Rpc.key (rpc : Rpc) : String := Tables.getSingletonKey rpc.module rpc.className

/-- The next lock of the thread is the lock of the singletons. -/
def Thread.takesSingletons (host : Host) (thread : Thread) : Bool :=
  match thread.stage, thread.rpc.type, thread.callee.instanceMode with
  | .started, .instantiateClass, .singleton => !host.isOwnDirsvc thread.rpc && thread.callee.construct.isSome
  | _, _, _ => false

/-- Threads of `handle_rpc_req` beside evictions. An eviction that has taken its
singleton out of the table holds the lock of the singletons until it has dropped the
aliases. -/
structure Server where
  tables : Tables
  threads : Dict Nat Thread
  accepted : Nat
  evicting : Option (String × Option Instance)

inductive Action
  | request (rpc : Rpc) (callee : Callee)
  | proceed (thread : Nat)
  | shutdownServiceInstance (instance_ : Instance)
  | finishEviction

/-- What is seen of a run: a method call finds an object under its class id, or
`evict_singleton_instance` returns the object that it evicted. -/
inductive Observed
  | reached (classId : String) (instance_ : Instance)
  | evicted (instance_ : Instance)
  deriving DecidableEq

/-- The object that a method call finds. -/
def Thread.reaches (thread : Thread) (t : Tables) : List Observed :=
  match thread.stage, thread.rpc.type with
  | .started, .methodCall => (t.globalClassDb.get? thread.rpc.classId).toList.map (.reached thread.rpc.classId)
  | _, _ => []

/-- The thread goes on under its next lock. -/
def Server.advanced (host : Host) (s : Server) (id : Nat) (thread : Thread) : Server :=
  let next := advance host thread.callee thread.rpc s.tables thread.stage
  { s with tables := next.2, threads := s.threads.set id { thread with stage := next.1 } }

/-- `shutdown_service_instance` up to the lock of the classes. -/
def Server.evict (s : Server) (key : String) : Server :=
  { s with
    tables := s.tables.popSingleton key
    evicting := some (key, s.tables.globalSingletonDb.get? key) }

/-- A thread that needs the lock of the singletons waits while an eviction holds it. -/
def step (host : Host) (s : Server) : Action → Server × List Observed
  | .request rpc callee =>
    ({ s with threads := s.threads.set s.accepted ⟨rpc, callee, .started⟩, accepted := s.accepted + 1 }, [])
  | .proceed id =>
    match s.threads.get? id with
    | none => (s, [])
    | some thread =>
      if s.evicting.isSome && thread.takesSingletons host then (s, [])
      else (s.advanced host id thread, thread.reaches s.tables)
  | .shutdownServiceInstance instance_ =>
    if s.evicting.isSome then (s, []) else (s.evict (Tables.getSingletonKey instance_.module instance_.className), [])
  | .finishEviction =>
    match s.evicting with
    | none => (s, [])
    | some (key, instance_) =>
      ({ s with tables := s.tables.dropAliases key, evicting := none }, instance_.toList.map .evicted)

def machine (host : Host) : Machine Server Action Observed := ⟨step host⟩

/-- A process that has handled no request. Objects are numbered behind the directory
service. -/
def Server.start (host : Host) : Server :=
  ⟨{ Tables.empty with created := host.dirsvc.object + 1 }, .empty, 0, none⟩

end DEFw.Registry
