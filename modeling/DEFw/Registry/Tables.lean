import DEFw.Lib.Dict
import DEFw.Lib.PyValue

namespace DEFw.Registry
open Py

/-- What Python code raises: a `DEFwError` or one of its subclasses, which is sent to
the caller as it is, another `Exception`, of which the traceback is sent, or what is
not an `Exception` at all, such as `SystemExit`. A subclass may define the truth of
its objects. -/
inductive Raised
  | defwError (className : String) (truthy : Bool) (msg : Value) (arg : Value)
  | exception (text : String)
  | baseException (text : String)

/-- A server-side object, by its identity and the module and the name of its class. -/
structure Instance where
  object : Nat
  module : String
  className : String
  deriving DecidableEq

/-- The class and singleton registry. `created` objects were made so far. -/
structure Tables where
  globalClassDb : Dict String Instance
  globalSingletonDb : Dict String Instance
  globalSingletonAliasDb : Dict String String
  created : Nat

/-- Where a class is defined, by its `__module__` and `__name__`. -/
structure ClassName where
  module : String
  name : String
  deriving DecidableEq

def duplicateClassId : Raised := .defwError "DEFwError" true (.str "Duplicate class_id. Contention in timing") .none

def noClassId (classId : String) : Raised := .defwError "DEFwNotFound" true (.str s!"no {classId} in database") .none

namespace Tables

def empty : Tables := ⟨.empty, .empty, .empty, 0⟩

def addToClassDb (t : Tables) (instance_ : Instance) (classId : String) : Except Raised Tables :=
  if (t.globalClassDb.get? classId).isSome then .error duplicateClassId
  else .ok { t with globalClassDb := t.globalClassDb.set classId instance_ }

def hasClassEntry (t : Tables) (classId : String) : Bool := (t.globalClassDb.get? classId).isSome

def getClassFromDb (t : Tables) (classId : String) : Except Raised Instance :=
  match t.globalClassDb.get? classId with
  | some instance_ => .ok instance_
  | none => .error (noClassId classId)

def delEntryFromClassDb (t : Tables) (classId : String) : Tables :=
  if (t.globalClassDb.get? classId).isSome then
    { t with
      globalClassDb := t.globalClassDb.erase classId
      globalSingletonAliasDb := t.globalSingletonAliasDb.erase classId }
  else t

/-- A new object. -/
def create (t : Tables) (className : ClassName) : Instance × Tables :=
  (⟨t.created, className.module, className.name⟩, { t with created := t.created + 1 })

def getSingletonKey (moduleName className : String) : String := s!"{moduleName}:{className}"

/-- The whole function runs under the lock of the singletons. -/
def getOrCreateSingletonInstance (t : Tables) (moduleName className : String) (factory : Except Raised ClassName) :
    Except Raised (Instance × Tables) :=
  match t.globalSingletonDb.get? (getSingletonKey moduleName className) with
  | some instance_ => .ok (instance_, t)
  | none =>
    match factory with
    | .error raised => .error raised
    | .ok made =>
      let (instance_, t) := t.create made
      .ok (instance_, { t with
        globalSingletonDb := t.globalSingletonDb.set (getSingletonKey moduleName className) instance_ })

/-- The part of `evict_singleton_instance` before it takes the lock of the classes. -/
def popSingleton (t : Tables) (key : String) : Tables :=
  { t with globalSingletonDb := t.globalSingletonDb.erase key }

/-- The part of `evict_singleton_instance` under the lock of the classes. -/
def dropAliases (t : Tables) (key : String) : Tables :=
  { t with
    globalClassDb := t.globalClassDb.filter (fun classId _ => t.globalSingletonAliasDb.get? classId ≠ some key)
    globalSingletonAliasDb := t.globalSingletonAliasDb.filter (fun _ aliasKey => aliasKey ≠ key) }

def evictSingletonInstance (t : Tables) (moduleName className : String) : Tables :=
  (t.popSingleton (getSingletonKey moduleName className)).dropAliases (getSingletonKey moduleName className)

def bindSingletonAlias (t : Tables) (classId moduleName className : String) (instance_ : Instance) : Except Raised Tables :=
  if (t.globalClassDb.get? classId).isSome then .error duplicateClassId
  else .ok { t with
    globalClassDb := t.globalClassDb.set classId instance_
    globalSingletonAliasDb := t.globalSingletonAliasDb.set classId (getSingletonKey moduleName className) }

def isSingletonAlias (t : Tables) (classId : String) : Bool := (t.globalSingletonAliasDb.get? classId).isSome

end Tables

end DEFw.Registry
