import DEFw.Lib.PyEquality
import DEFw.Registry.Tables

namespace DEFw.Registry
open Py

inductive InstanceMode
  | singleton
  | perConnection
  deriving DecidableEq

/-- What a request asks for. Any other text in `type` is kept as it is. -/
inductive RpcType
  | functionCall
  | methodCall
  | instantiateClass
  | destroyClass
  | unexpected (text : String)
  deriving DecidableEq

/-- A request message. Processes are named by their runtime id, by which endpoints
compare. `name` is the function or the method. -/
structure Rpc where
  src : String
  dst : String
  module : String
  type : RpcType
  className : String
  name : String
  classId : String
  reqUuid : String

/-- What the code around a request does when it is asked: the import of the module with
its reload, `getattr` on the module for the function or the class, the call of either,
`getattr` on the instance for the method, and its call. A class that is called gives an
object of the class `construct`. `none` is an `AttributeError`. -/
structure Callee where
  importModule : Except Raised Unit
  instanceMode : InstanceMode
  function : Option (Option (Except Raised Value))
  construct : Option (Except Raised ClassName)
  method : Option (Except Raised Value)

/-- The process that handles a request. -/
structure Host where
  runtimeId : String
  isDirsvc : Bool
  dirsvc : Instance

def attributeError (owner name : String) : Raised := .exception s!"AttributeError: {owner} has no attribute {name}"

/-- `rc = {}`. -/
def emptyResult : Value := .dict []

/-- The branch of the directory service itself. -/
def Host.isOwnDirsvc (host : Host) (rpc : Rpc) : Bool := host.isDirsvc && rpc.className == "DEFwDirSvc"

/-- `my_class = getattr(module, class_name)` and its call. -/
def Callee.instantiate (callee : Callee) (rpc : Rpc) : Except Raised ClassName :=
  match callee.construct with
  | none => .error (attributeError rpc.module rpc.className)
  | some made => made

def callFunction (callee : Callee) (rpc : Rpc) : Except Raised Value :=
  match callee.function with
  | none => .error (attributeError rpc.module rpc.name)
  | some none => .ok emptyResult
  | some (some called) => called

def instantiateSingleton (callee : Callee) (rpc : Rpc) (t : Tables) : Except Raised Tables := do
  -- the class is looked up before the registry is asked
  if callee.construct.isNone then throw (attributeError rpc.module rpc.className)
  let (instance_, t) ← t.getOrCreateSingletonInstance rpc.module rpc.className (callee.instantiate rpc)
  if t.hasClassEntry rpc.classId then return t
  t.bindSingletonAlias rpc.classId rpc.module rpc.className instance_

def instantiatePerConnection (callee : Callee) (rpc : Rpc) (t : Tables) : Except Raised Tables :=
  match t.getClassFromDb rpc.classId with
  | .ok _ => .ok t
  | .error _ => do
    let made ← callee.instantiate rpc
    let (instance_, t) := t.create made
    t.addToClassDb instance_ rpc.classId

def instantiateClass (host : Host) (callee : Callee) (rpc : Rpc) (t : Tables) : Except Raised Tables :=
  if host.isOwnDirsvc rpc then
    if t.hasClassEntry rpc.classId then .ok t else t.addToClassDb host.dirsvc rpc.classId
  else
    match callee.instanceMode with
    | .singleton => instantiateSingleton callee rpc t
    | .perConnection => instantiatePerConnection callee rpc t

/-- Both kinds of entry are deleted the same way. -/
def destroyClass (host : Host) (rpc : Rpc) (t : Tables) : Except Raised Tables :=
  if host.isOwnDirsvc rpc then .ok (t.delEntryFromClassDb rpc.classId)
  else do
    let _ ← t.getClassFromDb rpc.classId
    return t.delEntryFromClassDb rpc.classId

def classMismatch (requested actual : String) : Raised :=
  .defwError "DEFwError" true (.str s!"requested class {requested}, but id refers to class {actual}") .none

def callMethod (callee : Callee) (rpc : Rpc) (t : Tables) : Except Raised Value := do
  let instance_ ← t.getClassFromDb rpc.classId
  if instance_.className ≠ rpc.className then throw (classMismatch rpc.className instance_.className)
  match callee.method with
  | none => throw (attributeError instance_.className rpc.name)
  | some called => called

/-- A request that is about the tables has no result. What raises leaves the tables as
they were. -/
def settled (t : Tables) : Except Raised Tables → Except Raised Value × Tables
  | .ok t => (.ok emptyResult, t)
  | .error raised => (.error raised, t)

/-- The `try` block of `handle_rpc_req`: what it leaves in `rc` or raises, and the
tables. -/
def dispatch (host : Host) (callee : Callee) (rpc : Rpc) (t : Tables) : Except Raised Value × Tables :=
  match rpc.type with
  | .functionCall => (callFunction callee rpc, t)
  | .methodCall => (callMethod callee rpc t, t)
  | .instantiateClass => settled t (instantiateClass host callee rpc t)
  | .destroyClass => settled t (destroyClass host rpc t)
  | .unexpected _ => (.ok emptyResult, t)

/-- The `exception` entry of a response: the error itself or the text of a traceback. -/
inductive ExceptionEntry
  | object (className : String) (msg : Value) (arg : Value)
  | text (stacktrace : String)

structure Response where
  src : String
  dst : String
  exception : Option ExceptionEntry
  rc : Value
  reqUuid : String

/-- How `handle_rpc_req` ends: the message is for another process, something is raised
that ends the thread, or `send_rsp` is called. -/
inductive Handled
  | ignored
  | raised (error : Raised)
  | responded (response : Response)

/-- The response of `populate_rpc_rsp`, with the uuid of the request. -/
def Rpc.respond (rpc : Rpc) (rc : Value) (exception : Option ExceptionEntry) : Response :=
  ⟨rpc.dst, rpc.src, exception, rc, rpc.reqUuid⟩

def unexpectedRpc : Raised := .defwError "DEFwError" true (.str "Unexpected rpc") .none

/-- What is sent of an error. The truth of the error decides whether it is sent. -/
def Raised.entry : Raised → Option ExceptionEntry
  | .defwError className truthy msg arg => if truthy then some (.object className msg arg) else none
  | .exception text | .baseException text => some (.text ("Traceback (most recent call last):\n" ++ text))

/-- `except Exception` does not catch it. -/
def Raised.escapes : Raised → Bool
  | .baseException _ => true
  | _ => false

/-- `handle_rpc_req` up to and including the call of `send_rsp`. -/
def handleRpcReq (host : Host) (callee : Callee) (rpc : Rpc) (t : Tables) : Handled × Tables :=
  if rpc.dst ≠ host.runtimeId then (.ignored, t)
  else
    match rpc.type with
    | .unexpected _ => (.raised unexpectedRpc, t)
    | _ =>
      match callee.importModule with
      | .error raised => (.raised raised, t)
      | .ok () =>
        match dispatch host callee rpc t with
        | (.ok rc, t) => (.responded (rpc.respond rc none), t)
        | (.error raised, t) =>
          if raised.escapes then (.raised raised, t) else (.responded (rpc.respond emptyResult raised.entry), t)

end DEFw.Registry
