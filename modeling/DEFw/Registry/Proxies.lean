import DEFw.Registry.Threads

namespace DEFw.Registry
open Py

def RpcType.ofText : String → RpcType
  | "function_call" => .functionCall
  | "method_call" => .methodCall
  | "instantiate_class" => .instantiateClass
  | "destroy_class" => .destroyClass
  | text => .unexpected text

/-- The request that `Agent.send_req` builds from the arguments of its call, and
whether it waits for the response. All seven parameters are positional and have no
default. -/
def sendReq (endpoint reqUuid : String) : List Value → Except Raised (Rpc × Bool)
  | .str rpcType :: .str src :: .str module :: .str className :: .str name :: .str classId :: .bool blocking :: _ =>
    if name = "" then
      .error (.defwError "DEFwError" true (.str "A method or a function name need to be specified") .none)
    else .ok (⟨src, endpoint, module, .ofText rpcType, className, name, classId, reqUuid⟩, blocking)
  | _ => .error (.exception "TypeError: send_req() missing a required positional argument")

/-- A proxy is being constructed, in use, or gone: its constructor raised or nothing
refers to it any more. -/
inductive Status
  | creating
  | alive
  | gone
  deriving DecidableEq

/-- A `BaseRemote` with a target and without a given `class_id`. `thread` is the server
thread of its `instantiate_class`. -/
structure Proxy where
  module : String
  className : String
  blocking : Bool
  thread : Nat
  status : Status

/-- The proxies of all clients, by `class_id`, and the process that they talk to. -/
structure Clients where
  server : Server
  proxies : Dict String Proxy

/-- `construct` and `method` are what the called code does. -/
inductive ClientAction
  | create (classId module className : String) (blocking : Bool) (construct : Option (Except Raised ClassName))
  | answered (classId : String)
  | call (classId name : String) (method : Option (Except Raised Value))
  | drop (classId : String)
  | proceed (thread : Nat)

/-- An object is made for a class id, or a method call looks for the object of its class
id and of its class. -/
inductive Event
  | constructed (classId : String) (instance_ : Instance)
  | called (classId : String) (found : Option Instance)
  deriving DecidableEq

def Thread.events (thread : Thread) (next : Stage) (t : Tables) : List Event :=
  match thread.stage, thread.rpc.type, next with
  | .started, .methodCall, _ =>
    [.called thread.rpc.classId
      ((t.globalClassDb.get? thread.rpc.classId).filter (fun instance_ => instance_.className = thread.rpc.className))]
  | .started, .instantiateClass, .adding instance_ => [.constructed thread.rpc.classId instance_]
  | _, _, _ => []

section Client

variable (host : Host) (w : Clients)

/-- The request reaches the server. -/
def Clients.send (rpc : Rpc) (callee : Callee) : Clients := { w with server := (step host w.server (.request rpc callee)).1 }

/-- The uuid of the next request. Nothing here looks at it. -/
def Clients.reqUuid : String := toString w.server.accepted

/-- `BaseRemote.__init__`. A proxy that does not wait fails on the subscript of the pair
that `send_req` returns to it, after the request is sent. -/
def Clients.construct (classId module className : String) (blocking : Bool) (construct : Option (Except Raised ClassName)) :
    Clients :=
  let call := sendReq host.runtimeId w.reqUuid
    [.str "instantiate_class", .str "client", .str module, .str className, .str "__init__", .str classId, .bool blocking]
  let proxy (status : Status) : Proxy := ⟨module, className, blocking, w.server.accepted, status⟩
  match call with
  | .error _ => { w with proxies := w.proxies.set classId (proxy .gone) }
  | .ok (rpc, waits) =>
    let sent := w.send host rpc ⟨.ok (), .perConnection, none, construct, none⟩
    { sent with proxies := w.proxies.set classId (proxy (if waits then .creating else .gone)) }

/-- The constructor gets its response, if there is one: an exception in it is raised. -/
def Clients.settle (classId : String) (proxy : Proxy) (outcome : Except Raised Value) : Clients :=
  match outcome with
  | .ok _ => { w with proxies := w.proxies.set classId { proxy with status := .alive } }
  | .error raised =>
    if raised.escapes then w
    else { w with proxies := w.proxies.set classId { proxy with status := if raised.entry.isSome then .gone else .alive } }

/-- `newfunc` of `BaseRemote.__getattribute__`. -/
def Clients.callRemote (classId name : String) (proxy : Proxy) (method : Option (Except Raised Value)) : Clients :=
  match sendReq host.runtimeId w.reqUuid [.str "method_call", .str "client", .str proxy.module, .str proxy.className,
      .str name, .str classId, .bool proxy.blocking] with
  | .error _ => w
  | .ok (rpc, _) => w.send host rpc ⟨.ok (), .perConnection, none, none, method⟩

/-- `BaseRemote.__del__`, which ignores what is raised in it. (Python also calls it for an
object whose constructor raised; it sends nothing there either.) -/
def Clients.del (classId : String) (proxy : Proxy) : Clients :=
  let dropped := { w with proxies := w.proxies.set classId { proxy with status := .gone } }
  match sendReq host.runtimeId w.reqUuid [.str "destroy_class", .str "client", .str proxy.module, .str proxy.className,
      .str "__del__", .str classId] with
  | .error _ => dropped
  | .ok (rpc, _) => dropped.send host rpc ⟨.ok (), .perConnection, none, none, none⟩

/-- A new class id is not in use anywhere. A constructor goes on when its response is
there, and only a live proxy can be called or dropped. -/
def clientStep : ClientAction → Clients × List Event
  | .create classId module className blocking construct =>
    if (w.proxies.get? classId).isSome || (w.server.tables.globalClassDb.get? classId).isSome then (w, [])
    else (w.construct host classId module className blocking construct, [])
  | .answered classId =>
    match w.proxies.get? classId with
    | none => (w, [])
    | some proxy =>
      match proxy.status, (w.server.threads.get? proxy.thread).map Thread.stage with
      | .creating, some (.ended outcome) => (w.settle classId proxy outcome, [])
      | _, _ => (w, [])
  | .call classId name method =>
    match w.proxies.get? classId with
    | none => (w, [])
    | some proxy => if proxy.status = .alive then (w.callRemote host classId name proxy method, []) else (w, [])
  | .drop classId =>
    match w.proxies.get? classId with
    | none => (w, [])
    | some proxy => if proxy.status = .alive then (w.del host classId proxy, []) else (w, [])
  | .proceed id =>
    match w.server.threads.get? id with
    | none => (w, [])
    | some thread =>
      ({ w with server := (step host w.server (.proceed id)).1 },
        thread.events (advance host thread.callee thread.rpc w.server.tables thread.stage).1 w.server.tables)

end Client

def clientMachine (host : Host) : Machine Clients ClientAction Event := ⟨clientStep host⟩

/-- Clients without a proxy, and a server with any tables. -/
def Clients.start (t : Tables) : Clients := ⟨⟨t, .empty, 0, none⟩, .empty⟩

end DEFw.Registry
