import DEFw.Lib.Dict
import DEFw.Lib.Machine
import DEFw.Peers.Table

namespace DEFw.Workers
open Py

inductive WrType
  | sendMsg
  | connect
  deriving DecidableEq

/-- A `WorkerRequest`. The target of a send is kept as the texts that are compared; a
block uuid that is `None` is empty. -/
structure WorkerRequest where
  wrType : WrType
  remoteUuid : String
  blkUuid : String
  blocking : Bool
  deadline : Nat
  deriving DecidableEq

/-- A peer lifecycle event. An absent entry is empty. -/
structure LifecycleEvent where
  eventType : PeerEventType
  peerHandle : String
  remoteRuntimeId : String
  deriving DecidableEq

/-- The events of the worker. The `req-uuid` of a response is `none` if the message has
none or one that is no request uuid at all. -/
inductive WorkerEvent
  | incomingRequest
  | incomingResponse (reqUuid : Option Nat)
  | connComplete (uuid : Nat) (status : Int)
  | shutdown
  | peerLifecycle (event : LifecycleEvent)
  deriving DecidableEq

/-- One `WorkerEvent` object, by its identity. -/
structure Item where
  object : Nat
  event : WorkerEvent
  deriving DecidableEq

/-- What the C functions `defw_send_req` and `defw_connect_to_*` return. -/
inductive Rc
  | ok
  | inProgress
  | failed
  deriving DecidableEq

/-- What a call raises. -/
inductive CallError
  /-- `attach_encode` or `remember_connect_target` raised -/
  | unprepared (message : String)
  | sendingFailed (rc : Rc)
  | connectFailed (rc : Rc)
  | responseTimedOut
  /-- a connect completion in the queue of a send -/
  | unexpectedComplete
  | peerDisconnected (event : LifecycleEvent)
  deriving DecidableEq

inductive Outcome
  /-- `None`, of a wait that was cut short -/
  | nothing
  /-- the message of a response -/
  | message (item : Item)
  /-- the status of a connect -/
  | status (status : Int)
  /-- a call that does not wait -/
  | sent (rc : Rc)
  | raised (error : CallError)
  deriving DecidableEq

/-- How far a call of `send_req` or `connect_to_agent` is. -/
inductive Stage
  | created
  /-- `attach_encode` or `remember_connect_target` is next -/
  | preparing
  /-- `defw_send_req` or `defw_connect_to_*` is next -/
  | sending
  /-- `remove_work_request` is next -/
  | removing (rc : Rc)
  /-- the head of the loop in `wait`, with the time that was read last -/
  | waiting (t : Nat)
  /-- `queue.get` -/
  | getting
  | ended (outcome : Outcome)
  deriving DecidableEq

/-- A call with the request that it made. -/
structure Caller where
  request : WorkerRequest
  stage : Stage
  queue : List Item

/-- The worker thread is between two events, has events to put into the queues of these
requests, or has ended. It puts the event of a shutdown with the lock held. -/
inductive WorkerStage
  | idle
  | delivering (item : Item) (targets : List Nat)
  | stopped

/-- The callers are named by the uuid of their request. -/
structure State where
  reqDb : Dict Nat WorkerRequest
  callers : Dict Nat Caller
  queue : List Item
  worker : WorkerStage
  systemUp : Bool
  now : Nat
  created : Nat
  events : Nat

def State.start : State := ⟨.empty, .empty, [], .idle, true, 0, 0, 0⟩

/-- Whether the next part of a call raises, and what its C function returns. -/
structure Choice where
  raises : Option String
  rc : Rc

inductive Action
  | call (wrType : WrType) (remoteUuid blkUuid : String) (blocking : Bool) (timeout : Nat)
  | proceed (uuid : Nat) (choice : Choice)
  | put (event : WorkerEvent)
  | work
  | systemShutdown
  | tick

/-- What is seen of a run: a request is added to the table, the worker takes an event and
has found the requests that it is for, puts it into the queue of one of them, and has
handled it. -/
inductive Entry
  | registered (uuid : Nat)
  | began (item : Item) (targets : List Nat)
  | delivered (uuid : Nat) (item : Item)
  | finished (item : Item)
  deriving DecidableEq

/-- `_work_request_targets_peer`. -/
def targetsPeer (request : WorkerRequest) (event : LifecycleEvent) : Bool :=
  request.wrType = .sendMsg &&
    (event.remoteRuntimeId = "" || request.remoteUuid = event.remoteRuntimeId) &&
    (event.peerHandle = "" || request.blkUuid = "" || request.blkUuid = Peers.zeroUuid ||
      request.blkUuid = event.peerHandle)

namespace State

variable (s : State)

/-- The worker holds the lock of the table while it puts the event of a shutdown. -/
def locked : Bool :=
  match s.worker with
  | .delivering ⟨_, .shutdown⟩ (_ :: _) => true
  | _ => false

/-- The requests that an event is for, and the table without those that it removes. A
connect keeps its entry. -/
def route : WorkerEvent → List Nat × Dict Nat WorkerRequest
  | .incomingRequest => ([], s.reqDb)
  | .incomingResponse reqUuid =>
    match reqUuid with
    | none => ([], s.reqDb)
    | some uuid => if (s.reqDb.get? uuid).isSome then ([uuid], s.reqDb.erase uuid) else ([], s.reqDb)
  | .connComplete uuid _ => if (s.reqDb.get? uuid).isSome then ([uuid], s.reqDb) else ([], s.reqDb)
  | .shutdown => (s.reqDb.keys, s.reqDb)
  | .peerLifecycle event =>
    if event.eventType.isLoss then
      ((s.reqDb.filter (fun _ request => targetsPeer request event)).keys,
        s.reqDb.filter (fun _ request => !targetsPeer request event))
    else ([], s.reqDb)

/-- `WorkerThread.handle`, one critical section or one `put` at a time. -/
def work : State × List Entry :=
  match s.worker with
  | .stopped => (s, [])
  | .idle =>
    match s.queue with
    | [] => (s, [])
    | item :: rest =>
      let routed := s.route item.event
      ({ s with queue := rest, reqDb := routed.2, worker := .delivering item routed.1 }, [.began item routed.1])
  | .delivering item (uuid :: rest) =>
    let put : State := { s with worker := .delivering item rest }
    match s.callers.get? uuid with
    | none => (put, [])
    | some caller =>
      ({ put with callers := s.callers.set uuid { caller with queue := caller.queue ++ [item] } }, [.delivered uuid item])
  | .delivering item [] =>
    ({ s with worker := if item.event = .shutdown then .stopped else .idle }, [.finished item])

/-- What `wait` makes of an event. -/
def awaited (request : WorkerRequest) (item : Item) : Outcome :=
  match item.event with
  | .connComplete _ status =>
    if request.wrType = .connect then .status status else .raised .unexpectedComplete
  | .shutdown => .nothing
  | .peerLifecycle event => .raised (.peerDisconnected event)
  | .incomingRequest | .incomingResponse _ => .message item

/-- The call goes on to another part. -/
def goto (uuid : Nat) (caller : Caller) (stage : Stage) : State :=
  { s with callers := s.callers.set uuid { caller with stage := stage } }

/-- One part of `send_req` or `connect_to_agent`: a critical section, a call, or one
pass of the loop in `wait`. -/
def proceed (uuid : Nat) (caller : Caller) (choice : Choice) : State × List Entry :=
  match caller.stage with
  | .created =>
    if caller.request.blocking = false then (s.goto uuid caller .preparing, [])
    else if s.locked then (s, [])
    else ({ s.goto uuid caller .preparing with reqDb := s.reqDb.set uuid caller.request }, [.registered uuid])
  | .preparing =>
    match choice.raises with
    | some message => (s.goto uuid caller (.ended (.raised (.unprepared message))), [])
    | none => (s.goto uuid caller .sending, [])
  | .sending =>
    match caller.request.wrType, choice.rc with
    | .sendMsg, .inProgress | .sendMsg, .failed => (s.goto uuid caller (.ended (.raised (.sendingFailed choice.rc))), [])
    | .connect, .failed =>
      if caller.request.blocking then (s.goto uuid caller (.removing choice.rc), [])
      else (s.goto uuid caller (.ended (.raised (.connectFailed choice.rc))), [])
    | .sendMsg, .ok | .connect, .ok | .connect, .inProgress =>
      if caller.request.blocking then (s.goto uuid caller (.waiting s.now), [])
      else (s.goto uuid caller (.ended (.sent choice.rc)), [])
  | .removing rc =>
    if s.locked then (s, [])
    else ({ s.goto uuid caller (.ended (.raised (.connectFailed rc))) with reqDb := s.reqDb.erase uuid }, [])
  | .waiting t =>
    if t < caller.request.deadline then
      if s.systemUp then (s.goto uuid caller .getting, []) else (s.goto uuid caller (.ended .nothing), [])
    else (s.goto uuid caller (.ended (.raised .responseTimedOut)), [])
  | .getting =>
    match caller.queue with
    | [] => (s.goto uuid caller (.waiting s.now), [])
    | item :: rest => (s.goto uuid { caller with queue := rest } (.ended (awaited caller.request item)), [])
  | .ended _ => (s, [])

/-- The C layer completes only what was asked of it: a connect. -/
def accepts : WorkerEvent → Bool
  | .connComplete uuid _ => (s.callers.get? uuid).any (fun caller => caller.request.wrType = .connect)
  | _ => true

end State

def step (s : State) : Action → State × List Entry
  | .call wrType remoteUuid blkUuid blocking timeout =>
    ({ s with
        callers := s.callers.set s.created ⟨⟨wrType, remoteUuid, blkUuid, blocking, s.now + timeout⟩, .created, []⟩
        created := s.created + 1 }, [])
  | .proceed uuid choice =>
    match s.callers.get? uuid with
    | none => (s, [])
    | some caller => s.proceed uuid caller choice
  | .put event =>
    if s.accepts event then ({ s with queue := s.queue ++ [⟨s.events, event⟩], events := s.events + 1 }, []) else (s, [])
  | .work => s.work
  | .systemShutdown => ({ s with systemUp := false }, [])
  | .tick => ({ s with now := s.now + 1 }, [])

def machine : Machine State Action Entry := ⟨step⟩

end DEFw.Workers
