import DEFw.Registry.Threads
import DEFw.Workers.Deliveries
import Mathlib.Data.List.Perm.Subperm
import Mathlib.Logic.Embedding.Basic

namespace DEFw.Registry

/-- The checks of `handle_rpc_req` before its `try` block. -/
def Rpc.passes (host : Host) (callee : Callee) (rpc : Rpc) : Bool :=
  rpc.dst = host.runtimeId && callee.importModule.isOk &&
    match rpc.type with
    | .unexpected _ => false
    | _ => true

/-- What the thread sends behind its `try` block. -/
def Thread.response (thread : Thread) : Option Response :=
  match thread.stage with
  | .ended (.ok rc) => some (thread.rpc.respond rc none)
  | .ended (.error raised) => if raised.escapes then none else some (thread.rpc.respond emptyResult raised.entry)
  | _ => none

theorem Thread.of_response {thread : Thread} {response : Response} (sends : thread.response = some response) :
    (∃ outcome, thread.stage = .ended outcome) ∧ response.reqUuid = thread.rpc.reqUuid := by
  unfold Thread.response at sends
  split at sends
  next rc ended =>
    cases sends
    exact ⟨⟨_, ended⟩, rfl⟩
  next raised ended =>
    split at sends
    · cases sends
    · cases sends
      exact ⟨⟨_, ended⟩, rfl⟩
  · cases sends

/-- Threads go on with their own request, and one that has ended stays as it is. -/
structure Server.Continues (s next : Server) : Prop where
  accepted : next.accepted = s.accepted
  rpc : ∀ id, (next.threads.get? id).map Thread.rpc = (s.threads.get? id).map Thread.rpc
  ended : ∀ id thread response, s.threads.get? id = some thread → thread.response = some response →
    next.threads.get? id = some thread

theorem step_continues (host : Host) (s : Server) {action : Action} (fresh : ∀ rpc callee, action ≠ .request rpc callee) :
    s.Continues (step host s action).1 := by
  have same : s.Continues s := ⟨rfl, fun _ => rfl, fun _ _ _ found _ => found⟩
  cases action with
  | request rpc callee => exact absurd rfl (fresh rpc callee)
  | shutdownServiceInstance instance_ =>
    simp only [step]
    split <;> exact ⟨same.accepted, same.rpc, same.ended⟩
  | finishEviction =>
    simp only [step]
    split <;> exact ⟨same.accepted, same.rpc, same.ended⟩
  | proceed other =>
    simp only [step]
    cases found : s.threads.get? other with
    | none => exact same
    | some thread =>
      simp only []
      split
      · exact same
      · refine ⟨rfl, fun id => ?_, fun id now response present sends => ?_⟩
        · by_cases here : id = other <;> simp [Server.advanced, Dict.get?_set, here, found]
        · by_cases here : id = other
          · subst here
            cases found.symm.trans present
            obtain ⟨⟨outcome, ended⟩, -⟩ := Thread.of_response sends
            cases thread
            simp_all [Server.advanced, advance]
          · simpa [Server.advanced, Dict.get?_set, here] using present

end DEFw.Registry

namespace DEFw.Workers
open Py
open Registry (Host Callee Rpc Response Server Thread)

/-- A process with its calls, a process that they go to, and the messages between the two. A
message that is lost stays on its way. `asked` is the message of each call, `accepted` that of
each thread of the server, and `arrived` that of each event with a response. -/
structure Exchange where
  client : State
  asked : Dict Nat Rpc
  requests : List Rpc
  server : Server
  accepted : List Rpc
  replied : List Nat
  responses : List Response
  arrived : Dict Nat Response

/-- Calls go on whether or not their message leaves. -/
inductive ExchangeEvent
  | call (rpc : Rpc) (blkUuid : String) (blocking : Bool) (timeout : Nat)
  | proceed (uuid : Nat) (choice : Choice) (leaves : Bool)
  | client (action : Action)
  | accept (place : Nat) (callee : Callee)
  | server (action : Registry.Action)
  | reply (thread : Nat) (leaves : Bool)
  | arrive (place : Nat)

/-- The request whose uuid is written so. -/
def State.number (name : Nat ↪ String) (s : State) (text : String) : Option Nat :=
  (List.range s.created).find? (name · = text)

namespace Exchange

def start (host : Host) : Exchange := ⟨.start, .empty, [], .start host, [], [], [], .empty⟩

/-- A step of the client. -/
def act (x : Exchange) (action : Action) : Exchange × List Entry :=
  ({ x with client := (Workers.step x.client action).1 }, (Workers.step x.client action).2)

/-- The message of a call that is at `defw_send_req`. A connect has none. -/
def outgoing (x : Exchange) (uuid : Nat) : List Rpc :=
  if (x.client.callers.get? uuid).map Caller.stage = some .sending then (x.asked.get? uuid).toList else []

def step (name : Nat ↪ String) (host : Host) (x : Exchange) : ExchangeEvent → Exchange × List Entry
  | .call rpc blkUuid blocking timeout =>
    let asked := x.asked.set x.client.created { rpc with reqUuid := name x.client.created }
    { x with asked := asked }.act (.call .sendMsg rpc.dst blkUuid blocking timeout)
  | .proceed uuid choice leaves =>
    { x with requests := x.requests ++ if leaves then x.outgoing uuid else [] }.act (.proceed uuid choice)
  -- sends and responses have events of their own
  | .client (.call .sendMsg ..) | .client (.proceed ..) | .client (.put (.incomingResponse _)) => (x, [])
  | .client action => x.act action
  | .accept place callee =>
    match x.requests[place]? with
    | none => (x, [])
    | some rpc =>
      let taken := { x with requests := x.requests.eraseIdx place }
      if rpc.passes host callee then
        ({ taken with
            server := (Registry.step host x.server (.request rpc callee)).1
            accepted := x.accepted ++ [rpc] }, [])
      else (taken, [])
  | .server (.request ..) => (x, [])
  | .server action => ({ x with server := (Registry.step host x.server action).1 }, [])
  | .reply id leaves =>
    match (x.server.threads.get? id).bind Thread.response with
    | none => (x, [])
    | some response =>
      if id ∈ x.replied then (x, [])
      else ({ x with replied := x.replied ++ [id], responses := x.responses ++ if leaves then [response] else [] }, [])
  | .arrive place =>
    match x.responses[place]? with
    | none => (x, [])
    | some response =>
      { x with
        responses := x.responses.eraseIdx place
        arrived := x.arrived.set x.client.events response }.act
          (.put (.incomingResponse (x.client.number name response.reqUuid)))

def machine (name : Nat ↪ String) (host : Host) : Machine Exchange ExchangeEvent Entry := ⟨step name host⟩

end Exchange

/-- The call has yet to send its message. -/
def Caller.unsent (caller : Caller) : Bool :=
  match caller.stage with
  | .created | .preparing | .sending => true
  | _ => false

/-- The call has this event in its queue, or returned it. -/
def Caller.Has (caller : Caller) (item : Item) : Prop := item ∈ caller.queue ∨ caller.stage = .ended (.message item)

/-- What is returned is a message. -/
def Caller.Sound (caller : Caller) : Prop :=
  ∀ item, caller.stage = .ended (.message item) →
    item.event = .incomingRequest ∨ ∃ reqUuid, item.event = .incomingResponse reqUuid

/-- What a call can become: it sends once, and has only what it had. -/
structure Caller.Onward (caller next : Caller) : Prop where
  unsent : next.unsent = true → caller.unsent = true ∧ caller.stage ≠ .sending
  has : ∀ item, next.Has item → caller.Has item
  sound : caller.Sound → next.Sound

theorem Caller.Onward.goto {caller : Caller} {stage : Stage} (quiet : ∀ item, stage ≠ .ended (.message item))
    (unsent : ({ caller with stage := stage } : Caller).unsent = true → caller.unsent = true ∧ caller.stage ≠ .sending) :
    caller.Onward { caller with stage := stage } :=
  ⟨unsent, fun item has => .inl (has.resolve_right (quiet item)), fun _ item ended => absurd ended (quiet item)⟩

theorem proceed_onward (s : State) (uuid : Nat) (caller : Caller) (choice : Choice)
    (found : s.callers.get? uuid = some caller) {next : Caller}
    (now : (s.proceed uuid caller choice).1.callers.get? uuid = some next) : caller.Onward next := by
  have stays (past : caller.stage ≠ .sending) (same : s.callers.get? uuid = some next) : caller.Onward next := by
    cases found.symm.trans same
    exact ⟨fun unsent => ⟨unsent, past⟩, fun _ has => has, id⟩
  unfold State.proceed at now
  cases stage : caller.stage with
  | getting =>
    simp only [stage] at now
    split at now <;> simp only [State.goto, Dict.get?_set_self, Option.some.injEq] at now <;> subst now
    · exact .goto (by simp) (by simp [Caller.unsent])
    next item rest queue =>
      have returned (other : Item) (ended : State.awaited caller.request item = .message other) : item = other ∧
          (other.event = .incomingRequest ∨ ∃ reqUuid, other.event = .incomingResponse reqUuid) := by
        unfold State.awaited at ended
        cases event : item.event <;> simp only [event] at ended
        case connComplete => split at ended <;> cases ended
        all_goals cases ended <;> exact ⟨rfl, by simp [event]⟩
      refine ⟨by simp [Caller.unsent], fun other has => .inl ?_, fun _ other ended => ?_⟩
      · rcases has with queued | ended
        · exact queue ▸ List.mem_cons_of_mem item queued
        · exact (returned other (by simpa using ended)).1 ▸ queue ▸ List.mem_cons_self
      · exact (returned other (by simpa using ended)).2
  | _ =>
    simp only [stage] at now
    repeat' split at now
    all_goals first
      | exact stays (by simp [stage]) now
      | simp only [State.goto, Dict.get?_set_self, Option.some.injEq] at now
        exact now ▸ .goto (by simp) (by simp [Caller.unsent, stage])

/-- What a call can become in a step: it has besides only what the worker gave it. -/
structure Caller.Becomes (uuid : Nat) (action : Action) (new : List Entry) (caller now : Caller) : Prop where
  sound : caller.Sound → now.Sound
  has : ∀ item, now.Has item → caller.Has item ∨ .delivered uuid item ∈ new
  unsent : now.unsent = true → caller.unsent = true ∧ ∀ choice, action = .proceed uuid choice → caller.stage ≠ .sending

theorem step_callers (s : State) (action : Action) {uuid : Nat} {now : Caller}
    (found : (step s action).1.callers.get? uuid = some now) :
    (∃ caller, s.callers.get? uuid = some caller ∧ caller.Becomes uuid action (step s action).2 now) ∨
    uuid = s.created ∧ now.stage = .created ∧ now.queue = [] := by
  have kept (same : s.callers.get? uuid = some now) (rest : ∀ choice, action ≠ .proceed uuid choice) :
      ∃ caller, s.callers.get? uuid = some caller ∧ caller.Becomes uuid action (step s action).2 now :=
    ⟨now, same, id, fun _ => .inl, fun unsent => ⟨unsent, fun choice this => absurd this (rest choice)⟩⟩
  cases action with
  | call wrType remoteUuid blkUuid blocking timeout =>
    simp only [step, Dict.get?_set] at found
    split at found
    next here =>
      cases found
      exact .inr ⟨here, rfl, rfl⟩
    · exact .inl (kept found (by simp))
  | proceed other choice =>
    simp only [step] at found
    cases present : s.callers.get? other with
    | none =>
      simp only [present] at found
      exact .inl (kept found (by rintro _ ⟨⟩; simp [present] at found))
    | some caller =>
      simp only [present] at found
      by_cases here : uuid = other
      · subst here
        have onward := proceed_onward s uuid caller choice present found
        exact .inl ⟨caller, present, onward.sound, fun item has => .inl (onward.has item has),
          fun unsent => (onward.unsent unsent).imp id fun past _ _ => past⟩
      · have same : s.callers.get? uuid = some now := by
          have moves := proceeds s other caller choice
          generalize s.proceed other caller choice = next at found moves
          cases moves <;> simpa [State.goto, Dict.get?_set, here] using found
        exact .inl (kept same (by rintro _ ⟨⟩; exact here rfl))
  | put event =>
    simp only [step] at found
    split at found <;> exact .inl (kept found (by simp))
  | work =>
    simp only [step, State.work] at found
    split at found
    · exact .inl (kept found (by simp))
    · split at found <;> exact .inl (kept found (by simp))
    next item other rest working =>
      split at found
      · exact .inl (kept found (by simp))
      next caller present =>
        simp only [Dict.get?_set] at found
        split at found
        next here =>
          cases found
          subst here
          refine .inl ⟨caller, present, fun sound => sound, fun added has => ?_, fun unsent => ⟨unsent, by simp⟩⟩
          rcases has with queued | ended
          · rcases List.mem_append.mp queued with old | new
            · exact .inl (.inl old)
            · exact .inr (by simp [step, State.work, working, present, List.mem_singleton.mp new])
          · exact .inl (.inr ended)
        · exact .inl (kept found (by simp))
    · exact .inl (kept found (by simp))
  | systemShutdown => exact .inl (kept found (by simp))
  | tick => exact .inl (kept found (by simp))

/-- Where the events in the queue of the worker come from, and those that it takes. -/
theorem step_items (s : State) (action : Action) :
    (∀ item ∈ (step s action).1.queue, item ∈ s.queue ∨ ∃ event, action = .put event ∧ item = ⟨s.events, event⟩) ∧
    (∀ item targets, .began item targets ∈ (step s action).2 → item ∈ s.queue) := by
  cases action with
  | proceed uuid choice =>
    simp only [step]
    cases s.callers.get? uuid with
    | none => simp
    | some caller =>
      have moves := proceeds s uuid caller choice
      simp only []
      generalize s.proceed uuid caller choice = next at moves
      cases moves <;> simp_all [State.goto]
  | put event =>
    simp only [step]
    split <;> simp +contextual
  | work =>
    simp only [step, State.work]
    repeat' split
    all_goals simp_all
  | _ => simp [step]

namespace Exchange

/-- The requests that have left the client. -/
def sent (x : Exchange) : List Rpc := x.requests ++ x.accepted

/-- An event with a response for a request is the arrival of one with its uuid. -/
def Backed (name : Nat ↪ String) (x : Exchange) (item : Item) : Prop :=
  ∀ uuid, item.event = .incomingResponse (some uuid) →
    ∃ response, x.arrived.get? item.object = some response ∧ response.reqUuid = name uuid

structure Ledger (name : Nat ↪ String) (x : Exchange) (log : List Entry) : Prop where
  correlated : Correlated x.client log
  history : History x.client log
  heard : ∀ uuid caller, x.client.callers.get? uuid = some caller →
    caller.Sound ∧ ∀ item, caller.Has item → .delivered uuid item ∈ log
  backed : ∀ item, (item ∈ x.client.queue ∨ ∃ targets, .began item targets ∈ log) → x.Backed name item
  named : ∀ uuid rpc, x.asked.get? uuid = some rpc →
    rpc.reqUuid = name uuid ∧ ∃ caller, x.client.callers.get? uuid = some caller
  origin : ∀ rpc ∈ x.sent, ∃ uuid, x.asked.get? uuid = some rpc
  once : (x.sent.map Rpc.reqUuid).Nodup
  unsent : ∀ uuid caller, x.client.callers.get? uuid = some caller → caller.unsent = true →
    name uuid ∉ x.sent.map Rpc.reqUuid
  threads : x.server.accepted = x.accepted.length ∧
    ∀ id, (x.server.threads.get? id).map Thread.rpc = x.accepted[id]?
  answers : ∀ response, (response ∈ x.responses ∨ ∃ object, x.arrived.get? object = some response) →
    ∃ id thread, x.server.threads.get? id = some thread ∧ thread.response = some response

namespace Ledger

variable {name : Nat ↪ String} {host : Host} {x : Exchange} {log : List Entry}

theorem start : Ledger name (.start host) [] where
  correlated := correlated_start
  history := history_start
  heard := by simp [Exchange.start, State.start]
  backed := by simp [Exchange.start, State.start]
  named := by simp [Exchange.start]
  origin := by simp [Exchange.start, sent]
  once := by simp [Exchange.start, sent]
  unsent := by simp [Exchange.start, State.start]
  threads := by simp [Exchange.start, Server.start]
  answers := by simp [Exchange.start]

theorem asked_ne (was : Ledger name x log) {uuid : Nat} {rpc : Rpc} (asked : x.asked.get? uuid = some rpc) :
    uuid ≠ x.client.created := by
  obtain ⟨-, caller, found⟩ := was.named uuid rpc asked
  exact Nat.ne_of_lt (was.correlated.numbered uuid caller found)

/-- The uuid of the next call is that of no request that has left the client. -/
theorem fresh (was : Ledger name x log) : name x.client.created ∉ x.sent.map Rpc.reqUuid := by
  intro left
  obtain ⟨rpc, member, same⟩ := List.mem_map.mp left
  obtain ⟨uuid, asked⟩ := was.origin rpc member
  exact was.asked_ne asked (name.injective ((was.named uuid rpc asked).1.symm.trans same))

/-- The client takes a step that needs no message. -/
theorem act (was : Ledger name x log) (action : Action) (answered : ∀ uuid, action = .put (.incomingResponse (some uuid)) →
    ∃ response, x.arrived.get? x.client.events = some response ∧ response.reqUuid = name uuid) :
    Ledger name (x.act action).1 (log ++ (x.act action).2) := by
  have steps := was.correlated.steps action
  obtain ⟨queued, taken⟩ := step_items x.client action
  refine ⟨was.correlated.step steps, was.history.step steps, fun uuid now found => ?_, fun item present => ?_,
    fun uuid rpc asked => ?_, was.origin, was.once, fun uuid now found unsent => ?_, was.threads, was.answers⟩
  · rcases step_callers x.client action found with ⟨caller, present, becomes⟩ | ⟨-, stage, queue⟩
    · obtain ⟨sound, heard⟩ := was.heard uuid caller present
      exact ⟨becomes.sound sound, fun item has => List.mem_append.mpr ((becomes.has item has).imp (heard item) id)⟩
    · exact ⟨by simp [Caller.Sound, stage], by simp [Caller.Has, stage, queue]⟩
  · rcases present with member | ⟨targets, began⟩
    · rcases queued item member with old | ⟨event, rfl, rfl⟩
      · exact was.backed item (.inl old)
      · rintro uuid rfl
        exact answered uuid rfl
    · rcases List.mem_append.mp began with old | new
      · exact was.backed item (.inr ⟨targets, old⟩)
      · exact was.backed item (.inl (taken item targets new))
  · obtain ⟨named, caller, found⟩ := was.named uuid rpc asked
    exact ⟨named, (steps.keeps was.correlated found).imp fun now kept => kept.1⟩
  · rcases step_callers x.client action found with ⟨caller, present, becomes⟩ | ⟨rfl, -, -⟩
    · exact was.unsent uuid caller present (becomes.unsent unsent).1
    · exact was.fresh

/-- Messages between the two are taken away or, from the client, given to a thread. -/
theorem taken (was : Ledger name x log) {requests accepted : List Rpc} {server : Server}
    (less : (requests ++ accepted).Subperm x.sent)
    (threads : server.accepted = accepted.length ∧ ∀ id, (server.threads.get? id).map Thread.rpc = accepted[id]?)
    (kept : ∀ id thread response, x.server.threads.get? id = some thread → thread.response = some response →
      server.threads.get? id = some thread) :
    Ledger name { x with requests := requests, accepted := accepted, server := server } log := by
  obtain ⟨left, same, less⟩ := less
  have fewer := List.Nodup.sublist (less.map Rpc.reqUuid) was.once
  refine { was with
    origin := fun rpc member => was.origin rpc (less.subset (same.mem_iff.mpr member))
    once := (same.map Rpc.reqUuid).nodup_iff.mp fewer
    unsent := fun uuid caller found unsent member => ?_
    threads := threads
    answers := fun response present => ?_ }
  · exact was.unsent uuid caller found unsent ((less.map Rpc.reqUuid).subset ((same.map Rpc.reqUuid).mem_iff.mpr member))
  · obtain ⟨id, thread, found, sends⟩ := was.answers response present
    exact ⟨id, thread, kept id thread response found sends, sends⟩

theorem call (was : Ledger name x log) (rpc : Rpc) (blkUuid : String) (blocking : Bool) (timeout : Nat) :
    Ledger name (x.step name host (.call rpc blkUuid blocking timeout)).1
      (log ++ (x.step name host (.call rpc blkUuid blocking timeout)).2) := by
  have now := was.act (.call .sendMsg rpc.dst blkUuid blocking timeout) (by simp)
  refine { now with named := fun uuid other asked => ?_, origin := fun other member => ?_ }
  · simp only [step, Exchange.act, Dict.get?_set] at asked
    split at asked
    next here =>
      cases asked
      subst here
      exact ⟨rfl, _, Dict.get?_set_self _ _ _⟩
    · exact now.named uuid other asked
  · obtain ⟨uuid, asked⟩ := now.origin other member
    exact ⟨uuid, by simpa [step, Exchange.act, Dict.get?_set, was.asked_ne asked] using asked⟩

theorem proceed (was : Ledger name x log) (uuid : Nat) (choice : Choice) (leaves : Bool) :
    Ledger name (x.step name host (.proceed uuid choice leaves)).1
      (log ++ (x.step name host (.proceed uuid choice leaves)).2) := by
  have now := was.act (.proceed uuid choice) (by simp)
  have silent : Ledger name ({ x with requests := x.requests ++ [] }.act (.proceed uuid choice)).1
      (log ++ (x.act (.proceed uuid choice)).2) := by simpa [Exchange.act] using now
  cases leaves with
  | false => exact silent
  | true =>
    simp only [step, outgoing, if_true]
    split
    next sending =>
      cases asked : x.asked.get? uuid with
      | none => exact silent
      | some rpc =>
        obtain ⟨caller, found, stage⟩ := Option.map_eq_some_iff.mp sending
        have named := (was.named uuid rpc asked).1
        have same : (x.requests ++ [rpc] ++ x.accepted).Perm (rpc :: x.sent) := by simp [sent, List.perm_middle]
        refine { now with
          origin := fun other member => ?_
          once := ?_
          unsent := fun other after present unsent member => ?_ }
        · rcases List.mem_cons.mp (same.mem_iff.mp member) with rfl | member
          · exact ⟨uuid, asked⟩
          · exact was.origin other member
        · refine (same.map Rpc.reqUuid).nodup_iff.mpr (List.nodup_cons.mpr ⟨?_, was.once⟩)
          exact named ▸ was.unsent uuid caller found (by simp [Caller.unsent, stage])
        · rcases List.mem_cons.mp ((same.map Rpc.reqUuid).mem_iff.mp member) with here | member
          · -- the call that has just sent
            cases name.injective (here.trans named)
            rcases step_callers x.client _ present with ⟨before, earlier, becomes⟩ | ⟨rfl, -, -⟩
            · cases found.symm.trans earlier
              exact (becomes.unsent unsent).2 choice rfl stage
            · exact was.asked_ne asked rfl
          · exact now.unsent other after present unsent member
    · exact silent

theorem arrive (was : Ledger name x log) {place : Nat} {response : Response} (here : x.responses[place]? = some response) :
    Ledger name { x with
      responses := x.responses.eraseIdx place
      arrived := x.arrived.set x.client.events response } log := by
  refine { was with backed := fun item present uuid said => ?_, answers := fun other present => was.answers other ?_ }
  · have old : item.object < x.client.events := by
      rcases present with queued | ⟨targets, began⟩
      · exact (was.history.queued item queued).1
      · exact (was.history.begun item targets began).1
    obtain ⟨backing, arrived, named⟩ := was.backed item present uuid said
    exact ⟨backing, by simpa [Dict.get?_set, Nat.ne_of_lt old] using arrived, named⟩
  · rcases present with coming | ⟨object, arrived⟩
    · exact .inl (List.mem_of_mem_eraseIdx coming)
    · simp only [Dict.get?_set] at arrived
      split at arrived
      · exact .inl (Option.some.inj arrived ▸ List.mem_of_getElem? here)
      · exact .inr ⟨object, arrived⟩

theorem accept (was : Ledger name x log) (place : Nat) (callee : Callee) :
    Ledger name (x.step name host (.accept place callee)).1 (log ++ (x.step name host (.accept place callee)).2) := by
  simp only [step]
  split
  · simpa using was
  next rpc here =>
    obtain ⟨inside, same⟩ := List.getElem?_eq_some_iff.mp here
    split
    · rw [List.append_nil]
      refine was.taken (List.Perm.subperm ?_) ⟨by simp [Registry.step, was.threads.1], fun id => ?_⟩
        fun id thread response found sends => ?_
      · rw [← List.append_assoc]
        refine (List.perm_append_singleton _ _).trans ?_
        exact same ▸ (List.getElem_cons_eraseIdx_perm inside).append_right x.accepted
      · simp only [Registry.step, Dict.get?_set, was.threads.1]
        split
        next this => simp [this]
        next other =>
          rw [was.threads.2 id]
          grind
      · have old : id ≠ x.server.accepted := by
          rintro rfl
          have row := was.threads.2 x.server.accepted
          rw [found, was.threads.1] at row
          simp at row
        simpa [Registry.step, Dict.get?_set, old] using found
    · rw [List.append_nil]
      exact was.taken (((List.eraseIdx_sublist _ _).append_right _).subperm) was.threads fun _ _ _ found _ => found

theorem step (was : Ledger name x log) (event : ExchangeEvent) :
    Ledger name (x.step name host event).1 (log ++ (x.step name host event).2) := by
  have still : Ledger name x (log ++ []) := by simpa using was
  cases event with
  | call rpc blkUuid blocking timeout => exact was.call rpc blkUuid blocking timeout
  | proceed uuid choice leaves => exact was.proceed uuid choice leaves
  | accept place callee => exact was.accept place callee
  | client action =>
    cases action with
    | call wrType => cases wrType <;> first | exact still | exact was.act _ (by simp)
    | proceed => exact still
    | put event => cases event <;> first | exact still | exact was.act _ (by simp)
    | _ => exact was.act _ (by simp)
  | server action =>
    have moved (fresh : ∀ rpc callee, action ≠ .request rpc callee) :
        Ledger name { x with server := (Registry.step host x.server action).1 } (log ++ []) := by
      have goes := Registry.step_continues host x.server fresh
      exact still.taken (List.Subperm.refl _) ⟨goes.accepted.trans was.threads.1,
        fun id => (goes.rpc id).trans (was.threads.2 id)⟩ goes.ended
    cases action with
    | request => exact still
    | _ => exact moved (by simp)
  | reply id leaves =>
    simp only [Exchange.step]
    split
    · exact still
    next response sends =>
      split
      · exact still
      · refine { still with answers := fun other present => ?_ }
        rcases present with coming | arrived
        · rcases List.mem_append.mp coming with old | new
          · exact was.answers other (.inl old)
          · obtain ⟨thread, found, sends⟩ := Option.bind_eq_some_iff.mp sends
            cases leaves
            · cases new
            · exact ⟨id, thread, found, List.mem_singleton.mp new ▸ sends⟩
        · exact was.answers other (.inr arrived)
  | arrive place =>
    simp only [Exchange.step]
    split
    · exact still
    next response here =>
      refine (was.arrive here).act _ fun uuid put => ⟨response, by simp, ?_⟩
      simp only [Action.put.injEq, WorkerEvent.incomingResponse.injEq] at put
      simpa [eq_comm] using List.find?_some put

end Ledger

/-- Calls of one process to another, whatever happens to the messages and in whatever order the
threads of both go on: the threads of the server have different requests, each the message of a
call that has sent it; and a call that returns a message returns the response that the one thread
with its own request has sent. -/
theorem remote_calls_correlated (name : Nat ↪ String) (host : Host) (events : List ExchangeEvent) :
    let x := (machine name host).final (.start host) events
    (∀ id other thread another, x.server.threads.get? id = some thread → x.server.threads.get? other = some another →
      thread.rpc.reqUuid = another.rpc.reqUuid → id = other) ∧
    (∀ id thread, x.server.threads.get? id = some thread → ∃ uuid, x.asked.get? uuid = some thread.rpc ∧
      ∃ caller, x.client.callers.get? uuid = some caller ∧ caller.unsent = false) ∧
    (∀ uuid caller item, x.client.callers.get? uuid = some caller → caller.stage = .ended (.message item) →
      ∃ id thread response, x.server.threads.get? id = some thread ∧ x.asked.get? uuid = some thread.rpc ∧
        thread.response = some response ∧ x.arrived.get? item.object = some response) := by
  intro x
  have admits : (machine name host).Admits (fun _ _ => True) (.start host) events :=
    (machine name host).admits_of_forall fun _ _ => trivial
  have ledger : Ledger name x ((machine name host).log (.start host) events) :=
    (machine name host).run_invariant (Ledger name) .start (fun _ _ event was _ => was.step event) admits
  have row (id : Nat) (thread : Thread) (found : x.server.threads.get? id = some thread) :
      x.accepted[id]? = some thread.rpc := by simpa [found] using (ledger.threads.2 id).symm
  have left (id : Nat) (thread : Thread) (found : x.server.threads.get? id = some thread) : thread.rpc ∈ x.sent :=
    List.mem_append_right _ (List.mem_of_getElem? (row id thread found))
  refine ⟨fun id other thread another found present same => ?_, fun id thread found => ?_,
    fun uuid caller item found ended => ?_⟩
  · have nodup := (List.nodup_append.mp (List.map_append ▸ ledger.once : (x.requests.map Rpc.reqUuid ++
      x.accepted.map Rpc.reqUuid).Nodup)).2.1
    have here : (x.accepted.map Rpc.reqUuid)[id]? = some thread.rpc.reqUuid := by simp [row id thread found]
    have there : (x.accepted.map Rpc.reqUuid)[other]? = some thread.rpc.reqUuid := by simp [row other another present, same]
    exact (List.getElem?_inj (List.getElem?_eq_some_iff.mp here).1 nodup).mp (here.trans there.symm)
  · obtain ⟨uuid, asked⟩ := ledger.origin _ (left id thread found)
    obtain ⟨named, caller, present⟩ := ledger.named uuid _ asked
    refine ⟨uuid, asked, caller, present, ?_⟩
    by_contra unsent
    exact ledger.unsent uuid caller present (by simpa using unsent) (named ▸ List.mem_map_of_mem (left id thread found))
  · obtain ⟨sound, heard⟩ := ledger.heard uuid caller found
    have said := heard item (.inr ended)
    obtain ⟨targets, began⟩ : ∃ targets, .began item targets ∈ (machine name host).log (.start host) events := by
      by_contra none
      have nobody := ledger.history.unbegun item fun targets began => none ⟨targets, began⟩
      exact List.not_mem_nil (nobody ▸ mem_deliveredTo said)
    obtain ⟨-, all, -, concerned⟩ := ledger.history.begun item targets began
    obtain ⟨request, concerns⟩ := concerned uuid (all ▸ List.mem_append_left _ (mem_deliveredTo said))
    have event : item.event = .incomingResponse (some uuid) := by
      rcases sound item ended with asks | ⟨reqUuid, answers⟩
      · rw [asks] at concerns
        exact concerns.elim
      · rw [answers] at concerns
        exact answers.trans (congrArg _ concerns)
    obtain ⟨response, arrived, named⟩ := ledger.backed item (.inr ⟨targets, began⟩) uuid event
    obtain ⟨id, thread, present, sends⟩ := ledger.answers response (.inr ⟨_, arrived⟩)
    obtain ⟨asker, asked⟩ := ledger.origin _ (left id thread present)
    have same := (Thread.of_response sends).2.symm.trans named
    cases name.injective ((ledger.named asker _ asked).1.symm.trans same)
    exact ⟨id, thread, response, present, asked, sends, arrived⟩

end Exchange

end DEFw.Workers
