import DEFw.Fabric.Transmit
import DEFw.Lib.Slots

namespace DEFw.Fabric
open Agents (DefwRc)

/-- One `send_req` or `send_rsp`: the handles of the descriptors in its message, whether the
transport has taken the message and has handed it to the peer, and what the send returned. -/
structure Send where
  handles : List Nat
  taken : Bool
  delivered : Bool
  rc : Option DefwRc
  deriving DecidableEq

/-- One of the two processes: its registered regions, the sends it has made, the acknowledgements on
their way to it, its transmit side and the handles whose read it has yet to acknowledge. -/
structure Endpoint where
  mrList : List Nat
  mrNextHandle : Nat
  closed : Bool
  sends : List Send
  acks : List Nat
  transmit : Transmit
  fetched : List Nat
  deriving DecidableEq

def Endpoint.start : Endpoint := ⟨[], 1, false, [], [], .start true, []⟩

/-- What a process does: it begins a send, registers a region for it, gives the message to the
transport, returns from the send and discards a region of a failed one; it is handed a message of
the peer, takes a step on its transmit side, acknowledges a read, which the transport takes or not,
gets an acknowledgement, and shuts its endpoint down. -/
inductive Act where
  | compose
  | publish (send : Nat)
  | handOver (send : Nat)
  | finish (send : Nat) (rc : DefwRc)
  | discard (send : Nat) (handle : Nat)
  | deliver (send : Nat)
  | transmit (action : Action)
  | acknowledge (handle : Nat) (taken : Bool)
  | hear (handle : Nat)
  | shutdown
  deriving DecidableEq

/-- `defw_transport_ofi_mr_release`. -/
def Endpoint.mrRelease (e : Endpoint) (handle : Nat) : Endpoint :=
  { e with mrList := e.mrList.filter (fun other => other ≠ handle) }

/-- `defw_rma_publish` in `attach_encode`. -/
def Endpoint.publish (e : Endpoint) (send : Nat) : Endpoint :=
  if e.closed then e
  else
    match e.sends[send]? with
    | some ⟨_, false, _, none⟩ =>
      { e with mrList := e.mrList ++ [e.mrNextHandle], mrNextHandle := e.mrNextHandle + 1
               sends := e.sends.modify send (fun s => { s with handles := s.handles ++ [e.mrNextHandle] }) }
    | _ => e

def Endpoint.handOver (e : Endpoint) (send : Nat) : Endpoint :=
  { e with sends := e.sends.modify send (fun s => if s.rc = none then { s with taken := true } else s) }

def Endpoint.finish (e : Endpoint) (send : Nat) (rc : DefwRc) : Endpoint :=
  { e with sends := e.sends.modify send (fun s => if s.rc = none then { s with rc := some rc } else s) }

/-- The send returned a code other than `EN_DEFW_RC_OK`. -/
def Send.failed (s : Send) : Bool := s.rc.any (fun rc => rc ≠ .ok)

/-- A round of `attach_discard`. -/
def Endpoint.discard (e : Endpoint) (send handle : Nat) : Endpoint :=
  match e.sends[send]? with
  | some s => if s.failed ∧ handle ∈ s.handles then e.mrRelease handle else e
  | none => e

/-- The peer is handed the message of a send. -/
def Endpoint.delivered (e : Endpoint) (send : Nat) : Endpoint :=
  { e with sends := e.sends.modify send (fun s => if s.taken then { s with delivered := true } else s) }

/-- The region is named by a message that the peer was handed. -/
def Endpoint.named (e : Endpoint) (handle : Nat) : Bool := e.sends.any (fun s => s.delivered && s.handles.contains handle)

/-- The regions whose reads returned `EN_DEFW_RC_OK`. -/
def reads (returns : List Returned) : List Nat :=
  returns.filterMap (fun returned =>
    match returned.request, returned.rc with
    | .rmaRead region _ _, .ok => some region
    | _, _ => none)

/-- A step on the transmit side. Only regions named by a message are fetched. -/
def Endpoint.transmitStep (e peer : Endpoint) (action : Action) : Endpoint :=
  let go := { e with transmit := (e.transmit.step action).1, fetched := e.fetched ++ reads (e.transmit.step action).2 }
  match action with
  | .begin _ (.rmaRead region _ _) => if peer.named region then go else e
  | _ => go

/-- A step of a process, which can change its peer as well. -/
def Endpoint.act (e peer : Endpoint) : Act → Endpoint × Endpoint
  | .compose => ({ e with sends := e.sends ++ [⟨[], false, false, none⟩] }, peer)
  | .publish send => (e.publish send, peer)
  | .handOver send => (e.handOver send, peer)
  | .finish send rc => (e.finish send rc, peer)
  | .discard send handle => (e.discard send handle, peer)
  | .deliver send => (e, peer.delivered send)
  | .transmit action => (e.transmitStep peer action, peer)
  | .acknowledge handle taken =>
    if handle ∈ e.fetched then
      ({ e with fetched := e.fetched.erase handle }, if taken then { peer with acks := peer.acks ++ [handle] } else peer)
    else (e, peer)
  | .hear handle => if handle ∈ e.acks then ({ e with acks := e.acks.erase handle }.mrRelease handle, peer) else (e, peer)
  | .shutdown => ({ e with mrList := [], closed := true, transmit := { e.transmit with up := false } }, peer)

structure Exchange where
  near : Endpoint
  far : Endpoint
  deriving DecidableEq

/-- A step of the near process, or of the far one. -/
def Exchange.step (exchange : Exchange) : Bool × Act → Exchange × List Unit
  | (true, act) =>
    let (near, far) := exchange.near.act exchange.far act
    (⟨near, far⟩, [])
  | (false, act) =>
    let (far, near) := exchange.far.act exchange.near act
    (⟨near, far⟩, [])

def exchange : Machine Exchange (Bool × Act) Unit := ⟨Exchange.step⟩

/-- The region has been read. -/
def Endpoint.HasRead (e : Endpoint) (handle : Nat) : Prop :=
  ∃ operation ∈ e.transmit.filled, ∃ buf len, operation.request = .rmaRead handle buf len

/-- The regions named by a message that the receiver was handed are registered, or have been read,
or the sender has shut down. -/
def Outlives (sender receiver : Endpoint) : Prop :=
  sender.closed = false → ∀ s ∈ sender.sends, s.delivered = true → ∀ handle ∈ s.handles,
    handle ∈ sender.mrList ∨ receiver.HasRead handle

/-- A send that fails has not given its message to the transport, and operations complete in time. -/
def Endpoint.Orderly (e : Endpoint) : Act → Prop
  | .finish send rc => rc ≠ .ok → ∀ s ∈ e.sends[send]?, s.taken = false
  | .transmit action => Timely e.transmit action
  | _ => True

def Exchange.Orderly (exchange : Exchange) : Bool × Act → Prop
  | (true, act) => exchange.near.Orderly act
  | (false, act) => exchange.far.Orderly act

/-- The part of a run that concerns the messages from the one process to the other. -/
structure Guarded (sender receiver : Endpoint) : Prop where
  numbered : ∀ s ∈ sender.sends, ∀ handle ∈ s.handles, handle < sender.mrNextHandle
  apart : ∀ i j : Nat, ∀ a ∈ sender.sends[i]?, ∀ b ∈ sender.sends[j]?, ∀ handle ∈ a.handles, handle ∈ b.handles → i = j
  kept : sender.closed = false → ∀ s ∈ sender.sends, s.failed = false → ∀ handle ∈ s.handles,
    handle ∈ sender.mrList ∨ receiver.HasRead handle
  unsent : ∀ s ∈ sender.sends, s.failed = true → s.taken = false
  sent : ∀ s ∈ sender.sends, s.delivered = true → s.taken = true
  acked : ∀ handle ∈ sender.acks, receiver.HasRead handle
  fetched : ∀ handle ∈ receiver.fetched, receiver.HasRead handle
  sound : receiver.transmit.Sound

theorem Guarded.outlives {sender receiver : Endpoint} (guarded : Guarded sender receiver) :
    Outlives sender receiver := by
  intro up s member delivered handle named
  refine guarded.kept up s member ?_ handle named
  by_contra failed
  have untaken := guarded.unsent s member (by simpa using failed)
  rw [guarded.sent s member delivered] at untaken
  cases untaken

section Steps

variable {sender receiver : Endpoint}

theorem Guarded.modify (guarded : Guarded sender receiver) (send : Nat) {f : Send → Send}
    (same : ∀ s, (f s).handles = s.handles) (fails : ∀ s, s.failed = true → (f s).failed = true)
    (unsent : ∀ s ∈ sender.sends[send]?, (f s).failed = true → (f s).taken = false)
    (sent : ∀ s ∈ sender.sends[send]?, (f s).delivered = true → (f s).taken = true) :
    Guarded { sender with sends := sender.sends.modify send f } receiver := by
  have found : ∀ s ∈ sender.sends[send]?, s ∈ sender.sends := fun s here => List.mem_of_getElem? here
  refine ⟨?_, ?_, ?_, ?_, ?_, guarded.acked, guarded.fetched, guarded.sound⟩
  · intro s member handle named
    rcases Slots.mem_modify member with old | ⟨old, here, rfl⟩
    · exact guarded.numbered s old handle named
    · rw [same] at named
      exact guarded.numbered old (found old here) handle named
  · intro i j a atI b atJ handle inA inB
    have origin : ∀ {k : Nat} {s : Send}, s ∈ (sender.sends.modify send f)[k]? → handle ∈ s.handles →
        ∃ old ∈ sender.sends[k]?, handle ∈ old.handles := by
      intro k s atK named
      rw [List.getElem?_modify] at atK
      obtain ⟨old, here, rfl⟩ := Option.map_eq_some_iff.mp atK
      refine ⟨old, here, ?_⟩
      split at named
      · rwa [same] at named
      · exact named
    obtain ⟨oldA, atOldA, namedA⟩ := origin atI inA
    obtain ⟨oldB, atOldB, namedB⟩ := origin atJ inB
    exact guarded.apart i j oldA atOldA oldB atOldB handle namedA namedB
  · intro up s member running handle named
    rcases Slots.mem_modify member with old | ⟨old, here, rfl⟩
    · exact guarded.kept up s old running handle named
    · rw [same] at named
      refine guarded.kept up old (found old here) ?_ handle named
      by_contra failed
      have := fails old (by simpa using failed)
      rw [running] at this
      cases this
  · intro s member failed
    rcases Slots.mem_modify member with old | ⟨old, here, rfl⟩
    · exact guarded.unsent s old failed
    · exact unsent old here failed
  · intro s member delivered
    rcases Slots.mem_modify member with old | ⟨old, here, rfl⟩
    · exact guarded.sent s old delivered
    · exact sent old here delivered

theorem Guarded.handOver (guarded : Guarded sender receiver) (send : Nat) :
    Guarded (sender.handOver send) receiver := by
  refine guarded.modify send ?_ ?_ ?_ ?_
  · intro s
    split <;> rfl
  · intro s failed
    split <;> exact failed
  · intro s here failed
    have member := List.mem_of_getElem? here
    split at failed
    · rename_i running
      simp [Send.failed, running] at failed
    · rename_i returned
      rw [if_neg returned]
      exact guarded.unsent s member failed
  · intro s here delivered
    have member := List.mem_of_getElem? here
    split
    · rfl
    · rename_i returned
      rw [if_neg returned] at delivered
      exact guarded.sent s member delivered

theorem Guarded.finish (guarded : Guarded sender receiver) {send : Nat} {rc : DefwRc}
    (orderly : sender.Orderly (.finish send rc)) : Guarded (sender.finish send rc) receiver := by
  refine guarded.modify send ?_ ?_ ?_ ?_
  · intro s
    split <;> rfl
  · intro s failed
    split
    · rename_i running
      simp [Send.failed, running] at failed
    · exact failed
  · intro s here failed
    have member := List.mem_of_getElem? here
    split at failed
    · rename_i running
      rw [if_pos running]
      exact orderly (by simpa [Send.failed] using failed) s here
    · rename_i returned
      rw [if_neg returned]
      exact guarded.unsent s member failed
  · intro s here delivered
    have member := List.mem_of_getElem? here
    split at delivered
    all_goals
      rename_i state
      simp only [state, if_true, if_false]
      exact guarded.sent s member delivered

theorem Guarded.delivered (guarded : Guarded sender receiver) (send : Nat) :
    Guarded (sender.delivered send) receiver := by
  refine guarded.modify send ?_ ?_ ?_ ?_
  · intro s
    split <;> rfl
  · intro s failed
    split <;> exact failed
  · intro s here failed
    have member := List.mem_of_getElem? here
    have untaken : s.taken = false := by
      refine guarded.unsent s member ?_
      split at failed <;> exact failed
    simp [untaken]
  · intro s here delivered
    have member := List.mem_of_getElem? here
    split
    · assumption
    · rename_i untaken
      rw [if_neg untaken] at delivered
      exact guarded.sent s member delivered

/-- A region is released once it is read, or for a send that failed. -/
theorem Guarded.mrRelease (guarded : Guarded sender receiver) {handle : Nat}
    (settled : ∀ s ∈ sender.sends, s.failed = false → handle ∈ s.handles → receiver.HasRead handle) :
    Guarded (sender.mrRelease handle) receiver := by
  refine ⟨guarded.numbered, guarded.apart, ?_, guarded.unsent, guarded.sent, guarded.acked, guarded.fetched,
    guarded.sound⟩
  intro up s member running other named
  by_cases same : other = handle
  · subst same
    exact Or.inr (settled s member running named)
  · rcases guarded.kept up s member running other named with registered | read
    · exact Or.inl (List.mem_filter.mpr ⟨registered, by simpa using same⟩)
    · exact Or.inr read

theorem Guarded.discard (guarded : Guarded sender receiver) (send handle : Nat) :
    Guarded (sender.discard send handle) receiver := by
  unfold Endpoint.discard
  split
  · rename_i s here
    split
    · rename_i failed
      refine guarded.mrRelease ?_
      intro other member running named
      obtain ⟨place, there⟩ := List.mem_iff_getElem?.mp member
      obtain rfl := guarded.apart send place s here other there handle failed.2 named
      obtain rfl : s = other := Option.some.inj (here.symm.trans there)
      rw [failed.1] at running
      cases running
    · exact guarded
  · exact guarded

theorem Guarded.compose (guarded : Guarded sender receiver) :
    Guarded { sender with sends := sender.sends ++ [⟨[], false, false, none⟩] } receiver := by
  have old : ∀ s ∈ sender.sends ++ [⟨[], false, false, none⟩], s ∈ sender.sends ∨ s = ⟨[], false, false, none⟩ := by
    intro s member
    simpa using member
  refine ⟨?_, ?_, ?_, ?_, ?_, guarded.acked, guarded.fetched, guarded.sound⟩
  · intro s member handle named
    rcases old s member with old | rfl
    · exact guarded.numbered s old handle named
    · cases named
  · intro i j a atI b atJ handle inA inB
    have origin : ∀ {k : Nat} {s : Send}, s ∈ (sender.sends ++ [⟨[], false, false, none⟩])[k]? → handle ∈ s.handles →
        s ∈ sender.sends[k]? := by
      intro k s atK named
      rcases Slots.getElem?_concat_cases atK with rfl | old
      · cases named
      · exact old
    exact guarded.apart i j a (origin atI inA) b (origin atJ inB) handle inA inB
  · intro up s member running handle named
    rcases old s member with old | rfl
    · exact guarded.kept up s old running handle named
    · cases named
  · intro s member failed
    rcases old s member with old | rfl
    · exact guarded.unsent s old failed
    · rfl
  · intro s member delivered
    rcases old s member with old | rfl
    · exact guarded.sent s old delivered
    · cases delivered

theorem Guarded.publish (guarded : Guarded sender receiver) (send : Nat) :
    Guarded (sender.publish send) receiver := by
  unfold Endpoint.publish
  split
  · exact guarded
  split
  · refine ⟨?_, ?_, ?_, ?_, ?_, guarded.acked, guarded.fetched, guarded.sound⟩
    · intro s member handle named
      refine Nat.lt_succ_iff.mpr ?_
      rcases Slots.mem_modify member with old | ⟨old, here, rfl⟩
      · exact Nat.le_of_lt (guarded.numbered s old handle named)
      · rcases List.mem_append.mp named with before | new
        · exact Nat.le_of_lt (guarded.numbered old (List.mem_of_getElem? here) handle before)
        · exact Nat.le_of_eq (List.mem_singleton.mp new)
    · intro i j a atI b atJ handle inA inB
      -- a handle of a send is one it had, or the new one, which no send had
      have origin : ∀ {k : Nat} {s : Send}, s ∈ (sender.sends.modify send
          (fun s => { s with handles := s.handles ++ [sender.mrNextHandle] }))[k]? → handle ∈ s.handles →
          (∃ old ∈ sender.sends[k]?, handle ∈ old.handles) ∨ (handle = sender.mrNextHandle ∧ k = send) := by
        intro k s atK named
        rw [List.getElem?_modify] at atK
        obtain ⟨old, here, rfl⟩ := Option.map_eq_some_iff.mp atK
        split at named
        · rename_i same
          rcases List.mem_append.mp named with before | new
          · exact Or.inl ⟨old, here, before⟩
          · exact Or.inr ⟨List.mem_singleton.mp new, same.symm⟩
        · exact Or.inl ⟨old, here, named⟩
      have fresh : ∀ {k : Nat} {old : Send}, old ∈ sender.sends[k]? → handle ∈ old.handles →
          handle ≠ sender.mrNextHandle :=
        fun here named => Nat.ne_of_lt (guarded.numbered _ (List.mem_of_getElem? here) handle named)
      rcases origin atI inA with ⟨oldA, hereA, namedA⟩ | ⟨isNew, rfl⟩
      · rcases origin atJ inB with ⟨oldB, hereB, namedB⟩ | ⟨isNew, _⟩
        · exact guarded.apart i j oldA hereA oldB hereB handle namedA namedB
        · exact absurd isNew (fresh hereA namedA)
      · rcases origin atJ inB with ⟨oldB, hereB, namedB⟩ | ⟨_, same⟩
        · exact absurd isNew (fresh hereB namedB)
        · exact same.symm
    · intro up s member running handle named
      have grown : ∀ {old : Send}, old ∈ sender.sends → old.failed = false → handle ∈ old.handles →
          handle ∈ sender.mrList ++ [sender.mrNextHandle] ∨ receiver.HasRead handle :=
        fun member running named => (guarded.kept up _ member running handle named).imp_left (List.mem_append_left _)
      rcases Slots.mem_modify member with old | ⟨old, here, rfl⟩
      · exact grown old running named
      · rcases List.mem_append.mp named with before | new
        · exact grown (List.mem_of_getElem? here) running before
        · exact Or.inl (List.mem_append_right _ new)
    · intro s member failed
      rcases Slots.mem_modify member with old | ⟨old, here, rfl⟩
      · exact guarded.unsent s old failed
      · exact guarded.unsent old (List.mem_of_getElem? here) failed
    · intro s member delivered
      rcases Slots.mem_modify member with old | ⟨old, here, rfl⟩
      · exact guarded.sent s old delivered
      · exact guarded.sent old (List.mem_of_getElem? here) delivered
  · exact guarded

theorem mem_reads {returns : List Returned} {handle : Nat} (member : handle ∈ reads returns) :
    ∃ returned ∈ returns, returned.rc = .ok ∧ ∃ buf len, returned.request = .rmaRead handle buf len := by
  obtain ⟨returned, inReturns, chosen⟩ := List.mem_filterMap.mp member
  refine ⟨returned, inReturns, ?_⟩
  split at chosen
  · rename_i region buf len isRead ok
    obtain rfl := Option.some.inj chosen
    exact ⟨ok, buf, len, isRead⟩
  · cases chosen

/-- Whatever the receiver's transmit side does in time, it acknowledges what it has read. -/
theorem Guarded.transmitStep (guarded : Guarded sender receiver) {action : Action}
    (timely : Timely receiver.transmit action) : Guarded sender (receiver.transmitStep sender action) := by
  obtain ⟨sound, attributed⟩ := guarded.sound.step timely
  have gone : Guarded sender { receiver with
      transmit := (receiver.transmit.step action).1
      fetched := receiver.fetched ++ reads (receiver.transmit.step action).2 } := by
    have still : ∀ handle, receiver.HasRead handle → ∃ operation ∈ (receiver.transmit.step action).1.filled,
        ∃ buf len, operation.request = .rmaRead handle buf len := by
      rintro handle ⟨operation, filled, isRead⟩
      exact ⟨operation, receiver.transmit.step_filled action operation filled, isRead⟩
    refine ⟨guarded.numbered, guarded.apart, ?_, guarded.unsent, guarded.sent, ?_, ?_, sound⟩
    · intro up s member running handle named
      exact (guarded.kept up s member running handle named).imp_right (still handle)
    · intro handle member
      exact still handle (guarded.acked handle member)
    · intro handle member
      rcases List.mem_append.mp member with old | new
      · exact still handle (guarded.fetched handle old)
      · obtain ⟨returned, inReturns, ok, buf, len, isRead⟩ := mem_reads new
        obtain ⟨operation, issued, _, asked, flag⟩ := attributed returned inReturns ok
        obtain ⟨other, issuedToo, filled⟩ := Transmit.returned_filled inReturns flag
        obtain rfl : operation = other := Option.some.inj (issued.symm.trans issuedToo)
        exact ⟨operation, filled, buf, len, asked.trans isRead⟩
  unfold Endpoint.transmitStep
  dsimp only
  split
  · split
    · exact gone
    · exact guarded
  · exact gone

theorem Transmit.Sound.shutdown {t : Transmit} (sound : t.Sound) : Transmit.Sound { t with up := false } :=
  ⟨sound.numbered, sound.own, sound.single, sound.queued, sound.asked⟩

theorem Guarded.of_receiver (guarded : Guarded sender receiver) {other : Endpoint}
    (transmit : other.transmit = receiver.transmit) (fetched : ∀ handle ∈ other.fetched, handle ∈ receiver.fetched) :
    Guarded sender other := by
  have same : ∀ handle, other.HasRead handle ↔ receiver.HasRead handle := by
    intro handle
    rw [Endpoint.HasRead, transmit, Endpoint.HasRead]
  refine ⟨guarded.numbered, guarded.apart, ?_, guarded.unsent, guarded.sent, ?_, ?_, transmit ▸ guarded.sound⟩
  · intro up s member running handle named
    rw [same]
    exact guarded.kept up s member running handle named
  · intro handle member
    rw [same]
    exact guarded.acked handle member
  · intro handle member
    rw [same]
    exact guarded.fetched handle (fetched handle member)

/-- Another part of the sender changes, or it gets the acknowledgement of a read. -/
theorem Guarded.of_sender (guarded : Guarded sender receiver) {other : Endpoint} (sends : other.sends = sender.sends)
    (next : other.mrNextHandle = sender.mrNextHandle) (regions : other.mrList = sender.mrList)
    (closed : other.closed = sender.closed) (acks : ∀ handle ∈ other.acks, receiver.HasRead handle) :
    Guarded other receiver := by
  refine ⟨?_, ?_, ?_, ?_, ?_, acks, guarded.fetched, guarded.sound⟩
  · rw [sends, next]
    exact guarded.numbered
  · rw [sends]
    exact guarded.apart
  · rw [sends, regions, closed]
    exact guarded.kept
  · rw [sends]
    exact guarded.unsent
  · rw [sends]
    exact guarded.sent

theorem Endpoint.publish_frame (e : Endpoint) (send : Nat) :
    (e.publish send).transmit = e.transmit ∧ (e.publish send).fetched = e.fetched := by
  unfold Endpoint.publish
  split
  · exact ⟨rfl, rfl⟩
  · split <;> exact ⟨rfl, rfl⟩

theorem Endpoint.discard_frame (e : Endpoint) (send handle : Nat) :
    (e.discard send handle).transmit = e.transmit ∧ (e.discard send handle).fetched = e.fetched := by
  unfold Endpoint.discard
  split
  · split <;> exact ⟨rfl, rfl⟩
  · exact ⟨rfl, rfl⟩

theorem Endpoint.transmitStep_frame (e peer : Endpoint) (action : Action) :
    (e.transmitStep peer action).sends = e.sends ∧ (e.transmitStep peer action).mrNextHandle = e.mrNextHandle ∧
      (e.transmitStep peer action).mrList = e.mrList ∧ (e.transmitStep peer action).closed = e.closed ∧
      (e.transmitStep peer action).acks = e.acks := by
  unfold Endpoint.transmitStep
  dsimp only
  split
  · split <;> exact ⟨rfl, rfl, rfl, rfl, rfl⟩
  · exact ⟨rfl, rfl, rfl, rfl, rfl⟩

theorem Guarded.shutdown (guarded : Guarded sender receiver) {other : Endpoint} (sends : other.sends = sender.sends)
    (next : other.mrNextHandle = sender.mrNextHandle) (closed : other.closed = true) (acks : other.acks = sender.acks) :
    Guarded other receiver := by
  refine ⟨?_, ?_, ?_, ?_, ?_, ?_, guarded.fetched, guarded.sound⟩
  · rw [sends, next]
    exact guarded.numbered
  · rw [sends]
    exact guarded.apart
  · intro up
    rw [closed] at up
    cases up
  · rw [sends]
    exact guarded.unsent
  · rw [sends]
    exact guarded.sent
  · rw [acks]
    exact guarded.acked

/-- What a step of a process keeps, for its own messages and for those of its peer. -/
theorem Guarded.act {e peer : Endpoint} (own : Guarded e peer) (others : Guarded peer e) {act : Act}
    (orderly : e.Orderly act) :
    Guarded (e.act peer act).1 (e.act peer act).2 ∧ Guarded (e.act peer act).2 (e.act peer act).1 := by
  have unread : ∀ handle ∈ e.fetched, handle ∈ e.fetched := fun _ member => member
  cases act with
  | compose => exact ⟨own.compose, others.of_receiver rfl unread⟩
  | publish send =>
    obtain ⟨transmit, fetched⟩ := e.publish_frame send
    exact ⟨own.publish send, others.of_receiver transmit (fetched ▸ unread)⟩
  | handOver send => exact ⟨own.handOver send, others.of_receiver rfl unread⟩
  | finish send rc => exact ⟨own.finish orderly, others.of_receiver rfl unread⟩
  | discard send handle =>
    obtain ⟨transmit, fetched⟩ := e.discard_frame send handle
    exact ⟨own.discard send handle, others.of_receiver transmit (fetched ▸ unread)⟩
  | deliver send => exact ⟨own.of_receiver rfl (fun _ member => member), others.delivered send⟩
  | transmit action =>
    obtain ⟨sends, next, regions, closed, acks⟩ := e.transmitStep_frame peer action
    exact ⟨own.of_sender sends next regions closed (acks ▸ own.acked), others.transmitStep orderly⟩
  | acknowledge handle taken =>
    unfold Endpoint.act
    dsimp only
    split
    · rename_i fetched
      have erased : Guarded peer { e with fetched := e.fetched.erase handle } :=
        others.of_receiver rfl (fun _ member => List.mem_of_mem_erase member)
      have moved : Guarded { e with fetched := e.fetched.erase handle } peer := own.of_sender rfl rfl rfl rfl own.acked
      cases taken with
      | false => exact ⟨moved, erased⟩
      | true =>
        refine ⟨moved.of_receiver rfl (fun _ member => member), erased.of_sender rfl rfl rfl rfl ?_⟩
        intro other member
        rcases List.mem_append.mp member with old | new
        · exact erased.acked other old
        · obtain rfl := List.mem_singleton.mp new
          exact others.fetched other fetched
    · exact ⟨own, others⟩
  | hear handle =>
    unfold Endpoint.act
    dsimp only
    split
    · rename_i heard
      have moved : Guarded { e with acks := e.acks.erase handle } peer :=
        own.of_sender rfl rfl rfl rfl (fun other member => own.acked other (List.mem_of_mem_erase member))
      exact ⟨moved.mrRelease (fun _ _ _ _ => own.acked handle heard), others.of_receiver rfl unread⟩
    · exact ⟨own, others⟩
  | shutdown =>
    refine ⟨own.shutdown rfl rfl rfl rfl, ?_⟩
    exact ⟨others.numbered, others.apart, others.kept, others.unsent, others.sent, others.acked, others.fetched,
      others.sound.shutdown⟩

end Steps

theorem Guarded.start : Guarded Endpoint.start Endpoint.start := by
  constructor <;> simp [Endpoint.start, Transmit.sound_start]

/-- Where a send that fails has not given its message to the transport and operations complete in
time, a region named by a delivered message stays registered until it is read. -/
theorem regions_outlive_readers (actions : List (Bool × Act))
    (orderly : exchange.Admits Exchange.Orderly ⟨.start, .start⟩ actions) :
    let reached := exchange.final ⟨.start, .start⟩ actions
    Outlives reached.near reached.far ∧ Outlives reached.far reached.near := by
  have run := exchange.run_invariant (fun e _ => Guarded e.near e.far ∧ Guarded e.far e.near)
    ⟨Guarded.start, Guarded.start⟩ ?_ orderly
  · exact ⟨run.1.outlives, run.2.outlives⟩
  · rintro e log ⟨side, act⟩ ⟨near, far⟩ allowed
    cases side with
    | true => exact near.act far allowed
    | false => exact (far.act near allowed).symm

instance (e : Endpoint) (act : Act) : Decidable (e.Orderly act) := by
  cases act with
  | finish send rc => exact inferInstanceAs (Decidable (rc ≠ .ok → ∀ s ∈ e.sends[send]?, s.taken = false))
  | transmit action => exact inferInstanceAs (Decidable (Timely e.transmit action))
  | compose | publish | handOver | discard | deliver | acknowledge | hear | shutdown => exact .isTrue trivial

instance (e : Exchange) (step : Bool × Act) : Decidable (e.Orderly step) :=
  match step with
  | (true, act) => inferInstanceAs (Decidable (e.near.Orderly act))
  | (false, act) => inferInstanceAs (Decidable (e.far.Orderly act))

/-- The near process sends a message with one region. -/
def oneMessage : List (Bool × Act) := [(true, .compose), (true, .publish 0), (true, .handOver 0)]

/-- The far process reads the region and acknowledges it. -/
theorem regions_outlive_readers_fetch :
    let reached := exchange.final ⟨.start, .start⟩ (oneMessage ++ [(true, .finish 0 .ok), (false, .deliver 0),
      (false, .transmit (.begin 3 (.rmaRead 1 true 8))), (false, .transmit (.issue .accepted)),
      (false, .transmit (.complete 0 true 0)), (false, .transmit (.wait .entry)), (false, .acknowledge 1 true),
      (true, .hear 1)])
    reached.near.mrList = [] ∧ Outlives reached.near reached.far ∧ Outlives reached.far reached.near := by
  refine ⟨by decide +kernel, ?_⟩
  exact regions_outlive_readers _ (by decide +kernel)

/-- The send of the message times out and its region is discarded, and then it is delivered. -/
theorem region_gone_before_read :
    let reached := exchange.final ⟨.start, .start⟩ (oneMessage ++ [(true, .finish 0 .timeout), (true, .discard 0 1),
      (false, .deliver 0)])
    reached.near.sends = [⟨[1], true, true, some .timeout⟩] ∧ reached.near.mrList = [] ∧
      reached.far.transmit.filled = [] ∧ ¬Outlives reached.near reached.far := by
  intro reached
  have sends : reached.near.sends = [⟨[1], true, true, some .timeout⟩] := by decide +kernel
  have regions : reached.near.mrList = [] := by decide +kernel
  have filled : reached.far.transmit.filled = [] := by decide +kernel
  refine ⟨sends, regions, filled, ?_⟩
  intro outlives
  have member : ⟨[1], true, true, some .timeout⟩ ∈ reached.near.sends := by simp [sends]
  rcases outlives (by decide +kernel) _ member rfl 1 List.mem_cons_self with registered | ⟨operation, read, _⟩
  · rw [regions] at registered
    cases registered
  · rw [filled] at read
    cases read

end DEFw.Fabric
