import DEFw.Agents.Introductions
import DEFw.Agents.Ofi

namespace DEFw.Agents
open Transport (Uuid)

/-- The process that connects, and the process that it connects to. -/
inductive Side
  | caller
  | callee
  deriving DecidableEq

def Side.other : Side → Side
  | caller => callee
  | callee => caller

/-- How the block of the connection is directed. -/
def Side.direction : Side → Direction
  | caller => .outbound
  | callee => .inbound

/-- Two processes of which one connects to the other: what each writes about itself, its OFI
address while OFI is active, the outcomes of the connecting thread, and for each of the two
connections the descriptor and the address that `accept` returns. -/
structure Encounter where
  self : Side → Session
  ofi : Side → Option Nat
  dial : Dial
  req : ConnectReq
  accepted : Channel → Nat
  addr : Channel → Addr
  known : ∀ side, (self side).uuid.isNull = false
  lines : ∀ channel, accepted channel ≠ accepted channel.other
  addrs : ∀ channel, addr channel ≠ addr channel.other

namespace Encounter

variable (e : Encounter)

/-- The descriptor that a process has for a connection. -/
def line : Side → Channel → Option Nat
  | .caller, .control => e.dial.control
  | .caller, .rpc => e.dial.rpc
  | .callee, channel => some (e.accepted channel)

/-- The session information that the caller sends on a connection. -/
def hello (channel : Channel) : Letter :=
  .sessionInfo { e.self .caller with rpcSetup := decide (channel = .rpc) } (e.ofi .caller)

end Encounter

/-- Where `defw_connect_to_agent_thread` is: before it connects, with the control connection or
both, after it has inserted the block in the table, and at its end. -/
inductive Thread
  | idle
  | control (agent : OfiBlock)
  | both (agent : OfiBlock)
  | listed (id : Nat)
  | ended

namespace Thread

/-- The block that only the thread has. -/
def block : Thread → Option OfiBlock
  | control agent => some agent
  | both agent => some agent
  | _ => none

/-- The connections that the thread has yet to open. -/
def dials : Thread → Channel → Bool
  | idle, _ => true
  | control _, channel => decide (channel = .rpc)
  | _, _ => false

/-- The block is in the table, or there will be none. -/
def isPast : Thread → Bool
  | listed _ => true
  | ended => true
  | _ => false

end Thread

/-- The two processes with the letters that are on the way to each of them on the two
connections, and the connections that the callee has not accepted. -/
structure Pair where
  caller : Node
  callee : Node
  mail : Side → Channel → List Letter := fun _ _ => []
  thread : Thread := .idle
  backlog : List Channel := []

/-- A step of one of the two: the thread goes on, the callee accepts, a listener reads the next
letter of a connection or sends its periodic heartbeat, or one of its helpers finds a block dead,
or time passes. `inserts` is the outcome of `fi_av_insert`, and `sends` that of the heartbeat. -/
inductive Deed
  | dial
  | accept (channel : Channel)
  | hear (side : Side) (channel : Channel) (inserts sends : Bool)
  | beat (side : Side) (id : Nat) (sends : Bool)
  | drop (side : Side) (id : Nat)
  | tick (side : Side) (seconds : Nat)
  deriving DecidableEq

/-- No insertion of an address fails. -/
def Deed.Inserts : Deed → Prop
  | hear _ _ inserts _ => inserts = true
  | _ => True

instance (deed : Deed) : Decidable deed.Inserts := by
  cases deed <;> unfold Deed.Inserts <;> infer_instance

namespace Pair

def start (e : Encounter) : Pair where
  caller := { self := e.self .caller, ofi := e.ofi .caller }
  callee := { self := e.self .callee, ofi := e.ofi .callee }

def node (p : Pair) : Side → Node
  | .caller => p.caller
  | .callee => p.callee

def set (p : Pair) : Side → Node → Pair
  | .caller, n => { p with caller := n }
  | .callee, n => { p with callee := n }

/-- The letters that are left on a connection. -/
def stock (p : Pair) (side : Side) (channel : Channel) (letters : List Letter) : Pair :=
  { p with
    mail := fun other second => if other = side ∧ second = channel then letters else p.mail other second }

/-- A letter goes out to a process. -/
def deliver (p : Pair) (side : Side) (channel : Channel) (letter : Letter) : Pair :=
  p.stock side channel (p.mail side channel ++ [letter])

/-- A process sends a heartbeat on a descriptor. -/
def post (e : Encounter) (p : Pair) (side : Side) (sends : Bool) (fd : Option Nat) : Pair :=
  if !sends || fd.isNone then p
  else if fd = e.line side .control then p.deliver side.other .control (p.node side).sendHb
  else if fd = e.line side .rpc then p.deliver side.other .rpc (p.node side).sendHb
  else p

/-- The block of the thread once the control connection is up. -/
def dialled (e : Encounter) (p : Pair) (sinAddr fd : Nat) : OfiBlock :=
  { block := ((Block.dialling ⟨sinAddr, e.dial.port⟩ p.caller.clock e.dial e.req).plugControl (some fd)).controlUp }

/-- A connection that the caller has opened, with the session information if that goes out, and where the thread is then. -/
def opened (p : Pair) (channel : Channel) (session : DefwRc) (letter : Letter) (thread : Thread) : Pair :=
  if session = .ok then { p.deliver .callee channel letter with thread := thread, backlog := p.backlog ++ [channel] }
  else { p with thread := .ended, backlog := p.backlog ++ [channel] }

/-- The thread up to the session information on the control connection. -/
def dialControl (e : Encounter) (p : Pair) : Pair :=
  match e.dial.sinAddr, e.dial.allocates, e.dial.control with
  | some sinAddr, true, some fd =>
    p.opened .control e.dial.controlSession (p.caller.sendSessionInfo false) (.control (p.dialled e sinAddr fd))
  | _, _, _ => { p with thread := .ended }

/-- The thread up to the session information on the RPC connection. -/
def dialRpc (e : Encounter) (p : Pair) (agent : OfiBlock) : Pair :=
  match e.dial.rpc with
  | none => { p with thread := .ended }
  | some fd =>
    p.opened .rpc e.dial.rpcSession (p.caller.sendSessionInfo true)
      (.both { agent with block := (agent.block.plugRpc (some fd)).rpcUp e.dial })

/-- A step of `defw_connect_to_agent_thread`. -/
def dial (e : Encounter) (p : Pair) : Pair :=
  match p.thread with
  | .idle => p.dialControl e
  | .control agent => p.dialRpc e agent
  | .both agent => { p with caller := p.caller.link agent, thread := .listed p.caller.nextBlock }
  | .listed id => { p with caller := p.caller.announce id, thread := .ended }
  | .ended => p

/-- The listener of a process reads the next letter of a connection. -/
def hear (e : Encounter) (p : Pair) (side : Side) (channel : Channel) (inserts sends : Bool) : Except Fault Pair :=
  match p.mail side channel, (e.line side channel).bind (p.node side).reader with
  | letter :: rest, some (id, agent) => do
    let (n, sent) ← (p.node side).receive inserts id agent letter
    return ((p.stock side channel rest).set side n).post e side sends sent
  | _, _ => .ok p

def step (e : Encounter) (p : Pair) : Deed → Except Fault Pair
  | .dial => .ok (p.dial e)
  | .accept channel =>
    if channel ∈ p.backlog then
      .ok { p with
        callee := p.callee.accept (e.accepted channel) (e.addr channel)
        backlog := p.backlog.erase channel }
    else .ok p
  | .hear side channel inserts sends => p.hear e side channel inserts sends
  | .beat side id sends =>
    .ok ((p.set side ((p.node side).sendHbToAgents id sends).1).post e side sends
      ((p.node side).sendHbToAgents id sends).2)
  | .drop side id => .ok (p.set side ((p.node side).unlink id))
  | .tick side seconds => .ok (p.set side { p.node side with clock := (p.node side).clock + seconds })

/-- The two processes with the connections between them. -/
def machine (e : Encounter) : Faulting Pair Deed Fault := ⟨fun p deed => p.step e deed⟩

variable {e : Encounter} {p p' : Pair} {side : Side} {channel : Channel} {n : Node} {letter : Letter}

theorem mail_stock (letters : List Letter) (other : Side) (second : Channel) :
    (p.stock side channel letters).mail other second =
      if other = side ∧ second = channel then letters else p.mail other second := rfl

theorem mem_mail_deliver {other : Side} {second : Channel} {new : Letter}
    (member : letter ∈ (p.deliver side channel new).mail other second) :
    letter ∈ p.mail other second ∨ other = side ∧ second = channel ∧ letter = new := by
  rw [deliver, mail_stock] at member
  split at member
  next same =>
    obtain ⟨rfl, rfl⟩ := same
    rcases List.mem_append.mp member with earlier | last
    · exact .inl earlier
    · exact .inr ⟨rfl, rfl, List.mem_singleton.mp last⟩
  next => exact .inl member

/-- A heartbeat goes to the other process on one of the connections, or nowhere. -/
theorem post_cases (e : Encounter) (p : Pair) (side : Side) (sends : Bool) (fd : Option Nat) :
    p.post e side sends fd = p ∨ fd.isSome = true ∧ ∃ channel,
      p.post e side sends fd = p.deliver side.other channel (p.node side).sendHb := by
  unfold post
  split
  · exact .inl rfl
  next out =>
    have line : fd.isSome = true := by
      cases fd <;> simp at out ⊢
    split
    · exact .inr ⟨line, .control, rfl⟩
    · split
      · exact .inr ⟨line, .rpc, rfl⟩
      · exact .inl rfl

/-- A connection that is opened is in the backlog, with its letter unless the thread gives up. -/
theorem opened_cases (p : Pair) (channel : Channel) (session : DefwRc) (letter : Letter) (thread : Thread) :
    p.opened channel session letter thread =
        { p.deliver .callee channel letter with thread := thread, backlog := p.backlog ++ [channel] } ∨
      p.opened channel session letter thread = { p with thread := .ended, backlog := p.backlog ++ [channel] } := by
  unfold opened
  split
  · exact .inl rfl
  · exact .inr rfl

theorem hear_ok {inserts sends : Bool} (run : p.hear e side channel inserts sends = .ok p') : p' = p ∨
    ∃ letter rest fd id agent n sent, p.mail side channel = letter :: rest ∧ e.line side channel = some fd ∧
      (p.node side).reader fd = some (id, agent) ∧ (p.node side).Received inserts id agent letter n sent ∧
      p' = ((p.stock side channel rest).set side n).post e side sends sent := by
  unfold hear at run
  split at run
  next letter rest id agent mail found =>
    obtain ⟨⟨n, sent⟩, processed, returned⟩ := Except.bind_ok_iff.mp run
    obtain ⟨fd, line, reads⟩ := Option.bind_eq_some_iff.mp found
    cases returned
    exact .inr ⟨letter, rest, fd, id, agent, n, sent, mail, line, reads, Node.received processed, rfl⟩
  next => exact .inl (Except.ok.inj run).symm

end Pair

/-- A block that knows nothing of the fabric. -/
structure OfiBlock.Dark (agent : OfiBlock) : Prop where
  ofiAddr : agent.ofiAddr = none
  ofiReady : agent.ofiReady = false

namespace Node

variable {n n' : Node} {inserts : Bool} {id : Nat} {agent : OfiBlock} {letter : Letter} {sent : Option Nat}

/-- A message makes no block ready without OFI in the process or in its sender. -/
theorem Received.dark (received : n.Received inserts id agent letter n' sent) (found : n.table.get? id = some agent)
    (off : n.ofi = none ∨ letter.ofiAddr = none) (dark : ∀ block ∈ n.blocks, block.Dark) :
    n'.ofi = n.ofi ∧ ∀ block ∈ n'.blocks, block.Dark := by
  have here : ∀ id agent, n.table.get? id = some agent → agent.Dark := fun id agent found =>
    dark agent (mem_blocks.mpr (.inl ⟨id, found⟩))
  have never : ∀ ofiAddr, letter.ofiAddr = ofiAddr → (if n.ofi.isSome && inserts then ofiAddr else none) = none := by
    rintro ofiAddr rfl
    rcases off with down | remote
    · simp [down]
    · rw [remote, ite_self]
  cases received with
  | refused => exact ⟨ofi_unlink, fun block member => dark block (mem_blocks_unlink member)⟩
  | hb ses ofiAddr =>
    refine ⟨rfl, fun block member => ?_⟩
    rcases mem_blocks_put member with rfl | earlier
    · have unset : (n.processMsgHb inserts id agent ses ofiAddr).1.ofiAddr = none := by
        rw [ofiAddr_processMsgHb, (here id agent found).ofiAddr, never ofiAddr rfl, Option.or_none]
      refine ⟨unset, ?_⟩
      rw [ofiReady_processMsgHb, unset, (here id agent found).ofiReady]
      rfl
    · exact dark block earlier
  | merged ses ofiAddr existing known different there =>
    have old := here existing known (findAgent_some there).1
    refine ⟨ofi_unlink, fun block member => ?_⟩
    rcases mem_blocks_put (mem_blocks_unlink member) with rfl | earlier
    · refine ⟨?_, ofiReady_merged.trans old.ofiReady⟩
      rw [ofiAddr_merged, old.ofiAddr, never ofiAddr rfl, Option.or_none]
    · exact dark block earlier
  | identified ses ofiAddr absent =>
    refine ⟨rfl, fun block member => ?_⟩
    rcases mem_blocks_put member with rfl | earlier
    · refine ⟨?_, ofiReady_identified.trans (here id agent found).ofiReady⟩
      rw [ofiAddr_identified, (here id agent found).ofiAddr, never ofiAddr rfl, Option.or_none]
    · exact dark block earlier

end Node

namespace Pair

/-- No block knows of the fabric, and every letter has the address of its sender. -/
structure Dark (e : Encounter) (p : Pair) : Prop where
  ofi : ∀ side, (p.node side).ofi = e.ofi side
  blocks : ∀ side, ∀ agent ∈ (p.node side).blocks, agent.Dark
  held : ∀ agent ∈ p.thread.block, agent.Dark
  mail : ∀ side channel, ∀ letter ∈ p.mail side channel, letter.ofiAddr = e.ofi side.other

namespace Dark

variable {e : Encounter} {p p' : Pair} {side : Side} {channel : Channel} {n : Node} {letter : Letter}

theorem start (e : Encounter) : Dark e (Pair.start e) where
  ofi side := by cases side <;> rfl
  blocks side agent member := by cases side <;> cases member
  held agent member := by cases member
  mail side channel letter member := by cases member

theorem set (dark : Dark e p) (ofi : n.ofi = e.ofi side) (blocks : ∀ agent ∈ n.blocks, agent.Dark) :
    Dark e (p.set side n) := by
  cases side with
  | caller =>
    refine ⟨fun side => ?_, fun side => ?_, dark.held, dark.mail⟩
    · cases side with
      | caller => exact ofi
      | callee => exact dark.ofi .callee
    · cases side with
      | caller => exact blocks
      | callee => exact dark.blocks .callee
  | callee =>
    refine ⟨fun side => ?_, fun side => ?_, dark.held, dark.mail⟩
    · cases side with
      | caller => exact dark.ofi .caller
      | callee => exact ofi
    · cases side with
      | caller => exact dark.blocks .caller
      | callee => exact blocks

theorem deliver (dark : Dark e p) (own : letter.ofiAddr = e.ofi side.other) : Dark e (p.deliver side channel letter) where
  ofi := dark.ofi
  blocks := dark.blocks
  held := dark.held
  mail other second new member := by
    rcases mem_mail_deliver member with earlier | ⟨rfl, rfl, rfl⟩
    · exact dark.mail other second new earlier
    · exact own

theorem post (dark : Dark e p) (sends : Bool) (fd : Option Nat) : Dark e (p.post e side sends fd) := by
  rcases post_cases e p side sends fd with same | ⟨_, channel, same⟩
  · rwa [same]
  · rw [same]
    refine dark.deliver ((dark.ofi side).trans ?_)
    cases side <;> rfl

theorem hear (dark : Dark e p) (off : ∃ side, e.ofi side = none) {inserts sends : Bool}
    (run : p.hear e side channel inserts sends = .ok p') : Dark e p' := by
  rcases hear_ok run with rfl | ⟨letter, rest, fd, id, agent, n, sent, mail, line, reads, received, rfl⟩
  · exact dark
  have own : letter.ofiAddr = e.ofi side.other := dark.mail side channel letter (by rw [mail]; exact List.mem_cons_self)
  have blind : (p.node side).ofi = none ∨ letter.ofiAddr = none := by
    rw [dark.ofi, own]
    obtain ⟨other, none⟩ := off
    cases side <;> cases other <;> simp [Side.other, none]
  obtain ⟨ofi, blocks⟩ := received.dark (Node.reader_some reads).1 blind (dark.blocks side)
  have left : Dark e (p.stock side channel rest) := by
    refine ⟨dark.ofi, dark.blocks, dark.held, fun other second new member => ?_⟩
    rw [mail_stock] at member
    split at member
    next same =>
      obtain ⟨rfl, rfl⟩ := same
      exact dark.mail other second new (by rw [mail]; exact List.mem_cons_of_mem _ member)
    next => exact dark.mail other second new member
  exact (left.set (ofi.trans (dark.ofi side)) blocks).post sends sent

theorem put (dark : Dark e p) {id : Nat} {agent : OfiBlock} (edited : agent.Dark) :
    Dark e (p.set side ((p.node side).put id agent)) := by
  refine dark.set (dark.ofi side) fun block member => ?_
  rcases Node.mem_blocks_put member with rfl | earlier
  · exact edited
  · exact dark.blocks side block earlier

theorem unlink (dark : Dark e p) (id : Nat) : Dark e (p.set side ((p.node side).unlink id)) :=
  dark.set (Node.ofi_unlink.trans (dark.ofi side)) fun block member => dark.blocks side block (Node.mem_blocks_unlink member)

theorem found (dark : Dark e p) {id : Nat} {agent : OfiBlock} (found : (p.node side).table.get? id = some agent) :
    agent.Dark :=
  dark.blocks side agent (Node.mem_blocks.mpr (.inl ⟨id, found⟩))

theorem beat (dark : Dark e p) (id : Nat) (sends : Bool) :
    Dark e (p.set side ((p.node side).sendHbToAgents id sends).1) := by
  rcases (p.node side).sendHbToAgents_cases id sends with same | ⟨agent, found, _, _, same⟩
  · rw [same]
    exact dark.set (dark.ofi side) (dark.blocks side)
  · rcases same with same | same
    · rw [same]
      exact dark.unlink id
    · rw [same]
      exact dark.put ⟨(dark.found found).ofiAddr, (dark.found found).ofiReady⟩

theorem opened (dark : Dark e p) {session : DefwRc} {thread : Thread} (own : letter.ofiAddr = e.ofi .caller)
    (held : ∀ agent ∈ thread.block, agent.Dark) : Dark e (p.opened channel session letter thread) := by
  have sent : Dark e (p.deliver .callee channel letter) := dark.deliver own
  rcases opened_cases p channel session letter thread with same | same
  · rw [same]
    exact ⟨sent.ofi, sent.blocks, held, sent.mail⟩
  · rw [same]
    exact ⟨dark.ofi, dark.blocks, fun agent member => (by cases member), dark.mail⟩

theorem dial (dark : Dark e p) : Dark e (p.dial e) := by
  have gaveUp : Dark e { p with thread := .ended } := ⟨dark.ofi, dark.blocks, fun agent member => (by cases member), dark.mail⟩
  unfold Pair.dial
  split
  · unfold dialControl
    split
    · refine dark.opened (dark.ofi .caller) fun agent member => ?_
      cases member
      exact ⟨rfl, rfl⟩
    · exact gaveUp
  next agent held =>
    have own := dark.held agent (by rw [held]; rfl)
    unfold dialRpc
    split
    · exact gaveUp
    · refine dark.opened (dark.ofi .caller) fun agent member => ?_
      cases member
      exact ⟨own.ofiAddr, own.ofiReady⟩
  next agent held =>
    have own := dark.held agent (by rw [held]; rfl)
    have linked : Dark e (p.set .caller (p.caller.link agent)) := by
      refine dark.set (dark.ofi .caller) fun block member => ?_
      rcases Node.mem_blocks_link member with rfl | earlier
      · exact own
      · exact dark.blocks .caller block earlier
    exact ⟨linked.ofi, linked.blocks, fun agent member => (by cases member), linked.mail⟩
  next id held =>
    have announced : Dark e (p.set .caller (p.caller.announce id)) := by
      rcases p.caller.announce_cases id with same | ⟨agent, found, same⟩
      · rw [same]
        exact dark.set (dark.ofi .caller) (dark.blocks .caller)
      · have old := dark.blocks .caller agent (Node.mem_blocks.mpr (.inl ⟨id, found⟩))
        rw [same]
        exact dark.put ⟨old.ofiAddr, old.ofiReady⟩
    exact ⟨announced.ofi, announced.blocks, fun agent member => (by cases member), announced.mail⟩
  · exact dark

theorem accept (dark : Dark e p) (fd : Nat) (addr : Addr) : Dark e (p.set .callee (p.callee.accept fd addr)) := by
  rcases p.callee.accept_cases fd addr with ⟨_, same⟩ | ⟨id, agent, found, _, same⟩
  · rw [same]
    refine dark.set (dark.ofi .callee) fun block member => ?_
    rcases Node.mem_blocks_link member with rfl | earlier
    · exact ⟨rfl, rfl⟩
    · exact dark.blocks .callee block earlier
  · rw [same]
    have old := dark.blocks .callee agent (Node.mem_blocks.mpr (.inl ⟨id, found⟩))
    exact dark.put ⟨old.ofiAddr, old.ofiReady⟩

theorem step (dark : Dark e p) (off : ∃ side, e.ofi side = none) {deed : Deed} (run : p.step e deed = .ok p') :
    Dark e p' := by
  cases deed with
  | dial =>
    cases run
    exact dark.dial
  | accept channel =>
    simp only [Pair.step] at run
    split at run
    · cases run
      have accepted := dark.accept (e.accepted channel) (e.addr channel)
      exact ⟨accepted.ofi, accepted.blocks, accepted.held, accepted.mail⟩
    · cases run
      exact dark
  | hear side channel inserts sends => exact dark.hear off run
  | beat side id sends =>
    cases run
    exact (dark.beat id sends).post sends _
  | drop side id =>
    cases run
    exact dark.unlink id
  | tick side seconds =>
    cases run
    exact dark.set (dark.ofi side) (dark.blocks side)

end Dark

end Pair

end DEFw.Agents
