import DEFw.Lib.Machine
import DEFw.Transport.Receive
import DEFw.Transport.Write

namespace DEFw.Transport

/-- The sending process: its uuid and the session information it sends on a
new RPC channel, which carries that uuid. -/
structure Node where
  uuid : Uuid
  session : Message
  named : session.Names uuid

/-- The fields of `defw_agent_blk_t` that `defw_send` goes by. -/
structure Agent where
  iRpcFd : Option Nat
  rpcConnected : Bool

/-- The agent, unless it has been dropped, and the number of the next
connection. -/
structure Link where
  agent : Option Agent
  nextFd : Nat

/-- A call of `defw_send_req` or `defw_send_rsp`, whether a connection can be
established for it, and how the socket takes what is written. -/
structure Call where
  isRequest : Bool
  yaml : List UInt8
  short : yaml.length + 1 < 2 ^ 31
  connects : Bool
  sessionWrites : Writes
  writes : Writes

/-- The message of a call, with the terminating NUL of its text. -/
def Call.message (call : Call) : Message where
  type := if call.isRequest then .pyRequest else .pyResponse
  body := call.yaml ++ [0]
  short := by
    rw [List.length_append, List.length_singleton]
    exact call.short

/-- A message that went to the socket of a connection: the code its send
returned and the bytes that were written. -/
structure Sent where
  fd : Nat
  message : Message
  rc : Rc
  bytes : List UInt8

def sentOn (node : Node) (fd : Nat) (message : Message) (writes : Writes) : Sent where
  fd := fd
  message := message
  rc := (defwSendMsg node.uuid message writes).1
  bytes := (defwSendMsg node.uuid message writes).2

/-- `tcp_send` on the RPC channel. -/
def tcpSend (node : Node) (agent : Agent) (message : Message) (writes : Writes) : Rc × List Sent :=
  match agent.iRpcFd with
  | none => (.fail, [])
  | some fd => ((sentOn node fd message writes).rc, [sentOn node fd message writes])

/-- `defw_release_agent_blk` as `defw_send` calls it: only a socket failure
drops the agent and its connections. -/
def Link.release (link : Link) (rc : Rc) : Link :=
  if rc = .socketFail then { link with agent := none } else link

/-- The code `defw_send` returns, the agent after it and what went to a socket. -/
def defwSend (node : Node) (link : Link) (call : Call) : Rc × Link × List Sent :=
  match link.agent with
  | none => (.rpcFail, link, [])
  | some agent =>
    if agent.rpcConnected then
      let (rc, sent) := tcpSend node agent call.message call.writes
      (rc, link.release rc, sent)
    else if !call.connects then (.rpcFail, { link with agent := some ⟨none, false⟩ }, [])
    else
      let agent : Agent := ⟨some link.nextFd, false⟩
      let (rc, session) := tcpSend node agent node.session call.sessionWrites
      if rc ≠ .ok then (rc, Link.release ⟨some agent, link.nextFd + 1⟩ rc, session)
      else
        let agent := { agent with rpcConnected := true }
        let (rc, sent) := tcpSend node agent call.message call.writes
        (rc, Link.release ⟨some agent, link.nextFd + 1⟩ rc, session ++ sent)

/-- Calls one after the other, with a log of what went to the sockets. -/
def sends (node : Node) : Machine Link Call Sent where
  step link call := (defwSend node link call).2

/-- An agent whose RPC channel is connected, or one without. -/
def Link.start : Bool → Link
  | true => ⟨some ⟨some 0, true⟩, 1⟩
  | false => ⟨some ⟨none, false⟩, 0⟩

/-- The bytes of one connection. -/
def streamOf (fd : Nat) (log : List Sent) : List UInt8 :=
  (log.filter (fun sent => sent.fd = fd)).flatMap Sent.bytes

/-- A frame of which a part only was written. -/
def Sent.Cut (node : Node) (sent : Sent) : Prop :=
  sent.bytes ≠ [] ∧ sent.bytes.length < (sent.message.bytes node.uuid).length

section Sends

variable {node : Node}

theorem sentOn_outcome (node : Node) (fd : Nat) (message : Message) (writes : Writes) :
    Outcome (message.bytes node.uuid) (writes.taken message.body.length)
      ((sentOn node fd message writes).rc, (sentOn node fd message writes).bytes) :=
  defwSendMsg_outcome node.uuid message writes

/-- No code that a send returns drops the agent. -/
theorem release_sentOn (link : Link) (fd : Nat) (message : Message) (writes : Writes) :
    link.release (sentOn node fd message writes).rc = link := by
  have kept : (sentOn node fd message writes).rc ≠ .socketFail := by
    intro dropped
    have failure := (sentOn_outcome node fd message writes).failure (by rw [dropped]; simp)
    rw [dropped] at failure
    cases failure
  exact if_neg kept

/-- What an agent with a connected channel sends goes to that connection,
whatever became of the sends before. -/
theorem log_connected (fd nextFd : Nat) (calls : List Call) :
    (sends node).log ⟨some ⟨some fd, true⟩, nextFd⟩ calls =
      calls.map (fun call => sentOn node fd call.message call.writes) := by
  induction calls with
  | nil => rfl
  | cons call rest ih =>
    have step : (sends node).step ⟨some ⟨some fd, true⟩, nextFd⟩ call =
        (⟨some ⟨some fd, true⟩, nextFd⟩, [sentOn node fd call.message call.writes]) := by
      simp only [sends, defwSend, tcpSend, if_true, release_sentOn]
    rw [Machine.log, step, ih]
    rfl

/-- The call establishes the channel: the connection and its session
information come through. -/
def Call.establishes (node : Node) (call : Call) : Bool :=
  call.connects && call.sessionWrites.taken node.session.body.length == headerSize + node.session.body.length

/-- The calls that send on the connected channel. -/
def established (node : Node) (connected : Bool) (calls : List Call) : List Call :=
  if connected then calls else calls.dropWhile (fun call => !call.establishes node)

theorem Call.establishes_iff (node : Node) (call : Call) (fd : Nat) (connects : call.connects = true) :
    call.establishes node = true ↔ (sentOn node fd node.session call.sessionWrites).rc = .ok := by
  rw [(sentOn_outcome node fd node.session call.sessionWrites).ok_iff, Message.length_bytes]
  simp [establishes, connects]

/-- What goes to the connection on which the channel is established. -/
def opened (node : Node) (fd : Nat) : List Call → List Sent
  | [] => []
  | call :: rest => sentOn node fd node.session call.sessionWrites ::
      (call :: rest).map (fun call => sentOn node fd call.message call.writes)

/-- Session information that fails has a connection of its own. -/
theorem log_unconnected (node : Node) (iRpcFd : Option Nat) (nextFd : Nat) (calls : List Call) :
    ∃ tried fd, (sends node).log ⟨some ⟨iRpcFd, false⟩, nextFd⟩ calls =
        tried ++ opened node fd (established node false calls) ∧
      tried.Pairwise (fun earlier later => earlier.fd ≠ later.fd) ∧
      (∀ sent ∈ tried, nextFd ≤ sent.fd ∧ sent.fd < fd) ∧ nextFd ≤ fd := by
  induction calls generalizing iRpcFd nextFd with
  | nil => exact ⟨[], nextFd, rfl, .nil, by simp, Nat.le_refl nextFd⟩
  | cons call rest ih =>
    by_cases connects : call.connects = true
    · have iff := call.establishes_iff node nextFd connects
      by_cases ok : (sentOn node nextFd node.session call.sessionWrites).rc = .ok
      · have step : (sends node).step ⟨some ⟨iRpcFd, false⟩, nextFd⟩ call =
            (⟨some ⟨some nextFd, true⟩, nextFd + 1⟩,
              [sentOn node nextFd node.session call.sessionWrites, sentOn node nextFd call.message call.writes]) := by
          simp [sends, defwSend, tcpSend, connects, ok, release_sentOn]
        refine ⟨[], nextFd, ?_, .nil, by simp, Nat.le_refl nextFd⟩
        rw [Machine.log, step, log_connected]
        simp [established, iff.mpr ok, opened]
      · have step : (sends node).step ⟨some ⟨iRpcFd, false⟩, nextFd⟩ call =
            (⟨some ⟨some nextFd, false⟩, nextFd + 1⟩, [sentOn node nextFd node.session call.sessionWrites]) := by
          simp [sends, defwSend, tcpSend, connects, ok, release_sentOn]
        have skipped : established node false (call :: rest) = established node false rest := by
          have fails : call.establishes node = false := by
            rw [← Bool.not_eq_true, iff]
            exact ok
          simp [established, fails]
        obtain ⟨tried, fd, log, distinct, bounds, later⟩ := ih (some nextFd) (nextFd + 1)
        refine ⟨sentOn node nextFd node.session call.sessionWrites :: tried, fd, ?_, ?_, ?_, by omega⟩
        · rw [Machine.log, step, log, skipped]
          rfl
        · refine List.pairwise_cons.mpr ⟨fun sent member => ?_, distinct⟩
          have above := (bounds sent member).1
          change nextFd ≠ sent.fd
          omega
        · intro sent member
          rcases List.mem_cons.mp member with rfl | member
          · change nextFd ≤ nextFd ∧ nextFd < fd
            omega
          · have inside := bounds sent member
            omega
    · have step : (sends node).step ⟨some ⟨iRpcFd, false⟩, nextFd⟩ call = (⟨some ⟨none, false⟩, nextFd⟩, []) := by
        simp [sends, defwSend, connects]
      have skipped : established node false (call :: rest) = established node false rest := by
        simp [established, Call.establishes, connects]
      rw [Machine.log, step, skipped]
      exact ih none nextFd

end Sends

end DEFw.Transport
