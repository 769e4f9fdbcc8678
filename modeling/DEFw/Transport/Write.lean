import DEFw.Transport.Frame

namespace DEFw.Transport

/-- What a `write` on the socket comes back with: a number of bytes taken,
`EINTR`, or another error. -/
inductive WriteResult
  | accepted (count : Nat)
  | interrupted
  | failed
  deriving DecidableEq

/-- One round of the loop of `sendTcpMessage` over the bytes left: those
written and those left after it. `none` leaves the loop with an error. -/
def writeOnce (left : List UInt8) : WriteResult → Option (List UInt8 × List UInt8)
  | .accepted count => some (left.take count, left.drop count)
  | .interrupted => some ([], left)
  | .failed => none

theorem writeOnce_append {left written rest : List UInt8} {result : WriteResult}
    (wrote : writeOnce left result = some (written, rest)) : written ++ rest = left := by
  cases result with
  | accepted count =>
    simp only [writeOnce, Option.some.injEq, Prod.mk.injEq] at wrote
    obtain ⟨rfl, rfl⟩ := wrote
    exact List.take_append_drop count left
  | interrupted =>
    simp only [writeOnce, Option.some.injEq, Prod.mk.injEq] at wrote
    obtain ⟨rfl, rfl⟩ := wrote
    rfl
  | failed => cases wrote

/-- `sendTcpMessage` when its writes come back with these results and, once
they are used up, take all that is left: the code and the bytes written. -/
def sendTcpMessage : List UInt8 → List WriteResult → Rc × List UInt8
  | left, [] => (.ok, left)
  | left, result :: results =>
    if left = [] then (.ok, [])
    else
      match writeOnce left result with
      | none => (.sysErr, [])
      | some (written, rest) => ((sendTcpMessage rest results).1, written ++ (sendTcpMessage rest results).2)

/-- How many of the bytes offered to it the socket takes. -/
def taken : Nat → List WriteResult → Nat
  | left, [] => left
  | left, .accepted count :: results => min count left + taken (left - count) results
  | left, .interrupted :: results => taken left results
  | _, .failed :: _ => 0

theorem taken_le (left : Nat) (results : List WriteResult) : taken left results ≤ left := by
  induction results generalizing left with
  | nil => exact Nat.le_refl left
  | cons result results ih =>
    cases result with
    | accepted count =>
      have later := ih (left - count)
      simp only [taken]
      omega
    | interrupted => exact ih left
    | failed => exact Nat.zero_le left

/-- What a send did: the bytes written are a beginning of those it was given,
and the code tells whether they are all of them. -/
structure Outcome (given : List UInt8) (count : Nat) (outcome : Rc × List UInt8) : Prop where
  written : outcome.2 = given.take count
  ok_iff : outcome.1 = .ok ↔ count = given.length
  failure : outcome.1 ≠ .ok → outcome.1 = .sysErr

theorem sendTcpMessage_outcome (left : List UInt8) (results : List WriteResult) :
    Outcome left (taken left.length results) (sendTcpMessage left results) := by
  induction results generalizing left with
  | nil => exact ⟨List.take_length.symm, by simp [sendTcpMessage, taken], fun failed => absurd rfl failed⟩
  | cons result results ih =>
    by_cases finished : left = []
    · subst finished
      have nothing : taken 0 (result :: results) = 0 := Nat.le_zero.mp (taken_le 0 _)
      exact ⟨by simp [sendTcpMessage], by simp [sendTcpMessage, nothing], by simp [sendTcpMessage]⟩
    · cases result with
      | accepted count =>
        obtain ⟨written, code, failure⟩ := ih (left.drop count)
        have bound := taken_le (left.length - count) results
        rw [List.length_drop] at written code
        simp only [sendTcpMessage, if_neg finished, writeOnce, taken]
        refine ⟨?_, code.trans ⟨by omega, by omega⟩, failure⟩
        dsimp only
        rw [written, ← List.take_add]
        by_cases inside : count ≤ left.length
        · rw [Nat.min_eq_left inside]
        · rw [List.take_of_length_le (by omega), List.take_of_length_le (by omega)]
      | interrupted =>
        simp only [sendTcpMessage, if_neg finished, writeOnce, taken]
        exact ih left
      | failed =>
        have positive := List.length_pos_iff.mpr finished
        simp only [sendTcpMessage, if_neg finished, writeOnce, taken]
        refine ⟨rfl, ⟨fun ok => ?_, fun none => ?_⟩, fun _ => rfl⟩
        · cases ok
        · omega

/-- The results of the writes of one message. -/
structure Writes where
  header : List WriteResult
  body : List WriteResult
  deriving DecidableEq

/-- How much of a message with a body of this size the socket takes. -/
def Writes.taken (writes : Writes) (size : Nat) : Nat :=
  if Transport.taken headerSize writes.header < headerSize then Transport.taken headerSize writes.header
  else headerSize + Transport.taken size writes.body

def defwSendMsg (uuid : Uuid) (message : Message) (writes : Writes) : Rc × List UInt8 :=
  let header := sendTcpMessage (message.header uuid) writes.header
  if header.1 ≠ .ok then header
  else if message.body.length ≠ 0 then
    let body := sendTcpMessage message.body writes.body
    (body.1, header.2 ++ body.2)
  else header

theorem defwSendMsg_outcome (uuid : Uuid) (message : Message) (writes : Writes) :
    Outcome (message.bytes uuid) (writes.taken message.body.length) (defwSendMsg uuid message writes) := by
  have header := sendTcpMessage_outcome (message.header uuid) writes.header
  have body := sendTcpMessage_outcome message.body writes.body
  have bound := taken_le message.body.length writes.body
  have headerBound := taken_le headerSize writes.header
  have size := message.length_bytes uuid
  rw [Message.length_header] at header
  by_cases cut : Transport.taken headerSize writes.header < headerSize
  · have failed : (sendTcpMessage (message.header uuid) writes.header).1 ≠ .ok := by
      rw [Ne, header.ok_iff, Message.length_header]
      omega
    simp only [defwSendMsg, if_pos failed, Writes.taken, if_pos cut]
    refine ⟨?_, ⟨fun ok => absurd ok failed, fun whole => by omega⟩, header.failure⟩
    rw [header.written, Message.bytes, List.take_append_of_le_length (by rw [Message.length_header]; omega)]
  · have whole : Transport.taken headerSize writes.header = headerSize := by omega
    have sent : (sendTcpMessage (message.header uuid) writes.header).1 = .ok := by
      rw [header.ok_iff, Message.length_header, whole]
    have written : (sendTcpMessage (message.header uuid) writes.header).2 = message.header uuid := by
      rw [header.written, whole, List.take_of_length_le (by rw [Message.length_header])]
    simp only [defwSendMsg, sent, ne_eq, not_true_eq_false, if_false, Writes.taken, if_neg cut, written]
    have both : (message.bytes uuid).take (headerSize + Transport.taken message.body.length writes.body) =
        message.header uuid ++ message.body.take (Transport.taken message.body.length writes.body) := by
      rw [← message.length_header uuid, Message.bytes, List.take_length_add_append]
    by_cases empty : message.body.length = 0
    · rw [if_neg (not_not_intro empty)]
      refine ⟨?_, ⟨fun _ => by omega, fun _ => sent⟩, header.failure⟩
      rw [both, written, List.length_eq_zero_iff.mp empty, List.take_nil, List.append_nil]
    · rw [if_pos empty]
      refine ⟨?_, body.ok_iff.trans ⟨by omega, by omega⟩, body.failure⟩
      rw [both, ← body.written]

end DEFw.Transport
