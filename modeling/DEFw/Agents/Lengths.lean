import DEFw.Agents.Messages
import DEFw.Transport.Write

namespace DEFw.Agents
open Transport (Uuid MsgType Header Writes WriteResult checkHeader populateMsgHdr headerSize)

/-- The `int` parameter that a length goes through. -/
def asInt (length : Nat) : BitVec 32 := BitVec.ofNat 32 length

/-- The `size_t` counter that an `int` is assigned to. -/
def asSize (int : BitVec 32) : Nat := (int.signExtend 64).toNat

theorem asSize_asInt (length : Nat) : asSize (asInt length) =
    if length % 2 ^ 32 < 2 ^ 31 then length % 2 ^ 32 else length % 2 ^ 32 + (2 ^ 64 - 2 ^ 32) := by
  have bound : length % 2 ^ 32 < 2 ^ 32 := Nat.mod_lt _ (by decide)
  have widened : length % 2 ^ 32 % 2 ^ 64 = length % 2 ^ 32 := Nat.mod_eq_of_lt (by omega)
  rw [asSize, asInt, BitVec.toNat_signExtend, BitVec.toNat_setWidth, BitVec.toNat_ofNat, widened, BitVec.msb_eq_decide,
    BitVec.toNat_ofNat]
  by_cases small : length % 2 ^ 32 < 2 ^ 31
  · rw [if_pos small, if_neg (by simpa using small)]
    rfl
  · rw [if_neg small, if_pos (by simpa using small)]

theorem asSize_asInt_of_lt {length : Nat} (short : length < 2 ^ 31) : asSize (asInt length) = length := by
  have same : length % 2 ^ 32 = length := Nat.mod_eq_of_lt (by omega)
  rw [asSize_asInt, same, if_pos short]

/-- An `int` that is negative becomes larger than the number it was. -/
theorem lt_asSize_asInt (length : Nat) (long : 2 ^ 31 ≤ length % 2 ^ 32) : 2 ^ 63 < asSize (asInt length) := by
  rw [asSize_asInt, if_neg (by omega)]
  omega

/-- What a `read` on the socket comes back with. No byte means the end of the stream. -/
inductive ReadResult
  | got (bytes : List UInt8)
  | interrupted
  | again
  | failed
  deriving DecidableEq

/-- A call of `read`: where it writes to in the buffer, and the count it is given. -/
structure ReadCall where
  offset : Nat
  count : Nat
  deriving DecidableEq

/-- Whether the descriptor can be asked for its data, and the results of the reads. -/
structure Reads where
  available : Bool
  results : List ReadResult
  deriving DecidableEq

/-- The loop of `readTcpMessage`: the bytes read, and its calls of `read`. After the results
given, nothing more arrives in time. -/
def readLoop (left offset : Nat) : List ReadResult → Except Trouble (List UInt8) × List ReadCall
  | [] => if left = 0 then (.ok [], []) else (.error .timeout, [⟨offset, left⟩])
  | result :: results =>
    if left = 0 then (.ok [], [])
    else
      match result with
      | .got [] => (.error .socketFail, [⟨offset, left⟩])
      | .got (byte :: more) =>
        let bytes := (byte :: more).take left
        let later := readLoop (left - bytes.length) (offset + bytes.length) results
        (later.1.map (bytes ++ ·), ⟨offset, left⟩ :: later.2)
      | .interrupted =>
        let later := readLoop left offset results
        (later.1, ⟨offset, left⟩ :: later.2)
      | .again => (.error .timeout, [⟨offset, left⟩])
      | .failed => (.error .socketFail, [⟨offset, left⟩])

def readTcpMessage (iBufferSize : BitVec 32) (reads : Reads) : Except Trouble (List UInt8) × List ReadCall :=
  if reads.available then readLoop (asSize iBufferSize) 0 reads.results else (.error .clientClosed, [])

/-- What `process_agent_message` gets from a connection, the size of the buffer it allocated
for the body, and its reads into that buffer. -/
structure Reception where
  outcome : Except DefwRc Message
  buffer : Nat
  calls : List ReadCall

/-- The buffer for the body and the reads into it. `memory` says whether `calloc` finds it. -/
def readBody (header : Header) (memory : Bool) (bodyReads : Reads) (handlerRc : DefwRc) : Reception :=
  if memory then
    match readTcpMessage (asInt header.len) bodyReads with
    | (.error trouble, calls) => ⟨.error trouble.rc, header.len, calls⟩
    | (.ok body, calls) => ⟨.ok ⟨header, body, handlerRc⟩, header.len, calls⟩
  else ⟨.error .oom, 0, []⟩

/-- The part of `process_agent_message` before the handler, read by read. -/
def receive (remote : Uuid) (hdrReads : Reads) (memory : Bool) (bodyReads : Reads) (handlerRc : DefwRc) : Reception :=
  match (readTcpMessage (asInt headerSize) hdrReads).1 with
  | .error trouble => ⟨.error trouble.rc, 0, []⟩
  | .ok hdr =>
    match checkHeader remote hdr with
    | .error rc => ⟨.error (.ofTransport rc), 0, []⟩
    | .ok header => readBody header memory bodyReads handlerRc

/-- No read may write beyond the buffer, and what is handed over is as long as declared. -/
def Reception.Honours (reception : Reception) : Prop :=
  (∀ call ∈ reception.calls, call.offset + call.count ≤ reception.buffer) ∧
    ∀ message, reception.outcome = .ok message →
      message.body.length = message.header.len ∧ message.header.len ≤ reception.buffer

/-- The frame passes the checks of its header and its body is asked for. -/
def Admits (remote : Uuid) (hdrReads : Reads) (memory : Bool) (bodyReads : Reads) (header : Header) : Prop :=
  ∃ hdr, (readTcpMessage (asInt headerSize) hdrReads).1 = .ok hdr ∧ checkHeader remote hdr = .ok header ∧
    memory = true ∧ bodyReads.available = true

/-- What `process_agent_message` makes of the reads is what it makes of the frame or of the trouble. -/
theorem receive_admitted (remote : Uuid) (hdrReads : Reads) (memory : Bool) (bodyReads : Reads) (handlerRc : DefwRc) :
    ∃ incoming : Incoming, incoming.admitted remote = (receive remote hdrReads memory bodyReads handlerRc).outcome := by
  unfold receive
  cases (readTcpMessage (asInt headerSize) hdrReads).1 with
  | error trouble => exact ⟨.noHeader trouble, rfl⟩
  | ok hdr =>
    cases checked : checkHeader remote hdr with
    | error rc => exact ⟨.frame hdr [] handlerRc, by simp [Incoming.admitted, checked]⟩
    | ok header =>
      cases memory with
      | false => exact ⟨.noBody hdr .oom, by simp [Incoming.admitted, checked, Trouble.rc, readBody]⟩
      | true =>
        rcases read : readTcpMessage (asInt header.len) bodyReads with ⟨got, calls⟩
        cases got with
        | error trouble => exact ⟨.noBody hdr trouble, by simp [Incoming.admitted, checked, readBody, read]⟩
        | ok body => exact ⟨.frame hdr body handlerRc, by simp [Incoming.admitted, checked, readBody, read]⟩

/-- The loop asks for what is left, and ends well with exactly what it was called for. -/
theorem readLoop_honours (left offset : Nat) (results : List ReadResult) :
    (∀ call ∈ (readLoop left offset results).2, call.offset + call.count = offset + left) ∧
      ∀ body, (readLoop left offset results).1 = .ok body → body.length = left := by
  induction results generalizing left offset with
  | nil =>
    unfold readLoop
    split
    next done => exact ⟨by simp, by simp [done]⟩
    next => exact ⟨by simp, by simp⟩
  | cons result results ih =>
    unfold readLoop
    split
    next done => exact ⟨by simp, by simp [done]⟩
    next more =>
      match result with
      | .got [] => exact ⟨by simp, by simp⟩
      | .got (byte :: rest) =>
        have few : ((byte :: rest).take left).length ≤ left := by simp
        obtain ⟨calls, bodies⟩ := ih (left - ((byte :: rest).take left).length) (offset + ((byte :: rest).take left).length)
        refine ⟨fun call member => ?_, fun body read => ?_⟩
        · rcases List.mem_cons.mp member with rfl | member
          · rfl
          · have sum := calls call member
            omega
        · simp only [] at read
          generalize (readLoop (left - ((byte :: rest).take left).length)
            (offset + ((byte :: rest).take left).length) results).1 = tail at bodies read
          cases tail with
          | error trouble => exact absurd read (by simp [Except.map])
          | ok tail =>
            simp only [Except.map, Except.ok.injEq] at read
            have length := bodies tail rfl
            rw [← read, List.length_append]
            omega
      | .interrupted =>
        obtain ⟨calls, bodies⟩ := ih left offset
        refine ⟨fun call member => ?_, bodies⟩
        rcases List.mem_cons.mp member with rfl | member
        · rfl
        · exact calls call member
      | .again => exact ⟨by simp, by simp⟩
      | .failed => exact ⟨by simp, by simp⟩

theorem readLoop_first (left offset : Nat) (more : left ≠ 0) (results : List ReadResult) :
    ⟨offset, left⟩ ∈ (readLoop left offset results).2 := by
  cases results with
  | nil => simp [readLoop, more]
  | cons result results =>
    unfold readLoop
    rw [if_neg more]
    match result with
    | .got [] => simp
    | .got (_ :: _) => simp
    | .interrupted => simp
    | .again => simp
    | .failed => simp

theorem checkHeader_len_lt {remote : Uuid} {hdr : List UInt8} {header : Header} (checked : checkHeader remote hdr = .ok header) :
    header.len < 2 ^ 32 := by
  have digits := BigEndian.value_lt ((hdr.drop 4).take 4)
  have few : ((hdr.drop 4).take 4).length ≤ 4 := by simp
  have bound : 256 ^ ((hdr.drop 4).take 4).length ≤ 256 ^ 4 := Nat.pow_le_pow_right (by decide) few
  simp only [checkHeader] at checked
  split at checked
  · exact absurd checked (by simp)
  · split at checked
    · exact absurd checked (by simp)
    · split at checked
      · exact absurd checked (by simp)
      · cases checked
        simp only []
        omega

theorem readBody_honours_iff {header : Header} (bound : header.len < 2 ^ 32) (memory : Bool) (bodyReads : Reads)
    (handlerRc : DefwRc) : (readBody header memory bodyReads handlerRc).Honours ↔
      (memory = true → bodyReads.available = true → header.len < 2 ^ 31) := by
  cases memory with
  | false => exact iff_of_true ⟨by simp [readBody], by simp [readBody]⟩ (by simp)
  | true =>
    cases available : bodyReads.available with
    | false => exact iff_of_true ⟨by simp [readBody, readTcpMessage, available], by simp [readBody, readTcpMessage, available]⟩ (by simp)
    | true =>
      obtain ⟨calls, bodies⟩ := readLoop_honours (asSize (asInt header.len)) 0 bodyReads.results
      have first := fun more => readLoop_first (asSize (asInt header.len)) 0 more bodyReads.results
      simp only [readBody, readTcpMessage, available, if_true, forall_const]
      generalize readLoop (asSize (asInt header.len)) 0 bodyReads.results = loop at calls bodies first ⊢
      obtain ⟨got, made⟩ := loop
      constructor
      · -- the first read is already given the wrong count
        intro honours
        by_contra long
        have huge := lt_asSize_asInt header.len (by rw [Nat.mod_eq_of_lt bound]; omega)
        have inside : 0 + asSize (asInt header.len) ≤ header.len := by
          cases got with
          | error trouble => exact honours.1 _ (first (by omega))
          | ok bytes => exact honours.1 _ (first (by omega))
        omega
      · intro short
        rw [asSize_asInt_of_lt short] at calls bodies
        have within : ∀ call ∈ made, call.offset + call.count ≤ header.len := by
          intro call member
          have sum := calls call member
          omega
        cases got with
        | error trouble => exact ⟨within, by simp⟩
        | ok bytes =>
          refine ⟨within, ?_⟩
          intro message handed
          cases handed
          exact ⟨bodies bytes rfl, Nat.le_refl _⟩

/-- A declared length is honoured exactly if it is no negative `int`, or the frame is rejected before its body is read. -/
theorem receive_honours_iff (remote : Uuid) (hdrReads : Reads) (memory : Bool) (bodyReads : Reads) (handlerRc : DefwRc) :
    (receive remote hdrReads memory bodyReads handlerRc).Honours ↔
      ∀ header, Admits remote hdrReads memory bodyReads header → header.len < 2 ^ 31 := by
  unfold receive
  cases read : (readTcpMessage (asInt headerSize) hdrReads).1 with
  | error trouble =>
    refine iff_of_true ⟨by simp, by simp⟩ ?_
    rintro header ⟨hdr, readHdr, -⟩
    simp [read] at readHdr
  | ok hdr =>
    cases checked : checkHeader remote hdr with
    | error rc =>
      refine iff_of_true ⟨by simp [checked], by simp [checked]⟩ ?_
      rintro header ⟨hdr', readHdr, checked', -⟩
      cases read.symm.trans readHdr
      simp [checked] at checked'
    | ok header =>
      simp only [checked]
      rw [readBody_honours_iff (checkHeader_len_lt checked)]
      constructor
      · rintro short other ⟨hdr', readHdr, checked', memory, available⟩
        cases read.symm.trans readHdr
        cases checked.symm.trans checked'
        exact short memory available
      · exact fun all memory available => all header ⟨hdr, read, checked, memory, available⟩

/-- The bytes at `msg`: the message that was passed, and how much of what lies behind it can be
read as well. -/
structure MsgBuffer where
  size : Nat
  mapped : Nat
  sized : size ≤ mapped
  bounded : mapped < 2 ^ 63

/-- The loop of `sendTcpMessage` over memory of which `mapped` bytes can be read: the code and the
number of bytes written. -/
def sendLoop (left mapped : Nat) : List WriteResult → Transport.Rc × Nat
  | [] => if left ≤ mapped then (.ok, left) else (.sysErr, mapped)
  | result :: results =>
    if left = 0 then (.ok, 0)
    else
      match result with
      | .accepted count =>
        if mapped = 0 then (.sysErr, 0)
        else
          let written := min count (min left mapped)
          let later := sendLoop (left - written) (mapped - written) results
          (later.1, written + later.2)
      | .interrupted => sendLoop left mapped results
      | .failed => (.sysErr, 0)

/-- A call of `defw_send_msg`: its code, the length in the header it wrote, and the number of bytes
of the body that it wrote. -/
structure SendOutcome where
  rc : Transport.Rc
  declared : Nat
  written : Nat
  deriving DecidableEq

def defwSendMsg (uuid : Uuid) (type : MsgType) (msg : MsgBuffer) (writes : Writes) : SendOutcome :=
  let hdr := populateMsgHdr uuid type msg.size
  let header := Transport.sendTcpMessage hdr writes.header
  let declared := BigEndian.value ((header.2.drop 4).take 4)
  if header.1 ≠ .ok then ⟨header.1, declared, 0⟩
  else if msg.size ≠ 0 then
    let body := sendLoop (asSize (asInt msg.size)) msg.mapped writes.body
    ⟨body.1, declared, body.2⟩
  else ⟨header.1, declared, 0⟩

def SendOutcome.Honours (outcome : SendOutcome) (size : Nat) : Prop :=
  outcome.rc = .ok → outcome.declared = size ∧ outcome.written = size

/-- On a message that lies in the memory whole, the loop does what it does on its bytes. -/
theorem sendLoop_eq (bytes : List UInt8) {mapped : Nat} (sized : bytes.length ≤ mapped) (results : List WriteResult) :
    sendLoop bytes.length mapped results =
      ((Transport.sendTcpMessage bytes results).1, (Transport.sendTcpMessage bytes results).2.length) := by
  induction results generalizing bytes mapped with
  | nil => simp [sendLoop, Transport.sendTcpMessage, sized]
  | cons result results ih =>
    by_cases empty : bytes = []
    · simp [sendLoop, Transport.sendTcpMessage, empty]
    · have positive := List.length_pos_iff.mpr empty
      have more : bytes.length ≠ 0 := by omega
      cases result with
      | accepted count =>
        have left : (bytes.drop count).length = bytes.length - min count bytes.length := by
          rw [List.length_drop]
          omega
        have rest : (bytes.drop count).length ≤ mapped - min count bytes.length := by omega
        have later := ih (bytes.drop count) rest
        rw [left] at later
        have memory : mapped ≠ 0 := by omega
        simp only [sendLoop, if_neg more, if_neg memory, Nat.min_eq_left sized, later, Transport.sendTcpMessage,
          if_neg empty, Transport.writeOnce, List.length_append, List.length_take]
      | interrupted =>
        have later := ih bytes sized
        simp only [sendLoop, if_neg more, later, Transport.sendTcpMessage, if_neg empty, Transport.writeOnce,
          List.nil_append]
      | failed => simp [sendLoop, more, Transport.sendTcpMessage, empty, Transport.writeOnce]

/-- A message whose size is an `int` is sent as the model of its bytes sends it. -/
theorem defwSendMsg_eq (uuid : Uuid) (message : Transport.Message) {msg : MsgBuffer} (size : msg.size = message.body.length)
    (writes : Writes) :
    (defwSendMsg uuid message.type msg writes).rc = (Transport.defwSendMsg uuid message writes).1 ∧
      (Transport.defwSendMsg uuid message writes).2.length =
        (Transport.sendTcpMessage (message.header uuid) writes.header).2.length +
          (defwSendMsg uuid message.type msg writes).written := by
  have sized : message.body.length ≤ msg.mapped := size ▸ msg.sized
  have loop := sendLoop_eq message.body sized writes.body
  simp only [defwSendMsg, Transport.defwSendMsg, Transport.Message.header, size, asSize_asInt_of_lt message.short, loop]
  by_cases failed : (Transport.sendTcpMessage (populateMsgHdr uuid message.type message.body.length) writes.header).1 ≠ .ok
  · simp [failed]
  · by_cases body : message.body.length ≠ 0
    · simp [failed, body]
    · simp [failed, body]

/-- The loop ends well only when it has written all that it was called for. -/
theorem sendLoop_ok {left mapped : Nat} {results : List WriteResult} (ok : (sendLoop left mapped results).1 = .ok) :
    (sendLoop left mapped results).2 = left ∧ left ≤ mapped := by
  induction results generalizing left mapped with
  | nil =>
    simp only [sendLoop] at ok ⊢
    split at ok
    next inside => exact ⟨by rw [if_pos inside], inside⟩
    next => exact absurd ok (by simp)
  | cons result results ih =>
    unfold sendLoop at ok ⊢
    split at ok
    next done => exact ⟨by simp [done], by omega⟩
    next more =>
      rw [if_neg more]
      cases result with
      | accepted count =>
        simp only [] at ok ⊢
        split at ok
        · exact absurd ok (by simp)
        next memory =>
          obtain ⟨written, inside⟩ := ih ok
          rw [if_neg memory]
          simp only [written]
          omega
      | interrupted => exact ih ok
      | failed => exact absurd ok (by simp)

theorem declared_eq (uuid : Uuid) (type : MsgType) (size : Nat) :
    BigEndian.value (((populateMsgHdr uuid type size).drop 4).take 4) = size % 2 ^ 32 := by
  have afterType : (populateMsgHdr uuid type size).drop 4 =
      BigEndian.bytes 4 size ++ (uuid.bytes ++ BigEndian.bytes 4 Transport.versionNumber) := by
    simp only [populateMsgHdr, List.append_assoc]
    exact List.drop_left' (BigEndian.length_bytes 4 type.code)
  rw [afterType, List.take_left' (BigEndian.length_bytes 4 size), BigEndian.value_bytes]
  rfl

/-- The length and the number of bytes of a message that was sent, exactly if the size is not cut
off at 32 bits, or what is left of it is a negative `int`, and the send never ends. -/
theorem defwSendMsg_honours_iff (msg : MsgBuffer) :
    (∀ uuid type writes, (defwSendMsg uuid type msg writes).Honours msg.size) ↔
      msg.size < 2 ^ 32 ∨ 2 ^ 31 ≤ msg.size % 2 ^ 32 := by
  have sized := msg.sized
  have bounded := msg.bounded
  constructor
  · intro honours
    by_contra cut
    have small : msg.size % 2 ^ 32 < 2 ^ 31 := by omega
    have header : Transport.sendTcpMessage (populateMsgHdr (.filled 0) .hb msg.size) [] =
        (.ok, populateMsgHdr (.filled 0) .hb msg.size) := rfl
    have sent := honours (.filled 0) .hb ⟨[], []⟩
    have counter : asSize (asInt msg.size) = msg.size % 2 ^ 32 := by rw [asSize_asInt, if_pos small]
    have fits : msg.size % 2 ^ 32 ≤ msg.mapped := by omega
    simp only [SendOutcome.Honours, defwSendMsg, header, ne_eq, not_true_eq_false, if_false, counter, sendLoop, if_pos fits,
      declared_eq] at sent
    rw [if_pos (by omega)] at sent
    have same : msg.size % 2 ^ 32 = msg.size := (sent rfl).1
    omega
  · intro whole uuid type writes ok
    have header := Transport.sendTcpMessage_outcome (populateMsgHdr uuid type msg.size) writes.header
    simp only [defwSendMsg] at ok ⊢
    by_cases sentHeader : (Transport.sendTcpMessage (populateMsgHdr uuid type msg.size) writes.header).1 = .ok
    · have wroteHeader : (Transport.sendTcpMessage (populateMsgHdr uuid type msg.size) writes.header).2 =
          populateMsgHdr uuid type msg.size := by
        rw [header.written, header.ok_iff.mp sentHeader, List.take_length]
      simp only [sentHeader, ne_eq, not_true_eq_false, if_false, wroteHeader, declared_eq] at ok ⊢
      by_cases empty : msg.size = 0
      · simp [empty]
      · rw [if_pos empty] at ok ⊢
        obtain ⟨written, inside⟩ := sendLoop_ok ok
        have short : msg.size % 2 ^ 32 < 2 ^ 31 := by
          by_contra long
          have huge := lt_asSize_asInt msg.size (by omega)
          omega
        have same : msg.size % 2 ^ 32 = msg.size := by omega
        rw [asSize_asInt_of_lt (by omega)] at written ⊢
        exact ⟨same, written⟩
    · rw [if_pos sentHeader] at ok
      exact absurd ok sentHeader

/-- The size that a message declares, as the sender writes it and as the receiver reads it. -/
theorem lengths_honoured_iff (remote : Uuid) (hdrReads : Reads) (memory : Bool) (bodyReads : Reads) (handlerRc : DefwRc)
    (msg : MsgBuffer) :
    ((receive remote hdrReads memory bodyReads handlerRc).Honours ↔
      ∀ header, Admits remote hdrReads memory bodyReads header → header.len < 2 ^ 31) ∧
    ((∀ uuid type writes, (defwSendMsg uuid type msg writes).Honours msg.size) ↔
      msg.size < 2 ^ 32 ∨ 2 ^ 31 ≤ msg.size % 2 ^ 32) :=
  ⟨receive_honours_iff remote hdrReads memory bodyReads handlerRc, defwSendMsg_honours_iff msg⟩

/-- A header that declares two gigabytes, in the bytes of one read. -/
def longHeader : Reads := ⟨true, [.got (populateMsgHdr (.filled 1) .pyRequest (2 ^ 31))]⟩

/-- A message of four gigabytes and a byte. -/
def longMsg : MsgBuffer := ⟨2 ^ 32 + 1, 2 ^ 32 + 1, Nat.le_refl _, by decide⟩

theorem lengths_dishonoured :
    ⟨0, 2 ^ 64 - 2 ^ 31⟩ ∈ (receive (.filled 1) longHeader true ⟨true, []⟩ .ok).calls ∧
      (receive (.filled 1) longHeader true ⟨true, []⟩ .ok).buffer = 2 ^ 31 ∧
      ¬ (receive (.filled 1) longHeader true ⟨true, []⟩ .ok).Honours ∧
      defwSendMsg (.filled 1) .pyRequest longMsg ⟨[], []⟩ = ⟨.ok, 1, 1⟩ := by
  have calls : (receive (.filled 1) longHeader true ⟨true, []⟩ .ok).calls = [⟨0, 2 ^ 64 - 2 ^ 31⟩] := by decide +kernel
  have buffer : (receive (.filled 1) longHeader true ⟨true, []⟩ .ok).buffer = 2 ^ 31 := by decide +kernel
  refine ⟨by simp [calls], buffer, fun honours => ?_, by decide +kernel⟩
  have inside := honours.1 ⟨0, 2 ^ 64 - 2 ^ 31⟩ (by simp [calls])
  rw [buffer] at inside
  exact absurd inside (by decide)

end DEFw.Agents
