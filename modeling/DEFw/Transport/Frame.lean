import DEFw.Lib.BigEndian

namespace DEFw.Transport

/-- `uuid_t`. -/
structure Uuid where
  bytes : List UInt8
  size : bytes.length = 16
  deriving DecidableEq

namespace Uuid

def isNull (uuid : Uuid) : Bool :=
  uuid.bytes.all (fun byte => byte == 0)

/-- The uuid of one byte throughout. That of zero bytes is null. -/
def filled (byte : UInt8) : Uuid := ⟨List.replicate 16 byte, List.length_replicate⟩

/-- `uuid_copy` out of a buffer. -/
def read (buffer : List UInt8) : Uuid where
  bytes := (buffer ++ List.replicate 16 0).take 16
  size := by simp

theorem read_append (uuid : Uuid) (rest : List UInt8) : read (uuid.bytes ++ rest) = uuid := by
  obtain ⟨bytes, size⟩ := uuid
  simp [read, ← size]

end Uuid

/-- `defw_msg_type_t`. -/
inductive MsgType
  | hb
  | sessionInfo
  | pyRequest
  | pyResponse
  | pyEvent
  | rmaAck
  deriving DecidableEq

namespace MsgType

def code : MsgType → Nat
  | hb => 0
  | sessionInfo => 1
  | pyRequest => 2
  | pyResponse => 3
  | pyEvent => 4
  | rmaAck => 5

/-- The type with a code below `EN_MSG_TYPE_MAX`. -/
def ofCode : Nat → Option MsgType
  | 0 => some hb
  | 1 => some sessionInfo
  | 2 => some pyRequest
  | 3 => some pyResponse
  | 4 => some pyEvent
  | 5 => some rmaAck
  | _ => none

theorem ofCode_code (type : MsgType) : ofCode type.code = some type := by
  cases type <;> rfl

theorem code_lt (type : MsgType) : type.code < 256 ^ 4 := by
  cases type <;> decide

end MsgType

/-- The codes of `defw_rc_t` that the transport returns. -/
inductive Rc
  | ok
  | fail
  | sysErr
  | badVersion
  | socketFail
  | rpcFail
  | badAddr
  | unknownMessage
  deriving DecidableEq

/-- A message as it is given to `tcp_send`. The size passes through an `int`. -/
structure Message where
  type : MsgType
  body : List UInt8
  short : body.length < 2 ^ 31
  deriving DecidableEq

/-- What `process_agent_message` hands over. -/
structure Frame where
  type : MsgType
  sender : Uuid
  body : List UInt8
  deriving DecidableEq

/-- `defw_message_hdr_t` in host order. -/
structure Header where
  type : MsgType
  len : Nat
  sender : Uuid
  deriving DecidableEq

/-- `DEFW_VERSION_NUMBER`. -/
def versionNumber : Nat := 4

/-- `sizeof(defw_message_hdr_t)`. -/
def headerSize : Nat := 28

def populateMsgHdr (uuid : Uuid) (msgType : MsgType) (msgSize : Nat) : List UInt8 :=
  BigEndian.bytes 4 msgType.code ++ BigEndian.bytes 4 msgSize ++ uuid.bytes ++ BigEndian.bytes 4 versionNumber

/-- The checks of `process_agent_message` on the header bytes. `remote` is
`agent->id.remote_uuid`. -/
def checkHeader (remote : Uuid) (hdr : List UInt8) : Except Rc Header :=
  let sender := Uuid.read (hdr.drop 8)
  if BigEndian.value (hdr.drop 24) ≠ versionNumber then .error .badVersion
  else if !remote.isNull && remote ≠ sender then .error .badAddr
  else
    match MsgType.ofCode (BigEndian.value (hdr.take 4)) with
    | none => .error .unknownMessage
    | some type => .ok ⟨type, BigEndian.value ((hdr.drop 4).take 4), sender⟩

/-- The record of the peer lets a sender through: it is unset or the sender's. -/
def Trusts (sender remote : Uuid) : Prop := remote.isNull = true ∨ remote = sender

theorem length_populateMsgHdr (uuid : Uuid) (type : MsgType) (size : Nat) :
    (populateMsgHdr uuid type size).length = headerSize := by
  simp [populateMsgHdr, uuid.size, headerSize]

theorem checkHeader_populateMsgHdr {uuid remote : Uuid} (trusts : Trusts uuid remote) (type : MsgType) {size : Nat}
    (short : size < 2 ^ 31) :
    checkHeader remote (populateMsgHdr uuid type size) = .ok ⟨type, size, uuid⟩ := by
  have typeBytes := BigEndian.length_bytes 4 type.code
  have sizeBytes := BigEndian.length_bytes 4 size
  have version : (populateMsgHdr uuid type size).drop 24 = BigEndian.bytes 4 versionNumber := by
    rw [populateMsgHdr]
    exact List.drop_left' (by simp [uuid.size])
  have front : (populateMsgHdr uuid type size).take 4 = BigEndian.bytes 4 type.code := by
    simp only [populateMsgHdr, List.append_assoc]
    exact List.take_left' typeBytes
  have afterType : (populateMsgHdr uuid type size).drop 4 =
      BigEndian.bytes 4 size ++ (uuid.bytes ++ BigEndian.bytes 4 versionNumber) := by
    simp only [populateMsgHdr, List.append_assoc]
    exact List.drop_left' typeBytes
  have afterSize : (populateMsgHdr uuid type size).drop 8 = uuid.bytes ++ BigEndian.bytes 4 versionNumber := by
    rw [populateMsgHdr, List.append_assoc]
    exact List.drop_left' (by simp)
  have accepted : (!remote.isNull && decide (remote ≠ uuid)) = false := by
    rcases trusts with null | same
    · simp [null]
    · simp [same]
  have fits : size < 256 ^ 4 := by omega
  simp only [checkHeader, version, front, afterType, afterSize, Uuid.read_append, List.take_left' sizeBytes,
    BigEndian.value_bytes_of_lt (type.code_lt), BigEndian.value_bytes_of_lt fits, MsgType.ofCode_code]
  rw [if_neg (by rw [BigEndian.value_bytes_of_lt (by decide)]; simp), if_neg (by simpa using accepted)]

namespace Message

def frame (message : Message) (sender : Uuid) : Frame := ⟨message.type, sender, message.body⟩

/-- The header that `defw_send_msg` writes first. -/
def header (message : Message) (sender : Uuid) : List UInt8 :=
  populateMsgHdr sender message.type message.body.length

def bytes (message : Message) (sender : Uuid) : List UInt8 :=
  message.header sender ++ message.body

@[simp] theorem length_header (message : Message) (sender : Uuid) : (message.header sender).length = headerSize :=
  length_populateMsgHdr sender message.type message.body.length

theorem length_bytes (message : Message) (sender : Uuid) :
    (message.bytes sender).length = headerSize + message.body.length := by
  simp [bytes]

end Message

end DEFw.Transport
