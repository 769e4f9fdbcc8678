import DEFw.Agents.Block
import DEFw.Lib.BigEndian

namespace DEFw.Agents
open Transport (Uuid)

/-- `defw_msg_session_t`, the body of session information and of a heartbeat. -/
structure Session where
  uuid : Uuid
  nodeType : NodeType
  pid : Nat
  rpcSetup : Bool
  listenPort : Nat
  nodeName : List UInt8
  nodeHostname : List UInt8
  deriving DecidableEq

namespace Session

def word (body : List UInt8) (offset : Nat) : Nat := BigEndian.value ((body.drop offset).take 4)

/-- `strncpy` with `MAX_STR_LEN`, terminated. -/
def text (body : List UInt8) (offset : Nat) : List UInt8 :=
  ((body.drop offset).take 1023).takeWhile (fun byte => byte != 0)

/-- The two uuids of `agent_id`, four integers in network order and two names.
What a short body lacks is read as zeros. -/
def read (body : List UInt8) : Session where
  uuid := Uuid.read body
  nodeType := NodeType.ofCode (word body 32)
  pid := word body 36
  rpcSetup := word body 40 != 0
  listenPort := word body 44
  nodeName := text body 48
  nodeHostname := text body 1072

/-- `strncpy` to a field of `MAX_STR_LEN` bytes of zeros, terminated. -/
def padded (text : List UInt8) : List UInt8 := text.take 1023 ++ List.replicate (1024 - (text.take 1023).length) 0

/-- The body that `defw_send_session_info` sends without an OFI address.
`defw_send_hb` sends the same with zeros for `rpc_setup` and `listen_port`. -/
def write (ses : Session) : List UInt8 :=
  ses.uuid.bytes ++ (List.replicate 16 0 ++ (BigEndian.bytes 4 ses.nodeType.code ++ (BigEndian.bytes 4 ses.pid ++
    (BigEndian.bytes 4 (if ses.rpcSetup then 1 else 0) ++ (BigEndian.bytes 4 ses.listenPort ++
      (padded ses.nodeName ++ (padded ses.nodeHostname ++ List.replicate 260 0)))))))

/-- The session information of a process that may connect. -/
def isValid (ses : Session) : Bool :=
  ses.nodeType = .agent ∨ ses.nodeType = .service ∨ ses.nodeType = .dirsvc

/-- The session of a service without names. -/
def plain (uuid : Uuid) (rpcSetup : Bool) : Session where
  uuid := uuid
  nodeType := .service
  pid := 7
  rpcSetup := rpcSetup
  listenPort := 8090
  nodeName := []
  nodeHostname := []

/-- A session whose fields fit in the message. -/
structure Fits (ses : Session) : Prop where
  nodeType : ses.nodeType = NodeType.ofCode ses.nodeType.code ∧ ses.nodeType.code < 256 ^ 4
  pid : ses.pid < 256 ^ 4
  listenPort : ses.listenPort < 256 ^ 4
  nodeName : ses.nodeName.length ≤ 1023 ∧ 0 ∉ ses.nodeName
  nodeHostname : ses.nodeHostname.length ≤ 1023 ∧ 0 ∉ ses.nodeHostname

theorem length_padded (text : List UInt8) : (padded text).length = 1024 := by
  simp [padded]

theorem takeWhile_padded {text : List UInt8} (short : text.length ≤ 1023) (solid : 0 ∉ text) :
    ((padded text).take 1023).takeWhile (fun byte => byte != 0) = text := by
  have whole : text.take 1023 = text := List.take_of_length_le short
  have padding : (padded text).take 1023 = text ++ List.replicate (1023 - text.length) 0 := by
    rw [padded, whole, List.take_append, whole, List.take_replicate]
    congr 2
    omega
  have kept : ∀ byte ∈ text, (byte != 0) = true := by
    intro byte member
    refine bne_iff_ne.mpr fun zero => ?_
    rw [zero] at member
    exact solid member
  rw [padding, List.takeWhile_append_of_pos kept]
  cases 1023 - text.length <;> simp [List.replicate_succ]

theorem word_of_drop {body rest : List UInt8} {offset n : Nat} (fits : n < 256 ^ 4)
    (field : body.drop offset = BigEndian.bytes 4 n ++ rest) : word body offset = n := by
  rw [word, field, List.take_left' (BigEndian.length_bytes 4 n), BigEndian.value_bytes_of_lt fits]

theorem text_of_drop {body rest string : List UInt8} {offset : Nat} (short : string.length ≤ 1023) (solid : 0 ∉ string)
    (field : body.drop offset = padded string ++ rest) : text body offset = string := by
  rw [text, field, List.take_append_of_le_length (by rw [length_padded]; omega), takeWhile_padded short solid]

theorem length_write (ses : Session) : ses.write.length = 2356 := by
  simp only [write, List.length_append, ses.uuid.size, length_padded, BigEndian.length_bytes, List.length_replicate]

/-- The fields behind a field of a message. -/
theorem drop_field {body field rest : List UInt8} {offset width : Nat} (front : body.drop offset = field ++ rest)
    (size : field.length = width) : body.drop (offset + width) = rest := by
  rw [← List.drop_drop, front, List.drop_left' size]

/-- What is sent as session information is what `process_msg_session_info` reads. -/
theorem read_write {ses : Session} (fits : ses.Fits) : read ses.write = ses := by
  have front : ses.write.drop 0 = ses.uuid.bytes ++ _ := rfl
  have blk := drop_field front ses.uuid.size
  have nodeType := drop_field blk (List.length_replicate)
  have pid := drop_field nodeType (BigEndian.length_bytes 4 _)
  have rpcSetup := drop_field pid (BigEndian.length_bytes 4 _)
  have listenPort := drop_field rpcSetup (BigEndian.length_bytes 4 _)
  have nodeName := drop_field listenPort (BigEndian.length_bytes 4 _)
  have nodeHostname := drop_field nodeName (length_padded _)
  have setup : word ses.write 40 = if ses.rpcSetup then 1 else 0 := by
    refine word_of_drop ?_ rpcSetup
    split <;> decide
  have uuid : Uuid.read ses.write = ses.uuid := Uuid.read_append ses.uuid _
  have flag : ((if ses.rpcSetup then 1 else 0) != 0) = ses.rpcSetup := by
    cases ses.rpcSetup <;> rfl
  simp only [read, word_of_drop fits.nodeType.2 nodeType, word_of_drop fits.pid pid, setup,
    word_of_drop fits.listenPort listenPort, text_of_drop fits.nodeName.1 fits.nodeName.2 nodeName,
    text_of_drop fits.nodeHostname.1 fits.nodeHostname.2 nodeHostname, ← fits.nodeType.1,
    uuid, flag]

end Session

end DEFw.Agents
