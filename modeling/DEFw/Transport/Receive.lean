import DEFw.Transport.Frame

namespace DEFw.Transport

/-- The table of message handlers, as to the one thing the next header check
reads: what they leave in `agent->id.remote_uuid`. -/
abbrev Handlers := MsgType → Uuid → List UInt8 → Uuid

/-- A call of `process_agent_message` gives a frame to its handler or returns
the code of a failed check. -/
abbrev Received := Except Rc Frame

/-- A handler that leaves the record open to the sender. -/
def Handlers.Keeps (handlers : Handlers) (sender : Uuid) (message : Message) : Prop :=
  ∀ remote, Trusts sender remote → Trusts sender (handlers message.type remote message.body)

/-- What the handlers of the source leave there, when they return. Heartbeat
and session information begin with a uuid; the latter has the node type after
the two uuids of `agent_id`. -/
def msgProcessTbl : Handlers
  | .hb, remote, msg => if remote.isNull then Uuid.read msg else remote
  | .sessionInfo, remote, msg =>
    if BigEndian.value ((msg.drop 32).take 4) ∈ [1, 2, 3] then Uuid.read msg else remote
  | _, remote, _ => remote

/-- A message whose handler copies a uuid carries the sender's. -/
def Message.Names (message : Message) (sender : Uuid) : Prop :=
  message.type = .hb ∨ message.type = .sessionInfo → ∃ rest, message.body = sender.bytes ++ rest

theorem msgProcessTbl_keeps {sender : Uuid} {message : Message} (names : message.Names sender) :
    msgProcessTbl.Keeps sender message := by
  intro remote trusts
  obtain ⟨type, body, short⟩ := message
  cases type with
  | hb =>
    obtain ⟨rest, rfl⟩ := names (.inl rfl)
    simp only [msgProcessTbl, Uuid.read_append]
    split
    · exact .inr rfl
    · exact trusts
  | sessionInfo =>
    obtain ⟨rest, rfl⟩ := names (.inr rfl)
    simp only [msgProcessTbl, Uuid.read_append]
    split
    · exact .inr rfl
    · exact trusts
  | pyRequest => exact trusts
  | pyResponse => exact trusts
  | pyEvent => exact trusts
  | rmaAck => exact trusts

/-- The part of `process_agent_message` after the header: what it hands over,
the new record and the bytes left. `none` waits for more bytes. -/
def receiveBody (handlers : Handlers) (remote : Uuid) (hdr : Header) (stream : List UInt8) :
    Option (Received × Uuid × List UInt8) :=
  if hdr.len ≤ stream.length then
    let body := stream.take hdr.len
    some (.ok ⟨hdr.type, hdr.sender, body⟩, handlers hdr.type remote body, stream.drop hdr.len)
  else none

/-- One call of `process_agent_message` on the bytes that have arrived. -/
def processAgentMessage (handlers : Handlers) (remote : Uuid) (stream : List UInt8) :
    Option (Received × Uuid × List UInt8) :=
  if headerSize ≤ stream.length then
    match checkHeader remote (stream.take headerSize) with
    | .error rc => some (.error rc, remote, stream.drop headerSize)
    | .ok hdr => receiveBody handlers remote hdr (stream.drop headerSize)
  else none

theorem receiveBody_shorter {handlers : Handlers} {remote next : Uuid} {hdr : Header} {stream rest : List UInt8}
    {received : Received} (result : receiveBody handlers remote hdr stream = some (received, next, rest)) :
    rest.length ≤ stream.length := by
  simp only [receiveBody, Option.ite_none_right_eq_some, Option.some.injEq, Prod.mk.injEq] at result
  obtain ⟨_, _, _, rfl⟩ := result
  simp

theorem processAgentMessage_shorter {handlers : Handlers} {remote next : Uuid} {stream rest : List UInt8}
    {received : Received} (result : processAgentMessage handlers remote stream = some (received, next, rest)) :
    rest.length < stream.length := by
  simp only [processAgentMessage, Option.ite_none_right_eq_some] at result
  obtain ⟨enough, result⟩ := result
  have left : (stream.drop headerSize).length < stream.length := by
    rw [List.length_drop]
    have positive : 0 < headerSize := by decide
    omega
  cases checked : checkHeader remote (stream.take headerSize) with
  | error rc =>
    simp only [checked, Option.some.injEq, Prod.mk.injEq] at result
    obtain ⟨_, _, rfl⟩ := result
    exact left
  | ok hdr =>
    simp only [checked] at result
    exact Nat.lt_of_le_of_lt (receiveBody_shorter result) left

/-- Repeated calls of `process_agent_message` until they wait for bytes. -/
def decodeAll (handlers : Handlers) (remote : Uuid) (stream : List UInt8) : List Received :=
  match _result : processAgentMessage handlers remote stream with
  | none => []
  | some (received, next, rest) => received :: decodeAll handlers next rest
termination_by stream.length
decreasing_by exact processAgentMessage_shorter _result

/-- The calls that follow when one call has come out so. -/
def resume (handlers : Handlers) : Option (Received × Uuid × List UInt8) → List Received
  | none => []
  | some (received, next, rest) => received :: decodeAll handlers next rest

theorem decodeAll_eq (handlers : Handlers) (remote : Uuid) (stream : List UInt8) :
    decodeAll handlers remote stream = resume handlers (processAgentMessage handlers remote stream) := by
  rw [decodeAll]
  split
  · next waits => rw [waits]; rfl
  · next received next rest result => rw [result]; rfl

section Calls

variable {handlers : Handlers} {remote : Uuid}

theorem receiveBody_append {hdr : Header} {body : List UInt8} (whole : body.length = hdr.len) (ahead : List UInt8) :
    receiveBody handlers remote hdr (body ++ ahead) =
      some (.ok ⟨hdr.type, hdr.sender, body⟩, handlers hdr.type remote body, ahead) := by
  have enough : hdr.len ≤ (body ++ ahead).length := by
    rw [List.length_append]
    omega
  rw [receiveBody, if_pos enough, List.take_left' whole, List.drop_left' whole]

theorem receiveBody_waits {hdr : Header} {stream : List UInt8} (short : stream.length < hdr.len) :
    receiveBody handlers remote hdr stream = none :=
  if_neg (by omega)

theorem processAgentMessage_append {hdr : List UInt8} (whole : hdr.length = headerSize) (ahead : List UInt8) :
    processAgentMessage handlers remote (hdr ++ ahead) =
      match checkHeader remote hdr with
      | .error rc => some (.error rc, remote, ahead)
      | .ok header => receiveBody handlers remote header ahead := by
  have enough : headerSize ≤ (hdr ++ ahead).length := by
    rw [List.length_append]
    omega
  rw [processAgentMessage, if_pos enough, List.take_left' whole, List.drop_left' whole]

theorem processAgentMessage_waits {stream : List UInt8} (short : stream.length < headerSize) :
    processAgentMessage handlers remote stream = none :=
  if_neg (by omega)

theorem decodeAll_waits {stream : List UInt8} (short : stream.length < headerSize) :
    decodeAll handlers remote stream = [] := by
  rw [decodeAll_eq, processAgentMessage_waits short]
  rfl

end Calls

section Framed

variable {handlers : Handlers} {sender remote : Uuid}

/-- A message's bytes are decoded to its frame. -/
theorem decodeAll_message (message : Message) (trusts : Trusts sender remote) (ahead : List UInt8) :
    decodeAll handlers remote (message.bytes sender ++ ahead) =
      .ok (message.frame sender) :: decodeAll handlers (handlers message.type remote message.body) ahead := by
  have body : receiveBody handlers remote ⟨message.type, message.body.length, sender⟩ (message.body ++ ahead) =
      some (.ok (message.frame sender), handlers message.type remote message.body, ahead) :=
    receiveBody_append rfl ahead
  rw [decodeAll_eq, Message.bytes, List.append_assoc, processAgentMessage_append (message.length_header sender),
    Message.header, checkHeader_populateMsgHdr trusts message.type message.short]
  dsimp only
  rw [body]
  rfl

/-- A message that has not arrived whole is waited for. -/
theorem decodeAll_partial (message : Message) (trusts : Trusts sender remote) {stream : List UInt8}
    (cut : stream <+: message.bytes sender) (short : stream.length < (message.bytes sender).length) :
    decodeAll handlers remote stream = [] := by
  by_cases early : stream.length < headerSize
  · exact decodeAll_waits early
  · have split := List.take_append_drop headerSize stream
    have header : stream.take headerSize = message.header sender := by
      obtain ⟨rest, whole⟩ := cut
      have front : (stream ++ rest).take headerSize = message.header sender := by
        rw [whole, Message.bytes]
        exact List.take_left' (message.length_header sender)
      rwa [List.take_append_of_le_length (by omega)] at front
    have missing : (stream.drop headerSize).length < message.body.length := by
      rw [Message.length_bytes] at short
      rw [List.length_drop]
      omega
    rw [decodeAll_eq, ← split, header, processAgentMessage_append (message.length_header sender), Message.header,
      checkHeader_populateMsgHdr trusts message.type message.short]
    dsimp only
    rw [receiveBody_waits missing]
    rfl

theorem decodeAll_messages {messages : List Message} (trusts : Trusts sender remote)
    (keeps : ∀ message ∈ messages, handlers.Keeps sender message) :
    decodeAll handlers remote (messages.flatMap (fun message => message.bytes sender)) =
      messages.map (fun message => .ok (message.frame sender)) := by
  induction messages generalizing remote with
  | nil => exact decodeAll_waits (by simp [headerSize])
  | cons message rest ih =>
    have next := keeps message List.mem_cons_self remote trusts
    rw [List.flatMap_cons, decodeAll_message message trusts,
      ih next (fun other member => keeps other (List.mem_cons_of_mem message member)), List.map_cons]

end Framed

/-- Where `process_agent_message` stands: in the loop that reads the header or
in the one that reads the body, with the bytes it has. -/
inductive Stage
  | header (got : List UInt8)
  | body (hdr : Header) (got : List UInt8)

namespace Stage

def got : Stage → List UInt8
  | header got => got
  | body _ got => got

/-- The size that `readTcpMessage` was called with. -/
def size : Stage → Nat
  | header _ => headerSize
  | body hdr _ => hdr.len

def push (bytes : List UInt8) : Stage → Stage
  | header got => header (got ++ bytes)
  | body hdr got => body hdr (got ++ bytes)

theorem size_push (bytes : List UInt8) (stage : Stage) : (stage.push bytes).size = stage.size := by
  cases stage <;> rfl

theorem got_push (bytes : List UInt8) (stage : Stage) : (stage.push bytes).got = stage.got ++ bytes := by
  cases stage <;> rfl

end Stage

/-- The receiver between two reads. It never holds more than it asked for. -/
structure Reader where
  remote : Uuid
  stage : Stage
  fits : stage.got.length ≤ stage.size

namespace Reader

def start (remote : Uuid) : Reader := ⟨remote, .header [], Nat.zero_le _⟩

/-- `tNleft`. -/
def wanted (reader : Reader) : Nat := reader.stage.size - reader.stage.got.length

/-- A `read` that gives these bytes, or the first `tNleft` of them. -/
def read (reader : Reader) (bytes : List UInt8) : Reader where
  remote := reader.remote
  stage := reader.stage.push (bytes.take reader.wanted)
  fits := by
    have fits := reader.fits
    rw [Stage.size_push, Stage.got_push, List.length_append, List.length_take, wanted]
    omega

/-- What follows when `readTcpMessage` has returned. -/
def proceed (handlers : Handlers) (reader : Reader) : Reader × List Received :=
  match reader.stage with
  | .header got =>
    match checkHeader reader.remote got with
    | .error rc => (start reader.remote, [.error rc])
    | .ok hdr => (⟨reader.remote, .body hdr [], Nat.zero_le _⟩, [])
  | .body hdr got => (start (handlers hdr.type reader.remote got), [.ok ⟨hdr.type, hdr.sender, got⟩])

/-- The calls a reader completes when these bytes are still to come. -/
def decodes (handlers : Handlers) (reader : Reader) (ahead : List UInt8) : List Received :=
  match reader.stage with
  | .header got => decodeAll handlers reader.remote (got ++ ahead)
  | .body hdr got => resume handlers (receiveBody handlers reader.remote hdr (got ++ ahead))

variable {handlers : Handlers} {reader : Reader}

/-- How the bytes are split into reads makes no difference. -/
theorem decodes_read {bytes : List UInt8} (bounded : bytes.length ≤ reader.wanted) (ahead : List UInt8) :
    (reader.read bytes).decodes handlers ahead = reader.decodes handlers (bytes ++ ahead) := by
  obtain ⟨remote, stage, fits⟩ := reader
  cases stage with
  | header got => simp only [decodes, read, Stage.push, List.take_of_length_le bounded, List.append_assoc]
  | body hdr got => simp only [decodes, read, Stage.push, List.take_of_length_le bounded, List.append_assoc]

/-- A reader that has all it asked for proceeds as the whole stream would. -/
theorem decodes_proceed (complete : reader.wanted = 0) (ahead : List UInt8) :
    reader.decodes handlers ahead = (reader.proceed handlers).2 ++ (reader.proceed handlers).1.decodes handlers ahead := by
  obtain ⟨remote, stage, fits⟩ := reader
  cases stage with
  | header got =>
    have whole : got.length = headerSize := by
      simp only [wanted, Stage.size, Stage.got] at complete fits
      omega
    simp only [decodes, proceed]
    rw [decodeAll_eq, processAgentMessage_append whole]
    cases checkHeader remote got with
    | error rc => rfl
    | ok hdr => rfl
  | body hdr got =>
    have whole : got.length = hdr.len := by
      simp only [wanted, Stage.size, Stage.got] at complete fits
      omega
    simp only [decodes, proceed]
    rw [receiveBody_append whole]
    rfl

/-- Without further bytes a reader that wants some completes nothing. -/
theorem decodes_waits (wants : 0 < reader.wanted) : reader.decodes handlers [] = [] := by
  obtain ⟨remote, stage, fits⟩ := reader
  cases stage with
  | header got =>
    have short : got.length < headerSize := by
      simp only [wanted, Stage.size, Stage.got] at wants
      omega
    simp only [decodes, List.append_nil]
    exact decodeAll_waits short
  | body hdr got =>
    have short : got.length < hdr.len := by
      simp only [wanted, Stage.size, Stage.got] at wants
      omega
    simp only [decodes, List.append_nil]
    rw [receiveBody_waits short]
    rfl

end Reader

end DEFw.Transport
