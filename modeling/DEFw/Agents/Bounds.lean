import DEFw.Agents.Dispatch

namespace DEFw.Agents
open Transport (Uuid MsgType Header checkHeader headerSize)

/-- What the reads of the handlers depend on beside the message: whether the address of the agent is known, and of the
block that session information with a uuid is merged with; the number of bytes the provider reads of an address, if OFI
is up; whether Python handles messages; and whether it logs their text. -/
structure Setting where
  addrValid : Bool
  existing : Uuid → Option Bool
  provider : Option Nat
  python : Bool
  logsPayload : Bool

/-- The bytes of the body from an offset on, in memory. -/
def span (offset count : Nat) : List Nat := List.range' offset count

/-- What `strncpy` with `MAX_STR_LEN` reads: up to the terminating NUL, or all of the field. -/
def strncpyReads (memory : List UInt8) (offset : Nat) : List Nat :=
  span offset (min 1024 (((memory.drop offset).takeWhile (fun byte => byte != 0)).length + 1))

/-- What `strlen` reads. -/
def strlenReads (memory : List UInt8) : List Nat :=
  span 0 ((memory.takeWhile (fun byte => byte != 0)).length + 1)

/-- `maybe_insert_ofi_addr`. -/
def maybeInsertOfiAddrReads (setting : Setting) (addrValid : Bool) (memory : List UInt8) : List Nat :=
  if addrValid then []
  else
    span 2096 4 ++
      if Session.word memory 2096 = 0 ∨ Session.word memory 2096 > 256 then []
      else span 2100 (setting.provider.getD 0)

/-- `process_msg_session_info`. -/
def processMsgSessionInfoReads (setting : Setting) (memory : List UInt8) : List Nat :=
  span 32 4 ++ span 40 4 ++
    if !(Session.read memory).isValid then []
    else
      span 0 16 ++
        match setting.existing (Session.read memory).uuid with
        | some addrValid => maybeInsertOfiAddrReads setting addrValid memory
        | none =>
          span 36 4 ++ span 44 4 ++ strncpyReads memory 1072 ++ strncpyReads memory 48 ++
            maybeInsertOfiAddrReads setting setting.addrValid memory

/-- `process_msg_hb`. -/
def processMsgHbReads (setting : Setting) (memory : List UInt8) : List Nat :=
  span 0 16 ++ span 32 4 ++ span 36 4 ++ strncpyReads memory 1072 ++ strncpyReads memory 48 ++
    maybeInsertOfiAddrReads setting setting.addrValid memory

/-- `process_msg_rma_ack`. -/
def processMsgRmaAckReads : List Nat := span 0 4 ++ span 4 4

/-- The indices of the body that its handler reads, with the memory from the body on. The text of an event is only
logged. -/
def handlerReads (setting : Setting) (type : MsgType) (memory : List UInt8) : List Nat :=
  match type with
  | .hb => processMsgHbReads setting memory
  | .sessionInfo => processMsgSessionInfoReads setting memory
  | .pyRequest | .pyResponse => if setting.python then strlenReads memory else []
  | .pyEvent => if setting.python && setting.logsPayload then strlenReads memory else []
  | .rmaAck => processMsgRmaAckReads

/-- A text field of `MAX_STR_LEN` bytes is in the body, or ends in it. -/
def FieldFits (body : List UInt8) (offset : Nat) : Prop :=
  offset + 1024 ≤ body.length ∨ 0 ∈ body.drop offset

/-- The length of an OFI address is in the body, and the address that is inserted. -/
def AddressFits (setting : Setting) (body : List UInt8) : Prop :=
  2100 ≤ body.length ∧ (Session.word body 2096 = 0 ∨ Session.word body 2096 > 256 ∨
    2100 + setting.provider.getD 0 ≤ body.length)

/-- The body is as long as its handler takes it to be. -/
def BodyFits (setting : Setting) (type : MsgType) (body : List UInt8) : Prop :=
  match type with
  | .hb => FieldFits body 1072 ∧ (setting.addrValid = false → AddressFits setting body)
  | .sessionInfo =>
    44 ≤ body.length ∧ ((Session.read body).isValid = true →
      match setting.existing (Session.read body).uuid with
      | some addrValid => addrValid = false → AddressFits setting body
      | none => FieldFits body 1072 ∧ (setting.addrValid = false → AddressFits setting body))
  | .pyRequest | .pyResponse => setting.python = true → 0 ∈ body
  | .pyEvent => setting.python = true → setting.logsPayload = true → 0 ∈ body
  | .rmaAck => 8 ≤ body.length

/-- All indices are below the length of the body. -/
def InRange (body : List UInt8) (reads : List Nat) : Prop := ∀ index ∈ reads, index < body.length

section Reads

variable {body behind : List UInt8} {setting : Setting}

theorem inRange_append {first second : List Nat} :
    InRange body (first ++ second) ↔ InRange body first ∧ InRange body second := by
  simp only [InRange, List.mem_append, or_imp, forall_and]

theorem inRange_span {offset count : Nat} : InRange body (span offset count) ↔ count = 0 ∨ offset + count ≤ body.length := by
  simp only [InRange, span, List.mem_range'_1]
  constructor
  · intro within
    by_cases none : count = 0
    · exact .inl none
    · have last := within (offset + count - 1) (by omega)
      omega
  · rintro fits index ⟨lower, upper⟩
    omega

theorem inRange_nil : InRange body [] := by simp [InRange]

/-- The text that starts in a list ends in it, before a length. -/
theorem takeWhile_lt_iff (text : List UInt8) (size : Nat) :
    (text.takeWhile (fun byte => byte != 0)).length < size ↔ size > text.length ∨ 0 ∈ text.take size := by
  induction text generalizing size with
  | nil => simp
  | cons byte rest ih =>
    cases size with
    | zero => simp
    | succ size =>
      by_cases zero : byte = 0
      · simp [zero]
      · have kept : (byte != 0) = true := by simpa using zero
        simp only [List.takeWhile_cons, kept, if_true, List.length_cons, Nat.add_lt_add_iff_right, ih size, gt_iff_lt,
          List.take_succ_cons, List.mem_cons, Ne.symm zero, false_or]

theorem inRange_strncpyReads (offset : Nat) : InRange body (strncpyReads (body ++ behind) offset) ↔ FieldFits body offset := by
  have ends := takeWhile_lt_iff ((body ++ behind).drop offset) (body.length - offset)
  have long : ¬ body.length - offset > ((body ++ behind).drop offset).length := by
    rw [List.length_drop, List.length_append]
    omega
  have field : ((body ++ behind).drop offset).take (body.length - offset) = body.drop offset := by
    rw [← List.drop_take, List.take_left]
  rw [field] at ends
  simp only [long, false_or] at ends
  rw [strncpyReads, inRange_span, FieldFits, ← ends]
  omega

theorem inRange_strlenReads : InRange body (strlenReads (body ++ behind)) ↔ 0 ∈ body := by
  have ends := takeWhile_lt_iff (body ++ behind) body.length
  have long : ¬ body.length > (body ++ behind).length := by simp
  rw [List.take_left] at ends
  simp only [long, false_or] at ends
  rw [strlenReads, inRange_span, ← ends]
  omega

theorem word_append {offset : Nat} (inside : offset + 4 ≤ body.length) :
    Session.word (body ++ behind) offset = Session.word body offset := by
  unfold Session.word
  rw [List.drop_append_of_le_length (by omega), List.take_append_of_le_length (by rw [List.length_drop]; omega)]

theorem inRange_maybeInsertOfiAddrReads (addrValid : Bool) :
    InRange body (maybeInsertOfiAddrReads setting addrValid (body ++ behind)) ↔
      (addrValid = false → AddressFits setting body) := by
  cases addrValid with
  | true => simp [maybeInsertOfiAddrReads, inRange_nil]
  | false =>
    simp only [maybeInsertOfiAddrReads, Bool.false_eq_true, if_false, forall_const, inRange_append, inRange_span, AddressFits]
    have first : (4 = 0 ∨ 2096 + 4 ≤ body.length) ↔ 2100 ≤ body.length := by omega
    rw [first]
    refine and_congr_right fun inside => ?_
    rw [word_append (by omega)]
    split
    next unusable => exact iff_of_true inRange_nil (unusable.imp_right .inl)
    next usable =>
      rw [inRange_span]
      omega

theorem FieldFits.lt_length {offset : Nat} (fits : FieldFits body offset) : offset < body.length := by
  rcases fits with whole | ends
  · omega
  · have nonempty := List.length_pos_of_mem ends
    rw [List.length_drop] at nonempty
    omega

/-- A heartbeat, and session information of a new process, is in range exactly if its last text and the address are. -/
theorem fields_in_range (setting : Setting) (body behind : List UInt8) (addrValid : Bool) (others : List Nat) (early : ∀ index ∈ others, index ≤ 1072) :
    InRange body (others ++ strncpyReads (body ++ behind) 1072 ++ strncpyReads (body ++ behind) 48 ++
        maybeInsertOfiAddrReads setting addrValid (body ++ behind)) ↔
      FieldFits body 1072 ∧ (addrValid = false → AddressFits setting body) := by
  rw [inRange_append, inRange_append, inRange_append, inRange_maybeInsertOfiAddrReads, inRange_strncpyReads,
    inRange_strncpyReads]
  refine and_congr_left fun _ => ?_
  constructor
  · exact fun fits => fits.1.2
  · intro last
    have long := last.lt_length
    refine ⟨⟨fun index member => ?_, last⟩, .inl (by omega)⟩
    have bound := early index member
    omega

theorem uuid_read_append (inside : 16 ≤ body.length) : Uuid.read (body ++ behind) = Uuid.read body := by
  have front : ∀ rest : List UInt8, (body ++ rest).take 16 = body.take 16 :=
    fun rest => List.take_append_of_le_length inside
  simp only [Uuid.read, List.append_assoc, front]

theorem isValid_read_append (inside : 36 ≤ body.length) :
    (Session.read (body ++ behind)).isValid = (Session.read body).isValid := by
  have type : (Session.read (body ++ behind)).nodeType = (Session.read body).nodeType := by
    simp only [Session.read, word_append (show 32 + 4 ≤ body.length from inside)]
  simp only [Session.isValid, type]

theorem text_append {offset : Nat} (fits : FieldFits body offset) :
    Session.text (body ++ behind) offset = Session.text body offset := by
  have inside := fits.lt_length
  unfold Session.text
  rw [List.drop_append_of_le_length (by omega)]
  rcases fits with whole | ends
  · rw [List.take_append_of_le_length (by rw [List.length_drop]; omega)]
  · by_cases long : 1023 ≤ (body.drop offset).length
    · rw [List.take_append_of_le_length long]
    · have ended : ((body.drop offset).takeWhile (fun byte => byte != 0)).length ≠ (body.drop offset).length := by
        intro all
        have solid := List.takeWhile_eq_self_iff.mp (List.takeWhile_prefix _ |>.eq_of_length all) 0 ends
        simp at solid
      rw [List.take_append, List.take_of_length_le (by omega), List.takeWhile_append, if_neg ended]

/-- What a heartbeat in range says is what the handlers of the table take it to say. -/
theorem session_read_append (fits : FieldFits body 1072) : Session.read (body ++ behind) = Session.read body := by
  have long := fits.lt_length
  have name : FieldFits body 48 := .inl (by omega)
  have uuid : Uuid.read (body ++ behind) = Uuid.read body := uuid_read_append (by omega)
  have words : ∀ offset ≤ 44, Session.word (body ++ behind) offset = Session.word body offset :=
    fun offset early => word_append (by omega)
  simp only [Session.read, text_append fits, text_append name, uuid, words 32 (by omega), words 36 (by omega),
    words 40 (by omega), words 44 (by omega)]

/-- The handlers stay inside the body exactly if it is as long as they take it to be. -/
theorem handlerReads_in_range (setting : Setting) (type : MsgType) (body behind : List UInt8) :
    InRange body (handlerReads setting type (body ++ behind)) ↔ BodyFits setting type body := by
  cases type with
  | hb =>
    refine fields_in_range setting body behind setting.addrValid (span 0 16 ++ span 32 4 ++ span 36 4) (fun index member => ?_)
    simp only [span, List.mem_append, List.mem_range'_1] at member
    omega
  | sessionInfo =>
    simp only [handlerReads, processMsgSessionInfoReads, BodyFits]
    have words : InRange body (span 32 4 ++ span 40 4) ↔ 44 ≤ body.length := by
      rw [inRange_append, inRange_span, inRange_span]
      omega
    rw [inRange_append, words]
    refine and_congr_right fun inside => ?_
    have uuid : (Session.read (body ++ behind)).uuid = (Session.read body).uuid := uuid_read_append (by omega)
    rw [isValid_read_append (by omega), uuid]
    cases (Session.read body).isValid with
    | false => simpa using inRange_nil
    | true =>
      have front : InRange body (span 0 16) := inRange_span.mpr (.inr (by omega))
      simp only [Bool.not_true, Bool.false_eq_true, if_false, forall_const, inRange_append, front, true_and]
      cases setting.existing (Session.read body).uuid with
      | some addrValid => exact inRange_maybeInsertOfiAddrReads addrValid
      | none =>
        have fields := fields_in_range setting body behind setting.addrValid
          (span 36 4 ++ span 44 4) (fun index member => by
            simp only [span, List.mem_append, List.mem_range'_1] at member
            omega)
        simpa only [inRange_append] using fields
  | pyRequest =>
    simp only [handlerReads, BodyFits]
    cases setting.python with
    | true => simpa using inRange_strlenReads
    | false => simpa using inRange_nil
  | pyResponse =>
    simp only [handlerReads, BodyFits]
    cases setting.python with
    | true => simpa using inRange_strlenReads
    | false => simpa using inRange_nil
  | pyEvent =>
    simp only [handlerReads, BodyFits]
    cases setting.python with
    | true =>
      cases setting.logsPayload with
      | true => simpa using inRange_strlenReads
      | false => simpa using inRange_nil
    | false => simpa using inRange_nil
  | rmaAck =>
    simp only [handlerReads, processMsgRmaAckReads, BodyFits, inRange_append, inRange_span]
    omega

end Reads

/-- The indices of the body that are read when `process_agent_message` gets a frame from a connection. -/
def processAgentMessageReads (setting : Setting) (remote : Uuid) (hdr body behind : List UInt8) : List Nat :=
  match (Incoming.frame hdr body .ok).admitted remote with
  | .error _ => []
  | .ok message => handlerReads setting message.header.type (message.body ++ behind)

/-- The indices of the body that are read when `defw_ofi_dispatch` gets a buffer. The senders that are known are those
of blocks in the table. -/
def ofiDispatchReads (setting : Setting) (known : Uuid → Bool) (buf behind : List UInt8) : List Nat :=
  match ofiAdmitted buf with
  | .error _ => []
  | .ok (header, _) => if known header.sender then handlerReads setting header.type (buf.drop headerSize ++ behind) else []

/-- The part of the buffer that counts as the body. -/
theorem ofiAdmitted_body {buf body : List UInt8} {header : Header} (admitted : ofiAdmitted buf = .ok (header, body)) :
    buf.drop headerSize = body ++ (buf.drop headerSize).drop header.len := by
  unfold ofiAdmitted at admitted
  split at admitted
  · exact absurd admitted (by simp)
  · split at admitted
    · exact absurd admitted (by simp)
    · split at admitted
      · exact absurd admitted (by simp)
      · simp only [] at admitted
        split at admitted
        · exact absurd admitted (by simp)
        · cases admitted
          exact (List.take_append_drop _ _).symm

/-- A frame that one of the two dispatchers accepts is read within its body exactly if the body is as long as its type
takes it to be: nothing but the header is checked before. -/
theorem frames_read_in_range_iff (setting : Setting) :
    (∀ remote hdr body behind, InRange body (processAgentMessageReads setting remote hdr body behind) ↔
      ∀ header, checkHeader remote hdr = .ok header → BodyFits setting header.type body) ∧
    ∀ known buf behind header body, ofiAdmitted buf = .ok (header, body) →
      (InRange body (ofiDispatchReads setting known buf behind) ↔
        (known header.sender = true → BodyFits setting header.type body)) := by
  refine ⟨fun remote hdr body behind => ?_, fun known buf behind header body admitted => ?_⟩
  · cases checked : checkHeader remote hdr with
    | error rc =>
      simp only [processAgentMessageReads, Incoming.admitted, checked]
      exact iff_of_true inRange_nil (by simp)
    | ok header =>
      simp only [processAgentMessageReads, Incoming.admitted, checked, Except.ok.injEq, forall_eq']
      exact handlerReads_in_range setting header.type body behind
  · simp only [ofiDispatchReads, admitted]
    cases known header.sender with
    | false => simpa using inRange_nil
    | true =>
      rw [ofiAdmitted_body admitted, List.append_assoc]
      simpa using handlerReads_in_range setting header.type body _

/-- A process that knows no address and handles messages in Python. -/
def plainSetting : Setting := ⟨false, fun _ => none, none, true, true⟩

theorem frames_read_in_range_ack :
    InRange zeroAck (ofiDispatchReads plainSetting (fun _ => true) (rawHdr 5 8 (.filled 1) 4 ++ zeroAck) []) := by
  have admitted : ofiAdmitted (rawHdr 5 8 (.filled 1) 4 ++ zeroAck) = .ok (⟨.rmaAck, 8, .filled 1⟩, zeroAck) := by
    decide +kernel
  refine ((frames_read_in_range_iff plainSetting).2 _ _ [] _ _ admitted).mpr fun _ => ?_
  exact Nat.le_refl 8

/-- A request of one byte that is no NUL, and an acknowledgement and a heartbeat of no bytes. -/
theorem short_frames_interpreted :
    ofiAdmitted (rawHdr 2 1 (.filled 1) 4 ++ [1]) = .ok (⟨.pyRequest, 1, .filled 1⟩, [1]) ∧
      1 ∈ ofiDispatchReads plainSetting (fun _ => true) (rawHdr 2 1 (.filled 1) 4 ++ [1]) [0] ∧
      ¬ InRange [1] (ofiDispatchReads plainSetting (fun _ => true) (rawHdr 2 1 (.filled 1) 4 ++ [1]) [0]) ∧
      0 ∈ processAgentMessageReads plainSetting (.filled 1) (rawHdr 5 0 (.filled 1) 4) [] [] ∧
      2099 ∈ processAgentMessageReads plainSetting (.filled 1) (rawHdr 0 0 (.filled 1) 4) [] [] := by
  have scanned : 1 ∈ ofiDispatchReads plainSetting (fun _ => true) (rawHdr 2 1 (.filled 1) 4 ++ [1]) [0] := by decide +kernel
  refine ⟨by decide +kernel, scanned, fun within => ?_, by decide +kernel, by decide +kernel⟩
  exact absurd (within 1 scanned) (by decide)

end DEFw.Agents
