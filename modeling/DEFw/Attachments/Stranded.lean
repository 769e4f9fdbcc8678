import DEFw.Attachments.RoundTrip

namespace DEFw.Attachments
open Py

/-- What can go wrong while a message is sent: the extraction raises, a payload cannot be turned
into bytes or into text, the message cannot be dumped, the send raises (`none`) or returns a code,
and the discard of a handle releases its region or does not. -/
structure Faults where
  extract : Bool
  bytes : Nat → Bool
  text : Nat → Bool
  dump : Bool
  send : Option Int
  discard : Int → Bool

/-- The region that a payload gets, if any. -/
def described (ops : Option RmaOps) (threshold : Int) (index : Nat) (a : Buffer) : Option Descriptor :=
  match ops with
  | some ops => if threshold ≤ (toBytes a).length then rmaPublish ops index (toBytes a) else none
  | none => none

/-- The payload cannot be encoded. -/
def Faults.refuses (faults : Faults) (ops : Option RmaOps) (threshold : Int) (index : Nat) (a : Buffer) : Bool :=
  faults.bytes index || (described ops threshold index a).isNone && faults.text index

variable {ω : Type}

/-- The loop of `_encode_payloads` up to the first payload that raises, and whether none did. -/
def encodeUntil (encoders : Encoders ω) (ops : Option RmaOps) (threshold : Int) (faults : Faults) :
    Encoding → List Buffer → Encoding × Bool
  | encoding, [] => (encoding, true)
  | encoding, a :: rest =>
    if faults.refuses ops threshold encoding.payloads.length a then (encoding, false)
    else encodeUntil encoders ops threshold faults (encodePayload encoders ops threshold encoding a) rest

inductive Ending where
  | returned (rc : Int)
  | raised

/-- One send, by the handles registered for it, the payload entries of the message if its send
returned `EN_DEFW_RC_OK`, and the handles released again. -/
structure Attempt where
  published : List Int
  delivered : Option (List Value)
  released : List Int
  ending : Ending

/-- `yaml.dump`, the send and `attach_discard`. -/
def Faults.settle (faults : Faults) (encoding : Encoding) : Attempt :=
  if faults.dump then ⟨encoding.published, none, [], .raised⟩
  else
    match faults.send with
    | none => ⟨encoding.published, none, [], .raised⟩
    | some rc =>
      if rc = 0 then ⟨encoding.published, some encoding.payloads, [], .returned 0⟩
      else ⟨encoding.published, none, encoding.published.filter faults.discard, .returned rc⟩

def sendRsp (encoders : Encoders ω) (process : Process) (faults : Faults) (msg : Value) (blkUuid : Option String) :
    Attempt :=
  if faults.extract then ⟨[], none, [], .raised⟩
  else
    let (transformed, attachments) := extractAttachments msg defaultAttachThreshold
    if attachments.isEmpty then faults.settle ⟨[], [], []⟩
    else
      let (encoding, whole) :=
        encodeUntil encoders (process.rmaUsable blkUuid) process.threshold faults ⟨[], [], []⟩ attachments
      if !whole then ⟨encoding.published, none, [], .raised⟩
      else
        match transformed with
        | .dict _ => faults.settle encoding
        | _ => ⟨encoding.published, none, [], .raised⟩

/-- `send_req` differs in that a code other than `EN_DEFW_RC_OK` raises. -/
def sendReq (encoders : Encoders ω) (process : Process) (faults : Faults) (msg : Value) (blkUuid : Option String) :
    Attempt :=
  let attempt := sendRsp encoders process faults msg blkUuid
  match attempt.ending with
  | .returned rc => if rc = 0 then attempt else { attempt with ending := .raised }
  | .raised => attempt

/-- Without faults the loop is `_encode_payloads`. -/
theorem encodeUntil_eq {faults : Faults} (fine : ∀ index, faults.bytes index = false ∧ faults.text index = false)
    (encoders : Encoders ω) (ops : Option RmaOps) (threshold : Int) (encoding : Encoding) (attachments : List Buffer) :
    encodeUntil encoders ops threshold faults encoding attachments =
      (attachments.foldl (encodePayload encoders ops threshold) encoding, true) := by
  induction attachments generalizing encoding with
  | nil => rfl
  | cons a rest ih =>
    simp only [encodeUntil, Faults.refuses, fine, Bool.and_false, Bool.or_self, Bool.false_eq_true, if_false, ih,
      List.foldl_cons]

/-- Where the encoding does not raise, what is sent and taken back is the encoding of `attach_encode`. -/
theorem sendRsp_of_encoded {faults : Faults} (fine : ∀ index, faults.bytes index = false ∧ faults.text index = false)
    (extracts : faults.extract = false) {encoders : Encoders ω} {process : Process} {msg : Value}
    {blkUuid : Option String} {text : ω} {encoding : Encoding}
    (encoded : attachEncode encoders process msg blkUuid defaultAttachThreshold = .ok (text, encoding)) :
    sendRsp encoders process faults msg blkUuid = faults.settle encoding := by
  unfold attachEncode at encoded
  simp only [sendRsp, extracts, encodeUntil_eq fine, Bool.false_eq_true, if_false, Bool.not_true]
  generalize extractAttachments msg defaultAttachThreshold = extracted at encoded ⊢
  obtain ⟨transformed, attachments⟩ := extracted
  dsimp only at encoded ⊢
  by_cases empty : attachments.isEmpty = true
  · rw [if_pos empty] at encoded ⊢
    exact congrArg faults.settle (congrArg Prod.snd (Except.ok.inj encoded))
  · rw [if_neg empty] at encoded ⊢
    cases transformed with
    | dict entries => exact congrArg faults.settle (congrArg Prod.snd (Except.ok.inj encoded))
    | none | bool | int | str | other | bytes | bytearray | ndarray | list | tuple => cases encoded

/-- Each region published for a message is named in a message that was sent, or released. -/
def Attempt.Settled (attempt : Attempt) : Prop :=
  ∀ handle ∈ attempt.published, handle ∈ attempt.released ∨
    ∃ payloads ∈ attempt.delivered, ∃ payload ∈ payloads, payloadHandle payload = some handle

section Loop

variable {encoders : Encoders ω} {ops : Option RmaOps} {threshold : Int} {faults : Faults}

/-- The payload and all before it can be encoded; `start` is the number of the first. -/
def Faults.Reaches (faults : Faults) (ops : Option RmaOps) (threshold : Int) (start : Nat) (attachments : List Buffer)
    (last : Nat) : Prop :=
  ∀ index ≤ last, ∀ a ∈ attachments[index]?, faults.refuses ops threshold (start + index) a = false

theorem encodePayload_length (encoding : Encoding) (a : Buffer) :
    (encodePayload encoders ops threshold encoding a).payloads.length = encoding.payloads.length + 1 := by
  unfold encodePayload
  dsimp only
  split <;> simp

theorem encodePayload_published (encoding : Encoding) (a : Buffer) :
    (encodePayload encoders ops threshold encoding a).published = encoding.published ++
      ((described ops threshold encoding.payloads.length a).map Descriptor.handle).toList := by
  unfold encodePayload described
  cases ops with
  | none => simp
  | some ops =>
    dsimp only
    split <;> split <;> simp_all

theorem Faults.reaches_succ {start : Nat} {a : Buffer} {rest : List Buffer} {last : Nat} :
    faults.Reaches ops threshold start (a :: rest) (last + 1) ↔
      faults.refuses ops threshold start a = false ∧ faults.Reaches ops threshold (start + 1) rest last := by
  constructor
  · intro reaches
    refine ⟨reaches 0 (Nat.zero_le _) a rfl, ?_⟩
    intro index le b found
    have fine := reaches (index + 1) (Nat.succ_le_succ le) b found
    rwa [← Nat.add_assoc, Nat.add_right_comm] at fine
  · rintro ⟨first, reaches⟩ index le b found
    cases index with
    | zero =>
      obtain rfl : a = b := Option.some.inj found
      exact first
    | succ index =>
      have fine := reaches index (Nat.le_of_succ_le_succ le) b found
      rwa [← Nat.add_assoc, Nat.add_right_comm]

theorem mem_published {encoding : Encoding} {attachments : List Buffer} {handle : Int} :
    handle ∈ (encodeUntil encoders ops threshold faults encoding attachments).1.published ↔
      handle ∈ encoding.published ∨ ∃ index, ∃ a ∈ attachments[index]?,
        ∃ desc ∈ described ops threshold (encoding.payloads.length + index) a, desc.handle = handle ∧
          faults.Reaches ops threshold encoding.payloads.length attachments index := by
  induction attachments generalizing encoding with
  | nil => simp [encodeUntil]
  | cons a rest ih =>
    unfold encodeUntil
    by_cases refused : faults.refuses ops threshold encoding.payloads.length a = true
    · rw [if_pos refused]
      constructor
      · exact Or.inl
      · rintro (old | ⟨index, _, _, _, _, _, reaches⟩)
        · exact old
        · have := reaches 0 (Nat.zero_le _) a rfl
          simp_all
    · rw [if_neg refused, ih, encodePayload_published, encodePayload_length]
      have fine : faults.refuses ops threshold encoding.payloads.length a = false := by simpa using refused
      constructor
      · rintro (old | ⟨index, b, found, desc, at_, same, reaches⟩)
        · rcases List.mem_append.mp old with old | new
          · exact Or.inl old
          · obtain ⟨desc, at_, same⟩ : ∃ desc ∈ described ops threshold encoding.payloads.length a,
                desc.handle = handle := by simpa using new
            refine Or.inr ⟨0, a, rfl, desc, at_, same, ?_⟩
            intro index le b found
            obtain rfl : index = 0 := Nat.le_zero.mp le
            obtain rfl : a = b := Option.some.inj found
            exact fine
        · refine Or.inr ⟨index + 1, b, found, desc, ?_, same, Faults.reaches_succ.mpr ⟨fine, reaches⟩⟩
          rwa [← Nat.add_assoc, Nat.add_right_comm]
      · rintro (old | ⟨index, b, found, desc, at_, same, reaches⟩)
        · exact Or.inl (List.mem_append_left _ old)
        · cases index with
          | zero =>
            obtain rfl : a = b := Option.some.inj found
            refine Or.inl (List.mem_append_right _ ?_)
            have given : described ops threshold encoding.payloads.length a = some desc := at_
            simp [given, same]
          | succ index =>
            refine Or.inr ⟨index, b, found, desc, ?_, same, (Faults.reaches_succ.mp reaches).2⟩
            rwa [← Nat.add_assoc, Nat.add_right_comm] at at_

theorem encodeUntil_whole {encoding : Encoding} {attachments : List Buffer} :
    (encodeUntil encoders ops threshold faults encoding attachments).2 = true ↔
      ∀ last, faults.Reaches ops threshold encoding.payloads.length attachments last := by
  induction attachments generalizing encoding with
  | nil => simp [encodeUntil, Faults.Reaches]
  | cons a rest ih =>
    unfold encodeUntil
    by_cases refused : faults.refuses ops threshold encoding.payloads.length a = true
    · rw [if_pos refused]
      constructor
      · nofun
      · intro reaches
        have := reaches 0 0 (Nat.le_refl 0) a rfl
        simp_all
    · rw [if_neg refused, ih, encodePayload_length]
      constructor
      · intro reaches last index le
        exact Faults.reaches_succ.mpr ⟨by simpa using refused, reaches last⟩ index (Nat.le_succ_of_le le)
      · intro reaches last
        exact (Faults.reaches_succ.mp (reaches (last + 1))).2

/-- As far as the loop goes, each handle it published stands in a payload entry. -/
theorem Encodes.until {encoding : Encoding} {before : List Buffer} (encodes : Encodes encoders encoding before)
    (ops : Option RmaOps) (threshold : Int) (faults : Faults) (attachments : List Buffer) :
    ∃ encoded, Encodes encoders (encodeUntil encoders ops threshold faults encoding attachments).1 encoded := by
  induction attachments generalizing encoding before with
  | nil => exact ⟨before, encodes⟩
  | cons a rest ih =>
    unfold encodeUntil
    split
    · exact ⟨before, encodes⟩
    · exact ih (encodes.step ops threshold a)

end Loop

/-- The message goes out, or is taken back. -/
def Faults.Settles (faults : Faults) (handle : Int) : Prop :=
  faults.dump = false ∧ ∃ rc ∈ faults.send, rc = 0 ∨ faults.discard handle = true

theorem Faults.settled_iff {faults : Faults} {encoding : Encoding}
    (named : encoding.published = encoding.payloads.filterMap payloadHandle) :
    (faults.settle encoding).Settled ↔ ∀ handle ∈ encoding.published, faults.Settles handle := by
  unfold Faults.settle
  cases dump : faults.dump with
  | true => simp [Attempt.Settled, Faults.Settles, dump]
  | false =>
    cases send : faults.send with
    | none => simp [Attempt.Settled, Faults.Settles, send]
    | some rc =>
      by_cases ok : rc = 0
      · simp [Attempt.Settled, Faults.Settles, send, dump, ok, named]
      · simp only [Attempt.Settled, Faults.Settles, send, dump, ok, if_false, List.mem_filter, Option.mem_def, reduceCtorEq,
          false_and, exists_false, or_false, false_or, Option.some.injEq, exists_eq_left', true_and, Bool.false_eq_true]
        exact forall₂_congr (fun handle published => and_iff_right published)

theorem Attempt.stranded_iff {published : List Int} {ending : Ending} :
    (Attempt.mk published none [] ending).Settled ↔ ∀ handle ∈ published, False := by
  simp [Attempt.Settled]

/-- Once a region is registered for a message, the rest of its encoding and its send do not raise,
and a send that fails can take the region back. -/
def Faults.Covers (faults : Faults) (ops : Option RmaOps) (threshold : Int) (transformed : Value)
    (attachments : List Buffer) : Prop :=
  ∀ index, ∀ a ∈ attachments[index]?, ∀ desc ∈ described ops threshold index a,
    faults.Reaches ops threshold 0 attachments index →
      (∀ last, faults.Reaches ops threshold 0 attachments last) ∧ (∃ entries, transformed = .dict entries) ∧
        faults.Settles desc.handle

section Sends

variable {encoders : Encoders ω} {process : Process} {faults : Faults} {msg : Value} {blkUuid : Option String}

theorem forall_published (encoders : Encoders ω) (property : Int → Prop) {ops : Option RmaOps} {threshold : Int}
    {attachments : List Buffer} :
    (∀ handle ∈ (encodeUntil encoders ops threshold faults ⟨[], [], []⟩ attachments).1.published, property handle) ↔
      ∀ index, ∀ a ∈ attachments[index]?, ∀ desc ∈ described ops threshold index a,
        faults.Reaches ops threshold 0 attachments index → property desc.handle := by
  constructor
  · intro all index a found desc given reaches
    refine all desc.handle (mem_published.mpr (Or.inr ⟨index, a, found, desc, ?_, rfl, reaches⟩))
    simpa using given
  · intro all handle published
    rcases mem_published.mp published with old | ⟨index, a, found, desc, given, rfl, reaches⟩
    · exact absurd old List.not_mem_nil
    · refine all index a found desc ?_ reaches
      simpa using given

theorem sendRsp_settled_iff :
    (sendRsp encoders process faults msg blkUuid).Settled ↔
      (faults.extract = false →
        faults.Covers (process.rmaUsable blkUuid) process.threshold (extractAttachments msg defaultAttachThreshold).1
          (extractAttachments msg defaultAttachThreshold).2) := by
  unfold sendRsp
  cases extract : faults.extract with
  | true => simp [Attempt.Settled]
  | false =>
    generalize extractAttachments msg defaultAttachThreshold = extracted
    obtain ⟨transformed, attachments⟩ := extracted
    generalize process.rmaUsable blkUuid = ops
    generalize process.threshold = threshold
    simp only [Bool.false_eq_true, if_false, forall_const, Faults.Covers]
    have fresh : Encodes encoders ⟨[], [], []⟩ [] := ⟨.nil, rfl⟩
    obtain ⟨encoded, encodes⟩ := fresh.until ops threshold faults attachments
    split
    · rename_i empty
      obtain rfl : attachments = [] := List.isEmpty_iff.mp empty
      refine iff_of_true ((Faults.settled_iff rfl).mpr ?_) (by simp)
      intro handle published
      exact absurd published List.not_mem_nil
    · rw [← forall_published encoders (fun handle => (∀ last, faults.Reaches ops threshold 0 attachments last) ∧
        (∃ entries, transformed = .dict entries) ∧ faults.Settles handle)]
      by_cases whole : (encodeUntil encoders ops threshold faults ⟨[], [], []⟩ attachments).2 = true
      · have all := encodeUntil_whole.mp whole
        simp only [whole, Bool.not_true, Bool.false_eq_true, if_false]
        split
        · rw [Faults.settled_iff encodes.published]
          refine forall₂_congr ?_
          intro handle published
          exact ⟨fun settles => ⟨all, ⟨_, rfl⟩, settles⟩, fun covered => covered.2.2⟩
        · rename_i notDict
          rw [Attempt.stranded_iff]
          refine forall₂_congr ?_
          intro handle published
          exact ⟨False.elim, fun ⟨_, ⟨entries, isDict⟩, _⟩ => notDict entries isDict⟩
      · simp only [whole, Bool.not_false, if_true]
        rw [Attempt.stranded_iff]
        refine forall₂_congr ?_
        intro handle published
        exact ⟨False.elim, fun ⟨all, _⟩ => whole (encodeUntil_whole.mpr all)⟩

theorem sendReq_settled_iff :
    (sendReq encoders process faults msg blkUuid).Settled ↔ (sendRsp encoders process faults msg blkUuid).Settled := by
  unfold sendReq
  dsimp only
  split
  · split <;> rfl
  · rfl

end Sends

/-- No region is left registered for a message that was not sent, exactly if nothing raises between
the registration of a region and the end of the send, and a failed send can release it. -/
theorem regions_settled_iff (encoders : Encoders ω) (process : Process) (faults : Faults) (msg : Value)
    (blkUuid : Option String) :
    ((sendReq encoders process faults msg blkUuid).Settled ∧ (sendRsp encoders process faults msg blkUuid).Settled) ↔
      (faults.extract = false →
        faults.Covers (process.rmaUsable blkUuid) process.threshold (extractAttachments msg defaultAttachThreshold).1
          (extractAttachments msg defaultAttachThreshold).2) := by
  rw [sendReq_settled_iff, and_self, sendRsp_settled_iff]

/-- A process that can register any payload, under the handle 7. -/
def fabricProcess : Process where
  ops := some ⟨fun _ => some true, fun _ data => some (0, some ⟨7, 1, 0, data.length⟩), fun _ _ => (0, none)⟩
  rmaAttachments := none
  rmaThreshold := some "1"

/-- A message with an array and an argument that `yaml.dump` cannot represent leaves the region of
the array registered. -/
theorem region_stranded :
    let faults : Faults := ⟨false, fun _ => false, fun _ => false, true, some 0, fun _ => true⟩
    let msg := Value.dict [(.str "x", .ndarray ⟨[1], float64, [0, 0, 0, 0, 0, 0, 240, 63], rfl⟩), (.str "y", .other 0)]
    let attempt := sendReq identityEncoders fabricProcess faults msg (some "peer")
    attempt.published = [7] ∧ attempt.delivered = none ∧ attempt.released = [] ∧ ¬attempt.Settled := by
  refine ⟨rfl, rfl, rfl, ?_⟩
  intro settled
  rcases settled 7 (List.mem_cons_self ..) with released | ⟨payloads, delivered, _⟩
  · exact absurd released List.not_mem_nil
  · exact absurd delivered nofun

end DEFw.Attachments
