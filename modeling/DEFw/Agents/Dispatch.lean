import DEFw.Agents.Handlers
import DEFw.Agents.Lookup

namespace DEFw.Agents
open Transport (Uuid MsgType Header checkHeader headerSize versionNumber)

/-- Any `defw_message_hdr_t` as it is sent. -/
def rawHdr (type len : Nat) (sender : Uuid) (version : Nat) : List UInt8 :=
  BigEndian.bytes 4 type ++ BigEndian.bytes 4 len ++ sender.bytes ++ BigEndian.bytes 4 version

/-- The checks of `defw_ofi_dispatch` before it looks for the sender, with the body it
finds in the buffer. -/
def ofiAdmitted (buf : List UInt8) : Except DefwRc (Header × List UInt8) :=
  if buf.length < headerSize then .error .fail
  else if BigEndian.value ((buf.drop 24).take 4) ≠ versionNumber then .error .badVersion
  else
    match MsgType.ofCode (BigEndian.value (buf.take 4)) with
    | none => .error .unknownMessage
    | some type =>
      let len := BigEndian.value ((buf.drop 4).take 4)
      if headerSize + len > buf.length then .error .fail
      else .ok (⟨type, len, Uuid.read (buf.drop 8)⟩, (buf.drop headerSize).take len)

/-- A handler of `msg_process_tbl` with what it is called with. -/
structure Invocation where
  type : MsgType
  body : List UInt8
  block : Nat
  deriving DecidableEq

/-- A code counts as the one that `process_agent_message` makes of it. -/
def DefwRc.counted (rc : DefwRc) : DefwRc := if rc = .keepData then .ok else rc

/-- The code that `process_agent_message` returns for a message it gives to a handler. -/
def Message.code (message : Message) : DefwRc :=
  match message.header.type with
  | .hb => .ok
  | .sessionInfo => if (Session.read message.body).isValid then .ok else .protoError
  | _ => message.handlerRc.counted

/-- The code of the handler itself, for the code that `process_agent_message` makes of it. -/
def Message.handlerCode (message : Message) (rc : DefwRc) : DefwRc :=
  match message.header.type with
  | .hb | .sessionInfo => rc
  | _ => message.handlerRc

theorem Message.counted_handlerCode (message : Message) : (message.handlerCode message.code).counted = message.code := by
  unfold handlerCode code
  cases message.header.type with
  | hb => rfl
  | sessionInfo => cases (Session.read message.body).isValid <;> rfl
  | pyRequest | pyResponse | pyEvent | rmaAck => rfl

namespace World

/-- The handler that `process_agent_message` invokes, or the code it returns before. -/
def invocation (w : World) (id : Nat) (incoming : Incoming) : Except Fault (Except DefwRc Invocation) := do
  let agent ← w.deref id
  return (incoming.admitted agent.remoteUuid).map fun message => ⟨message.header.type, message.body, id⟩

/-- The handler that `defw_ofi_dispatch` invokes, or the code it returns before. -/
def ofiInvocation (w : World) (buf : List UInt8) : Except DefwRc Invocation :=
  match ofiAdmitted buf with
  | .error rc => .error rc
  | .ok (header, body) =>
    match w.findAgentByUuidGlobal header.sender none with
    | none => .error .agentNotFound
    | some id => .ok ⟨header.type, body, id⟩

/-- `defw_ofi_dispatch`. The code of the handler comes back as it is. -/
def ofiDispatch (w : World) (buf : List UInt8) (handlerRc : DefwRc) : Except Fault (DefwRc × World) :=
  match ofiAdmitted buf with
  | .error rc => .ok (rc, w)
  | .ok (header, body) =>
    match w.findAgentByUuidGlobal header.sender none with
    | none => .ok (.agentNotFound, w)
    | some id => do
      let message : Message := ⟨header, body, handlerRc⟩
      let w ← w.acquireAgentBlk id
      let (rc, w) ← w.dispatch id message
      let w ← w.releaseAgentBlk id false
      return (message.handlerCode rc, w)

end World

section Headers

variable (type len : Nat) (sender : Uuid) (version : Nat) (rest : List UInt8)

theorem length_rawHdr : (rawHdr type len sender version).length = headerSize := by
  simp [rawHdr, sender.size, headerSize]

theorem take_rawHdr : (rawHdr type len sender version ++ rest).take 4 = BigEndian.bytes 4 type := by
  simp only [rawHdr, List.append_assoc]
  exact List.take_left' (BigEndian.length_bytes 4 type)

theorem len_rawHdr : ((rawHdr type len sender version ++ rest).drop 4).take 4 = BigEndian.bytes 4 len := by
  simp only [rawHdr, List.append_assoc]
  rw [List.drop_left' (BigEndian.length_bytes 4 type)]
  exact List.take_left' (BigEndian.length_bytes 4 len)

theorem sender_rawHdr : Uuid.read ((rawHdr type len sender version ++ rest).drop 8) = sender := by
  have front : (BigEndian.bytes 4 type ++ BigEndian.bytes 4 len).length = 8 := by simp
  have split : rawHdr type len sender version ++ rest =
      (BigEndian.bytes 4 type ++ BigEndian.bytes 4 len) ++ (sender.bytes ++ (BigEndian.bytes 4 version ++ rest)) := by
    simp only [rawHdr, List.append_assoc]
  rw [split, List.drop_left' front]
  exact Uuid.read_append sender _

theorem version_rawHdr : ((rawHdr type len sender version ++ rest).drop 24).take 4 = BigEndian.bytes 4 version := by
  have front : (BigEndian.bytes 4 type ++ BigEndian.bytes 4 len ++ sender.bytes).length = 24 := by simp [sender.size]
  have split : rawHdr type len sender version ++ rest =
      (BigEndian.bytes 4 type ++ BigEndian.bytes 4 len ++ sender.bytes) ++ (BigEndian.bytes 4 version ++ rest) := by
    simp only [rawHdr, List.append_assoc]
  rw [split, List.drop_left' front]
  exact List.take_left' (BigEndian.length_bytes 4 version)

/-- What the header checks of `process_agent_message` make of a header of a known sender. -/
theorem checkHeader_rawHdr : checkHeader sender (rawHdr type len sender version) =
    if version % 256 ^ 4 ≠ versionNumber then .error .badVersion
    else
      match MsgType.ofCode (type % 256 ^ 4) with
      | none => .error .unknownMessage
      | some type => .ok ⟨type, len % 256 ^ 4, sender⟩ := by
  have hdr := (List.append_nil (rawHdr type len sender version)).symm
  have front : (rawHdr type len sender version).take 4 = BigEndian.bytes 4 type := by
    rw [hdr]
    exact take_rawHdr type len sender version []
  have size : ((rawHdr type len sender version).drop 4).take 4 = BigEndian.bytes 4 len := by
    rw [hdr]
    exact len_rawHdr type len sender version []
  have uuid : Uuid.read ((rawHdr type len sender version).drop 8) = sender := by
    rw [hdr]
    exact sender_rawHdr type len sender version []
  have last : (rawHdr type len sender version).drop 24 = BigEndian.bytes 4 version := by
    rw [← version_rawHdr type len sender version [], List.append_nil, List.take_of_length_le]
    rw [List.length_drop, length_rawHdr]
    decide
  simp only [checkHeader, front, size, uuid, last, BigEndian.value_bytes, ne_eq, not_true_eq_false, decide_false,
    Bool.and_false, Bool.false_eq_true, if_false] <;> rfl

/-- What `defw_ofi_dispatch` makes of a buffer that holds a header and as much as it declares. -/
theorem ofiAdmitted_rawHdr {body : List UInt8} (short : body.length < 2 ^ 31) :
    ofiAdmitted (rawHdr type body.length sender version ++ body) =
      if version % 256 ^ 4 ≠ versionNumber then .error .badVersion
      else
        match MsgType.ofCode (type % 256 ^ 4) with
        | none => .error .unknownMessage
        | some type => .ok (⟨type, body.length, sender⟩, body) := by
  have declared : body.length % 256 ^ 4 = body.length := Nat.mod_eq_of_lt (by omega)
  have whole : (rawHdr type body.length sender version ++ body).length = headerSize + body.length := by
    rw [List.length_append, length_rawHdr]
  have after : (rawHdr type body.length sender version ++ body).drop headerSize = body :=
    List.drop_left' (length_rawHdr ..)
  have enough : ¬ headerSize + body.length < headerSize := by omega
  simp only [ofiAdmitted, whole, enough, if_false, version_rawHdr, take_rawHdr, len_rawHdr, sender_rawHdr,
    BigEndian.value_bytes, declared, after, Nat.lt_irrefl, gt_iff_lt, List.take_length]

end Headers

namespace Block

/-- A release of the block, if it is not found dead, ends without a failed assertion. -/
def Releasable (agent : Block) : Prop :=
  agent.refCount ≠ 0 ∧ (agent.isDead = true ∨ agent.refCount ≠ 1 ∨ agent.workInProgress = false)

theorem releasable_of_shared {agent : Block} (shared : 2 ≤ agent.refCount) : agent.Releasable :=
  ⟨by omega, .inr (.inl (by omega))⟩

end Block

namespace World

variable {w w' : World} {id existing : Nat} {agent known : Block} {message : Message} {ses : Session}

theorem exists_release_iff (found : w.blocks id = some agent) :
    (∃ after, w.releaseAgentBlk id false = .ok after) ↔ agent.Releasable := by
  have count : agent.released.refCount = agent.refCount - 1 := rfl
  have dead : agent.released.isDead = agent.isDead := rfl
  have working : agent.released.workInProgress = agent.workInProgress := rfl
  simp only [releaseAgentBlk, deref_ok_iff.mpr found, bind, Except.bind, Block.Releasable, count, dead, working,
    Bool.false_eq_true, if_false]
  split_ifs with none isDead last inWork
  · simp [none]
  · simp [none, isDead]
  · simp [isDead, inWork]
    omega
  · simp [none, inWork]
  · simp [none]
    exact .inr (.inl (by omega))

/-- What a call through `msg_process_tbl` returns does not depend on the blocks. -/
theorem dispatch_rc {rc : DefwRc} (run : w.dispatch id message = .ok (rc, w')) : rc = message.code := by
  unfold dispatch at run
  unfold Message.code
  cases type : message.header.type with
  | hb =>
    rw [type] at run
    obtain ⟨_, _, code, _⟩ := processMsgHb_ok_iff.mp run
    exact code
  | sessionInfo =>
    simp only [type, processMsgSessionInfo] at run
    cases valid : (Session.read message.body).isValid with
    | false =>
      simp only [valid, Bool.not_false, if_true] at run
      cases run
      rfl
    | true =>
      simp only [valid, Bool.not_true, Bool.false_eq_true, if_false] at run
      split at run
      · obtain ⟨_, _, run⟩ := Except.bind_ok_iff.mp run
        obtain ⟨_, _, run⟩ := Except.bind_ok_iff.mp run
        obtain ⟨_, _, run⟩ := Except.bind_ok_iff.mp run
        split at run
        · exact absurd run (by simp)
        · obtain ⟨_, _, run⟩ := Except.bind_ok_iff.mp run
          cases run
          rfl
      · obtain ⟨_, _, run⟩ := Except.bind_ok_iff.mp run
        cases run
        rfl
  | pyRequest | pyResponse | pyEvent | rmaAck =>
    rw [type] at run
    obtain ⟨_, _, code, _⟩ := processRpc_ok_iff.mp run
    exact code

theorem workInProgress_mergedWith (w : World) (existing : Nat) (known agent : Block) (ses : Session) :
    (w.mergedWith existing known agent ses).1.workInProgress = known.workInProgress := by
  unfold mergedWith
  split
  · obtain ⟨_, _, _, _, _, same⟩ := Block.greeted_fst w.uuid w.clock existing (known.attachRpc agent) "inbound-rpc-ready"
    rw [same]
    rfl
  · obtain ⟨_, _, _, _, _, same⟩ :=
      Block.greeted_fst w.uuid w.clock existing (known.attachControl agent w.clock) "inbound-control-ready"
    rw [same]
    rfl

theorem releasable_mergedWith (w : World) (existing : Nat) (known agent : Block) (ses : Session) :
    (w.mergedWith existing known agent ses).1.Releasable ↔ known.Releasable := by
  have alike := w.alike_mergedWith existing known agent ses
  have counts : (w.attached known agent ses).refCount = known.refCount := by unfold attached; split <;> rfl
  have dead : (w.attached known agent ses).isDead = known.isDead := by unfold attached; split <;> rfl
  simp only [Block.Releasable, alike.refCount, alike.isDead, counts, dead, workInProgress_mergedWith]

/-- The world with the block that session information is merged with held, and the information in it. -/
def merging (w : World) (existing : Nat) (known agent : Block) (ses : Session) : World :=
  (((w.put existing known.acquired).listenerResumeFd (resumed known.acquired ses)).notify
    ((w.put existing known.acquired).mergedWith existing known.acquired agent ses).2).put existing
      ((w.put existing known.acquired).mergedWith existing known.acquired agent ses).1

theorem processMsgSessionInfo_known (valid : ses.isValid = true) (matching : w.findAgentByUuidPassive ses.uuid = some existing)
    (there : w.blocks existing = some known) (found : w.blocks id = some agent) (different : id ≠ existing)
    {result : DefwRc × World} : w.processMsgSessionInfo id ses = .ok result ↔
      ∃ middle last, (w.merging existing known agent ses).releaseAgentBlk existing false = .ok middle ∧
        middle.releaseAgentBlk id false = .ok last ∧ (.ok, last) = result := by
  have held : w.acquireAgentBlk existing = .ok (w.put existing known.acquired) := edit_ok_iff.mpr ⟨known, there, rfl⟩
  have found' : (w.put existing known.acquired).blocks id = some agent := by
    rw [blocks_put_of_ne different]
    exact found
  have merged : (w.put existing known.acquired).mergeSession id existing ses = .ok (w.merging existing known agent ses) :=
    mergeSession_ok_iff.mpr ⟨agent, known.acquired, found', blocks_put_self, rfl⟩
  simp only [processMsgSessionInfo, valid, Bool.not_true, Bool.false_eq_true, if_false, matching, held, merged,
    Except.bind_ok_iff, Except.ok.injEq, exists_eq_left', if_neg different, pure, Except.pure, exists_and_left]

/-- Session information of a process that is known returns exactly if both blocks can be released. -/
theorem exists_processMsgSessionInfo_known (valid : ses.isValid = true)
    (matching : w.findAgentByUuidPassive ses.uuid = some existing) (there : w.blocks existing = some known)
    (found : w.blocks id = some agent) (different : id ≠ existing) :
    (∃ result, w.processMsgSessionInfo id ses = .ok result) ↔ known.acquired.Releasable ∧ agent.Releasable := by
  have kept : (w.merging existing known agent ses).blocks existing =
      some ((w.put existing known.acquired).mergedWith existing known.acquired agent ses).1 := blocks_put_self
  have apart : ∀ middle, (w.merging existing known agent ses).releaseAgentBlk existing false = .ok middle →
      middle.blocks id = some agent := by
    intro middle run
    obtain ⟨_, _, _, resumed⟩ := listenerResumeFd_eq (w.put existing known.acquired) (resumed known.acquired ses)
    rw [(releaseAgentBlk_frame run).blocks_of_ne id different, merging, blocks_put_of_ne different, resumed]
    change (w.put existing known.acquired).blocks id = some agent
    rw [blocks_put_of_ne different, found]
  have first := exists_release_iff kept
  rw [releasable_mergedWith] at first
  simp only [processMsgSessionInfo_known valid matching there found different]
  constructor
  · rintro ⟨_, middle, last, run, run', rfl⟩
    exact ⟨first.mp ⟨middle, run⟩, (exists_release_iff (apart middle run)).mp ⟨last, run'⟩⟩
  · rintro ⟨releasable, releasable'⟩
    obtain ⟨middle, run⟩ := first.mpr releasable
    obtain ⟨last, run'⟩ := (exists_release_iff (apart middle run)).mpr releasable'
    exact ⟨_, middle, last, run, run', rfl⟩

/-- The message merges the block with one of its process, if it is session information of a known process. -/
def Merges (w : World) (message : Message) : Prop :=
  message.header.type = .sessionInfo ∧ (Session.read message.body).isValid = true ∧
    w.findAgentByUuidPassive (Session.read message.body).uuid ≠ none

theorem identify_keeps (found : w.blocks id = some agent) (ses : Session) :
    ∃ after next, w.identify id ses = .ok after ∧ after.blocks id = some next ∧ next.refCount = agent.refCount := by
  have run : w.identify id ses = .ok _ := identify_ok_iff.mpr ⟨agent, found, rfl⟩
  cases setup : ses.rpcSetup with
  | true =>
    obtain ⟨_, _, _, same⟩ := listenerSuspendFd_eq (w.put id (agent.learn ses w.clock).becomeRpc) agent.iFileDesc
    rw [setup, if_pos rfl, same] at run
    exact ⟨_, (agent.learn ses w.clock).becomeRpc, run, blocks_put_self, rfl⟩
  | false =>
    rw [setup, if_neg (by simp)] at run
    exact ⟨_, (agent.learn ses w.clock).becomeControl, run, blocks_put_self, rfl⟩

/-- Every other handler returns, and keeps the references to the block. -/
theorem dispatch_of_not_merges (found : w.blocks id = some agent) (alone : ¬ w.Merges message) :
    ∃ rc after next, w.dispatch id message = .ok (rc, after) ∧ after.blocks id = some next ∧
      next.refCount = agent.refCount := by
  unfold dispatch
  cases type : message.header.type with
  | hb =>
    exact ⟨_, _, _, processMsgHb_ok_iff.mpr ⟨agent, found, rfl, rfl⟩, blocks_put_self, (w.alike_heardBy id agent _).refCount⟩
  | sessionInfo =>
    simp only [processMsgSessionInfo]
    cases valid : (Session.read message.body).isValid with
    | false => exact ⟨_, _, agent, rfl, found, rfl⟩
    | true =>
      cases matching : w.findAgentByUuidPassive (Session.read message.body).uuid with
      | some existing => exact absurd ⟨type, valid, by simp [matching]⟩ alone
      | none =>
        obtain ⟨after, next, run, there, count⟩ := identify_keeps found (Session.read message.body)
        refine ⟨.ok, after, next, ?_, there, count⟩
        simp only [Bool.not_true, Bool.false_eq_true, if_false, run, bind, Except.bind, pure, Except.pure]
  | pyRequest | pyResponse | pyEvent | rmaAck =>
    refine ⟨_, _, _, processRpc_ok_iff.mpr ⟨agent, found, rfl, rfl⟩, blocks_put_self, ?_⟩
    split <;> rfl

theorem findAgentByUuidPassive_acquired (found : w.blocks id = some agent) (uuid : Uuid) :
    (w.put id agent.acquired).findAgentByUuidPassive uuid = w.findAgentByUuidPassive uuid := by
  rw [findAgentByUuidPassive_eq, findAgentByUuidPassive_eq]
  unfold findAgent
  have same : ∀ other, ((w.put id agent.acquired).blocks other).any (fun agent =>
        decide (agent.direction = .inbound) && decide (agent.remoteUuid = uuid)) =
      (w.blocks other).any (fun agent => decide (agent.direction = .inbound) && decide (agent.remoteUuid = uuid)) := by
    intro other
    by_cases equal : other = id
    · rw [equal, blocks_put_self, found]
      rfl
    · rw [blocks_put_of_ne equal]
  simp only [same]
  rfl

/-- A handler that runs while `defw_ofi_dispatch` holds the block returns exactly if it returns without that. -/
theorem exists_dispatch_held_iff (found : w.blocks id = some agent) (held : 0 < agent.refCount) :
    (∃ rc middle after, (w.put id agent.acquired).dispatch id message = .ok (rc, middle) ∧
      middle.releaseAgentBlk id false = .ok after) ↔ ∃ result, w.dispatch id message = .ok result := by
  have found' : (w.put id agent.acquired).blocks id = some agent.acquired := blocks_put_self
  have shared : 2 ≤ agent.acquired.refCount := by
    change 2 ≤ agent.refCount + 1
    omega
  have lookup := findAgentByUuidPassive_acquired found (Session.read message.body).uuid
  have together : (w.put id agent.acquired).Merges message ↔ w.Merges message := by
    simp only [Merges, lookup]
  by_cases merges : w.Merges message
  · obtain ⟨type, valid, some⟩ := merges
    obtain ⟨existing, matching⟩ := Option.ne_none_iff_exists'.mp some
    obtain ⟨_, known, there, _⟩ := findAgentByUuidPassive_mem matching
    simp only [dispatch, type]
    by_cases same : id = existing
    · -- the assertion fails in both
      have fails : ∀ w : World, w.findAgentByUuidPassive (Session.read message.body).uuid = .some existing →
          ∀ result, w.processMsgSessionInfo id (Session.read message.body) ≠ .ok result := by
        intro w matching result run
        simp only [processMsgSessionInfo, valid, Bool.not_true, Bool.false_eq_true, if_false, matching, Except.bind_ok_iff,
          if_pos same] at run
        obtain ⟨_, _, _, _, _, _, impossible⟩ := run
        exact absurd impossible (by simp)
      exact iff_of_false (fun ⟨rc, middle, _, run, _⟩ => fails _ (lookup.trans matching) (rc, middle) run)
        (fun ⟨result, run⟩ => fails w matching result run)
    · have there' : (w.put id agent.acquired).blocks existing = .some known := by
        rw [blocks_put_of_ne (Ne.symm same)]
        exact there
      rw [exists_processMsgSessionInfo_known valid matching there found same]
      have heldRun := exists_processMsgSessionInfo_known valid (lookup.trans matching) there' found' same
      have left : ∀ rc middle, (w.put id agent.acquired).processMsgSessionInfo id (Session.read message.body) = .ok (rc, middle) →
          middle.blocks id = .some agent := by
        intro rc middle run
        obtain ⟨first, last, run1, run2, same'⟩ :=
          (processMsgSessionInfo_known valid (lookup.trans matching) there' found' same).mp run
        cases same'
        have before : first.blocks id = .some agent.acquired := by
          rw [(releaseAgentBlk_frame run1).blocks_of_ne id same]
          obtain ⟨_, _, _, resumed⟩ := listenerResumeFd_eq ((w.put id agent.acquired).put existing known.acquired)
            (resumed known.acquired (Session.read message.body))
          rw [merging, blocks_put_of_ne same, resumed]
          change ((w.put id agent.acquired).put existing known.acquired).blocks id = .some agent.acquired
          rw [blocks_put_of_ne same, found']
        rw [releaseAgentBlk_of_shared before shared] at run2
        cases run2
        exact blocks_put_self
      constructor
      · rintro ⟨rc, middle, after, run, last⟩
        exact ⟨(heldRun.mp ⟨_, run⟩).1, (exists_release_iff (left rc middle run)).mp ⟨after, last⟩⟩
      · rintro ⟨releasable, releasable'⟩
        obtain ⟨⟨rc, middle⟩, run⟩ := heldRun.mpr ⟨releasable, Block.releasable_of_shared shared⟩
        obtain ⟨after, last⟩ := (exists_release_iff (left rc middle run)).mpr releasable'
        exact ⟨rc, middle, after, run, last⟩
  · obtain ⟨rc, after, _, run, _⟩ := dispatch_of_not_merges found merges
    obtain ⟨rc', middle, next, run', there, count⟩ := dispatch_of_not_merges found' (mt together.mp merges)
    have releasable : next.Releasable := Block.releasable_of_shared (count ▸ shared)
    obtain ⟨last, run''⟩ := (exists_release_iff there).mpr releasable
    exact iff_of_true ⟨rc', middle, last, run', run''⟩ ⟨_, run⟩

theorem findAgentByUuidGlobal_remote {remote : Uuid} {blk : Option Nat} (found : w.findAgentByUuidGlobal remote blk = some id) :
    ∃ agent, w.blocks id = some agent ∧ agent.remoteUuid = remote := by
  have named : ∀ direction, w.findAgentBlkByUuid remote blk true direction = some id →
      ∃ agent, w.blocks id = some agent ∧ agent.remoteUuid = remote := by
    intro direction found
    obtain ⟨_, agent, there, accepted⟩ := findAgent_mem found
    simp only [Bool.and_eq_true, decide_eq_true_eq] at accepted
    exact ⟨agent, there, accepted.1.2⟩
  simp only [findAgentByUuidGlobal, Option.or_eq_some_iff] at found
  rcases found with first | ⟨_, second | ⟨_, third | ⟨_, fourth⟩⟩⟩
  · exact named _ first
  · exact named _ second
  · exact named _ third
  · exact named _ fourth

end World

/-- How the two receive paths deal with a frame: they reject it with one code, or hand the same to the same handler,
return the same code if they return, and return both or none. -/
inductive PathsAgree (w : World) (id : Nat) (incoming : Incoming) (buf : List UInt8) (handlerRc : DefwRc) : Prop
  | rejected (rc : DefwRc) (tcp : w.invocation id incoming = .ok (.error rc)) (ofi : w.ofiInvocation buf = .error rc)
      (tcpRc : w.processAgentMessage id incoming = .ok (rc, w)) (ofiRc : w.ofiDispatch buf handlerRc = .ok (rc, w))
  | handled (call : Invocation) (tcp : w.invocation id incoming = .ok (.ok call)) (ofi : w.ofiInvocation buf = .ok call)
      (codes : ∀ rc after rc' after', w.processAgentMessage id incoming = .ok (rc, after) →
        w.ofiDispatch buf handlerRc = .ok (rc', after') → rc = rc'.counted)
      (returns : (∃ agent, w.blocks id = some agent ∧ 0 < agent.refCount) →
        ((∃ result, w.processAgentMessage id incoming = .ok result) ↔ ∃ result, w.ofiDispatch buf handlerRc = .ok result))

/-- A process with the block of one connected peer. -/
def onePeerWorld : World :=
  { World.init (.filled 9) 0 3 with
    blocks := fun other => if other = 0 then
        some { Block.fresh ⟨1, 2⟩ 0 with remoteUuid := .filled 1, direction := .inbound, isNew := false }
      else none
    table := [0]
    nextBlock := 1 }

def zeroAck : List UInt8 := List.replicate 8 0

end DEFw.Agents
