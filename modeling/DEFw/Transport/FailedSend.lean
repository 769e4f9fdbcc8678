import DEFw.Transport.Agent

namespace DEFw.Transport

/-- A log entry as a send leaves it: what was written is a beginning of the
frame, all of it just when the send returned `EN_DEFW_RC_OK`, and the handler
of the message keeps the record of the peer. -/
structure Sent.Sound (node : Node) (sent : Sent) : Prop where
  begins : sent.bytes <+: sent.message.bytes node.uuid
  whole_iff : sent.rc = .ok ↔ sent.bytes.length = (sent.message.bytes node.uuid).length
  names : sent.message.Names node.uuid

/-- After a frame was cut short nothing more is written to its connection. -/
def Stops (node : Node) (earlier later : Sent) : Prop :=
  earlier.fd = later.fd → earlier.Cut node → later.bytes = []

/-- No connection is corrupted: every frame decoded from it is a message whose
send returned `EN_DEFW_RC_OK`, and a frame that was cut short is the end of it.
`remote` is the record of the peer that the receiver starts each with. -/
structure Uncorrupted (node : Node) (remote : Nat → Uuid) (log : List Sent) : Prop where
  decoded : ∀ fd frame, .ok frame ∈ decodeAll msgProcessTbl (remote fd) (streamOf fd log) →
    ∃ sent ∈ log, sent.fd = fd ∧ sent.rc = .ok ∧ sent.message.frame node.uuid = frame
  stops : log.Pairwise (Stops node)

/-- How many bytes of its frame the socket takes in a call. -/
def Call.taken (call : Call) : Nat := call.writes.taken call.message.body.length

def Call.frameSize (call : Call) : Nat := headerSize + call.message.body.length

/-- Once the socket has failed inside a frame, it takes no byte of the calls
that follow. -/
def Spared (calls : List Call) : Prop :=
  calls.Pairwise (fun earlier later => 0 < earlier.taken → earlier.taken < earlier.frameSize → later.taken = 0)

instance (calls : List Call) : Decidable (Spared calls) :=
  inferInstanceAs (Decidable (List.Pairwise _ calls))

section Connection

variable {node : Node}

theorem Call.message_names (call : Call) (uuid : Uuid) : call.message.Names uuid := by
  intro identity
  cases isRequest : call.isRequest with
  | false => simp [message, isRequest] at identity
  | true => simp [message, isRequest] at identity

theorem sentOn_sound (fd : Nat) {message : Message} (writes : Writes) (names : message.Names node.uuid) :
    (sentOn node fd message writes).Sound node := by
  have outcome := sentOn_outcome node fd message writes
  have bytes := outcome.written
  dsimp only at bytes
  refine ⟨bytes ▸ List.take_prefix _ _, ?_, names⟩
  rw [outcome.ok_iff, bytes, List.length_take]
  have bound : writes.taken message.body.length ≤ (message.bytes node.uuid).length := by
    rw [Message.length_bytes, Writes.taken]
    have header := taken_le headerSize writes.header
    have body := taken_le message.body.length writes.body
    split
    · omega
    · omega
  change _ ↔ _ = (message.bytes node.uuid).length
  omega

theorem tcpSend_sound (agent : Agent) {message : Message} (writes : Writes) (names : message.Names node.uuid) :
    ∀ sent ∈ (tcpSend node agent message writes).2, sent.Sound node := by
  intro sent member
  rw [tcpSend] at member
  split at member
  · cases member
  · next fd _ =>
    obtain rfl := List.mem_singleton.mp member
    exact sentOn_sound fd writes names

theorem defwSend_sound (link : Link) (call : Call) : ∀ sent ∈ (defwSend node link call).2.2, sent.Sound node := by
  have message := fun agent => tcpSend_sound agent call.writes (call.message_names node.uuid)
  have session := fun agent => tcpSend_sound agent call.sessionWrites node.named
  intro sent member
  rw [defwSend] at member
  split at member
  · cases member
  · split at member
    · exact message _ sent member
    · split at member
      · cases member
      · dsimp only at member
        split at member
        · exact session _ sent member
        · rcases List.mem_append.mp member with first | second
          · exact session _ sent first
          · exact message _ sent second

theorem log_sound (link : Link) (calls : List Call) : ∀ sent ∈ (sends node).log link calls, sent.Sound node := by
  have anyCall : (sends node).Admits (fun _ _ => True) link calls :=
    Machine.admits_of_forall (sends node) (fun _ _ => trivial)
  refine Machine.run_invariant (sends node) (fun _ log => ∀ sent ∈ log, sent.Sound node) (by simp) ?_ anyCall
  intro state log call sound _ sent member
  rcases List.mem_append.mp member with before | now
  · exact sound sent before
  · exact defwSend_sound state call sent now

/-- On one connection, where nothing follows a frame that was cut short, only
messages that were sent whole are decoded. -/
theorem decoded_of_stops {entries : List Sent} {remote : Uuid} (trusts : Trusts node.uuid remote)
    (sound : ∀ sent ∈ entries, sent.Sound node)
    (stops : entries.Pairwise (fun earlier later => earlier.Cut node → later.bytes = [])) {frame : Frame}
    (decoded : .ok frame ∈ decodeAll msgProcessTbl remote (entries.flatMap Sent.bytes)) :
    ∃ sent ∈ entries, sent.rc = .ok ∧ sent.message.frame node.uuid = frame := by
  induction entries generalizing remote with
  | nil =>
    rw [List.flatMap_nil, decodeAll_waits (by decide)] at decoded
    cases decoded
  | cons sent rest ih =>
    obtain ⟨begins, whole_iff, names⟩ := sound sent List.mem_cons_self
    obtain ⟨after, later⟩ := List.pairwise_cons.mp stops
    have restSound : ∀ other ∈ rest, other.Sound node := fun other member => sound other (List.mem_cons_of_mem sent member)
    rw [List.flatMap_cons] at decoded
    by_cases nothing : sent.bytes = []
    · rw [nothing, List.nil_append] at decoded
      obtain ⟨found, member, ok, same⟩ := ih trusts restSound later decoded
      exact ⟨found, List.mem_cons_of_mem sent member, ok, same⟩
    · by_cases short : sent.bytes.length < (sent.message.bytes node.uuid).length
      · have silent : rest.flatMap Sent.bytes = [] :=
          List.flatMap_eq_nil_iff.mpr (fun other member => after other member ⟨nothing, short⟩)
        rw [silent, List.append_nil, decodeAll_partial sent.message trusts begins short] at decoded
        cases decoded
      · have whole : sent.bytes = sent.message.bytes node.uuid :=
          begins.eq_of_length (Nat.le_antisymm begins.length_le (by omega))
        rw [whole, decodeAll_message sent.message trusts] at decoded
        rcases List.mem_cons.mp decoded with first | further
        · cases first
          exact ⟨sent, List.mem_cons_self, whole_iff.mpr (by rw [whole]), rfl⟩
        · obtain ⟨found, member, ok, same⟩ := ih (msgProcessTbl_keeps names remote trusts) restSound later further
          exact ⟨found, List.mem_cons_of_mem sent member, ok, same⟩

/-- The second half of the property gives the first. -/
theorem uncorrupted_iff_stops {remote : Nat → Uuid} (trusts : ∀ fd, Trusts node.uuid (remote fd)) {log : List Sent}
    (sound : ∀ sent ∈ log, sent.Sound node) : Uncorrupted node remote log ↔ log.Pairwise (Stops node) := by
  refine ⟨Uncorrupted.stops, fun stops => ⟨?_, stops⟩⟩
  intro fd frame decoded
  have onFd : ∀ sent ∈ log.filter (fun sent => sent.fd = fd), sent ∈ log ∧ sent.fd = fd := by
    intro sent member
    simpa using List.mem_filter.mp member
  have stopsOnFd : (log.filter (fun sent => sent.fd = fd)).Pairwise
      (fun earlier later => earlier.Cut node → later.bytes = []) := by
    refine (stops.filter _).imp_of_mem ?_
    intro earlier later first second stop
    exact stop ((onFd earlier first).2.trans (onFd later second).2.symm)
  obtain ⟨sent, member, ok, same⟩ :=
    decoded_of_stops (trusts fd) (fun sent member => sound sent (onFd sent member).1) stopsOnFd decoded
  exact ⟨sent, (onFd sent member).1, (onFd sent member).2, ok, same⟩

theorem cut_sentOn_iff (fd : Nat) (call : Call) :
    (sentOn node fd call.message call.writes).Cut node ↔ 0 < call.taken ∧ call.taken < call.frameSize := by
  have bytes := (sentOn_outcome node fd call.message call.writes).written
  have size := call.message.length_bytes node.uuid
  dsimp only at bytes
  rw [Sent.Cut, ← List.length_pos_iff, bytes, List.length_take, Call.taken, Call.frameSize]
  change _ ∧ _ < (call.message.bytes node.uuid).length ↔ _
  omega

theorem bytes_sentOn_eq_nil_iff (fd : Nat) (call : Call) :
    (sentOn node fd call.message call.writes).bytes = [] ↔ call.taken = 0 := by
  have bytes := (sentOn_outcome node fd call.message call.writes).written
  have size := call.message.length_bytes node.uuid
  have positive : 0 < headerSize := by decide
  dsimp only at bytes
  rw [← List.length_eq_zero_iff, bytes, List.length_take, Call.taken]
  omega

/-- On the established connection the entries stop after a cut just when the
socket spares the calls. -/
theorem stops_connected_iff (fd : Nat) (calls : List Call) :
    (calls.map (fun call => sentOn node fd call.message call.writes)).Pairwise (Stops node) ↔ Spared calls := by
  rw [List.pairwise_map, Spared]
  refine List.Pairwise.iff ?_
  intro earlier later
  rw [Stops, cut_sentOn_iff, bytes_sentOn_eq_nil_iff, and_imp]
  exact ⟨fun stops => stops rfl, fun stops _ => stops⟩

theorem stops_opened_iff (fd : Nat) {calls : List Call} (opens : ∀ call, calls.head? = some call → call.establishes node) :
    (opened node fd calls).Pairwise (Stops node) ↔ Spared calls := by
  cases calls with
  | nil => simp [opened, Spared]
  | cons call rest =>
    have establishes := opens call rfl
    have connects : call.connects = true := by
      simp only [Call.establishes, Bool.and_eq_true] at establishes
      exact establishes.1
    have ok := (call.establishes_iff node fd connects).mp establishes
    have whole := (sentOn_sound fd call.sessionWrites node.named).whole_iff.mp ok
    rw [opened, List.pairwise_cons, stops_connected_iff]
    refine and_iff_right ?_
    intro sent _ _ cut
    exact absurd cut.2 (by omega)

theorem established_head {calls : List Call} {call : Call} (head : (established node false calls).head? = some call) :
    call.establishes node = true := by
  have fails := List.head?_dropWhile_not (fun call : Call => !call.establishes node) calls
  simp only [established, Bool.false_eq_true, if_false] at head
  rw [head] at fails
  simpa using fails

/-- No connection is corrupted exactly when, among the calls that send on the
established channel, the socket takes nothing after it has failed inside a
frame: the sender itself goes on writing to the connection. -/
theorem uncorrupted_iff_spared (node : Node) (remote : Nat → Uuid) (trusts : ∀ fd, Trusts node.uuid (remote fd))
    (connected : Bool) (calls : List Call) :
    Uncorrupted node remote ((sends node).log (Link.start connected) calls) ↔
      Spared (established node connected calls) := by
  rw [uncorrupted_iff_stops trusts (log_sound _ calls)]
  cases connected with
  | true =>
    rw [Link.start, log_connected]
    exact stops_connected_iff 0 calls
  | false =>
    obtain ⟨tried, fd, log, distinct, bounds, _⟩ := log_unconnected node none 0 calls
    rw [Link.start, log, List.pairwise_append, ← stops_opened_iff fd (fun call => established_head)]
    refine ⟨fun parts => parts.2.1, fun stops => ⟨?_, stops, ?_⟩⟩
    · exact distinct.imp (fun different same => absurd same different)
    · intro earlier first later second same
      have below := (bounds earlier first).2
      have here : later.fd = fd := by
        cases calls' : established node false calls with
        | nil => rw [calls'] at second; cases second
        | cons call rest =>
          rw [calls', opened] at second
          rcases List.mem_cons.mp second with rfl | second
          · rfl
          · obtain ⟨_, _, rfl⟩ := List.mem_map.mp second
            rfl
      omega

end Connection

/-- A process whose session information has the node type of an agent. -/
def agentNode : Node where
  uuid := Uuid.filled 7
  session :=
    { type := .sessionInfo
      body := (Uuid.filled 7).bytes ++ (List.replicate 16 0 ++ BigEndian.bytes 4 2 ++ List.replicate 2320 0)
      short := by
        rw [List.length_append, List.length_append, List.length_append, Uuid.size, List.length_replicate,
          BigEndian.length_bytes, List.length_replicate]
        decide }
  named _ := ⟨_, rfl⟩

/-- A request that the socket takes whole. -/
def wholeRequest : Call := ⟨true, [98], by decide, true, ⟨[], []⟩, ⟨[], []⟩⟩

/-- A request whose header is taken and whose body is not. -/
def cutRequest : Call := ⟨true, List.replicate 29 97, by decide, true, ⟨[], []⟩, ⟨[.accepted 20], [.failed]⟩⟩

/-- A request of which nothing is taken. -/
def refusedRequest : Call := ⟨true, [99], by decide, true, ⟨[], []⟩, ⟨[.interrupted, .failed], []⟩⟩

theorem uncorrupted_iff_spared_refused :
    Uncorrupted agentNode (fun _ => Uuid.filled 0)
      ((sends agentNode).log (Link.start true) [wholeRequest, cutRequest, refusedRequest]) :=
  (uncorrupted_iff_spared agentNode (fun _ => Uuid.filled 0) (fun _ => .inl rfl) true
    [wholeRequest, cutRequest, refusedRequest]).mpr
    (show Spared [wholeRequest, cutRequest, refusedRequest] by decide)

/-- The peer takes the next message for the body of the one that was cut. -/
def mixedMessage : Message := ⟨.pyRequest, wholeRequest.message.bytes (Uuid.filled 7), by decide⟩

/-- After a send that fails inside its frame the next one returns
`EN_DEFW_RC_OK`, and the peer decodes a frame that nobody sent. -/
theorem cut_frame_filled_by_next :
    ((sends agentNode).log (Link.start true) [cutRequest, wholeRequest]).map Sent.rc = [.sysErr, .ok] ∧
    decodeAll msgProcessTbl (Uuid.filled 0)
        (streamOf 0 ((sends agentNode).log (Link.start true) [cutRequest, wholeRequest])) =
      [.ok (mixedMessage.frame (Uuid.filled 7))] ∧
    (∀ sent ∈ (sends agentNode).log (Link.start true) [cutRequest, wholeRequest],
      sent.message.frame (Uuid.filled 7) ≠ mixedMessage.frame (Uuid.filled 7)) ∧
    ¬ Uncorrupted agentNode (fun _ => Uuid.filled 0)
      ((sends agentNode).log (Link.start true) [cutRequest, wholeRequest]) := by
  have stream : streamOf 0 ((sends agentNode).log (Link.start true) [cutRequest, wholeRequest]) =
      mixedMessage.bytes (Uuid.filled 7) ++ [] := by decide +kernel
  have decoded : decodeAll msgProcessTbl (Uuid.filled 0)
      (streamOf 0 ((sends agentNode).log (Link.start true) [cutRequest, wholeRequest])) =
      [.ok (mixedMessage.frame (Uuid.filled 7))] := by
    rw [stream, decodeAll_message mixedMessage (.inl rfl), decodeAll_waits (by decide)]
  have unsent : ∀ sent ∈ (sends agentNode).log (Link.start true) [cutRequest, wholeRequest],
      sent.message.frame (Uuid.filled 7) ≠ mixedMessage.frame (Uuid.filled 7) := by decide +kernel
  refine ⟨by decide +kernel, decoded, unsent, fun uncorrupted => ?_⟩
  obtain ⟨sent, member, _, _, same⟩ := uncorrupted.decoded 0 (mixedMessage.frame (Uuid.filled 7))
    (by rw [decoded]; exact List.mem_singleton.mpr rfl)
  exact unsent sent member same

end DEFw.Transport
