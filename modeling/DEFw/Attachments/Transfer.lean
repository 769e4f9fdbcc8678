import DEFw.Attachments.Payloads

namespace DEFw.Attachments
open Py

variable {ω : Type} {encoders : Encoders ω} {sender process : Process} {agent blkUuid : Option String}

theorem lookup_without {key other : Key} (different : other ≠ key) (entries : Entries) :
    (without key entries).lookup other = entries.lookup other := by
  unfold without
  induction entries with
  | nil => rfl
  | cons entry rest ih =>
    obtain ⟨name, value⟩ := entry
    by_cases dropped : name = key
    · have elsewhere : other ≠ name := by
        rw [dropped]
        exact different
      rw [List.filter_cons_of_neg (by simp [dropped]), ih, Dict.lookup_cons_if, if_neg elsewhere]
    · rw [List.filter_cons_of_pos (by simp [dropped]), Dict.lookup_cons_if, ih, Dict.lookup_cons_if]

theorem mem_keys_without {key other : Key} {entries : Entries} :
    other ∈ (without key entries).map Prod.fst ↔ other ∈ entries.map Prod.fst ∧ other ≠ key := by
  simp only [without, List.mem_map, List.mem_filter, Bool.not_eq_true', beq_eq_false_iff_ne]
  constructor
  · rintro ⟨entry, ⟨member, different⟩, rfl⟩
    exact ⟨⟨entry, member, rfl⟩, different⟩
  · rintro ⟨⟨entry, member, rfl⟩, different⟩
    exact ⟨entry, ⟨member, different⟩, rfl⟩

theorem without_of_absent {key : Key} {entries : Entries} (absent : key ∉ entries.map Prod.fst) :
    without key entries = entries := by
  refine List.filter_eq_self.mpr ?_
  intro entry member
  have different : entry.1 ≠ key := by
    rintro rfl
    exact absent (List.mem_map_of_mem member)
  simpa using different

theorem all_without {holds : Value → Prop} {key : Key} {entries : Entries}
    (all : (Value.dict entries).All holds) (here : holds (.dict (without key entries))) :
    (Value.dict (without key entries)).All holds := by
  refine Value.all_dict.mpr ⟨here, ?_⟩
  intro entry member
  exact (Value.all_dict.mp all).2 entry (List.mem_filter.mp member).1

theorem wellFormed_without (key : Key) {entries : Entries} (wellFormed : (Value.dict entries).WellFormed) :
    (Value.dict (without key entries)).WellFormed := by
  refine all_without wellFormed ?_
  have nodup := (Value.all_dict.mp wellFormed).1
  exact nodup.sublist (List.filter_sublist.map Prod.fst)

/-- Received entries equal to an assignment: the assigned value can be popped
and leaves the entries assigned to. -/
theorem eqv_pop {received entries : Entries} {key : Key} {value : Value}
    (same : (Value.dict received).eqv (.dict (Dict.assign key value entries)) = true) :
    (∃ popped, received.lookup key = some popped ∧ popped.eqv value = true) ∧
      (Value.dict (without key received)).eqv (.dict (without key entries)) = true := by
  refine ⟨?_, ?_⟩
  · have assigned : (Dict.assign key value entries).lookup key = some value := by simp [Dict.lookup_assign]
    rcases Value.eqv_lookup same key with ⟨popped, other, atPopped, atOther, alike⟩ | ⟨_, absent⟩
    · rw [assigned] at atOther
      cases atOther
      exact ⟨popped, atPopped, alike⟩
    · rw [assigned] at absent
      cases absent
  · obtain ⟨forward, home⟩ := Value.eqv_dict_iff.mp same
    refine Value.eqv_dict_iff.mpr ⟨?_, ?_⟩
    · intro entry member
      obtain ⟨inside, kept⟩ := List.mem_filter.mp member
      have different : entry.1 ≠ key := by simpa using kept
      obtain ⟨found, atFound, alike⟩ := forward entry inside
      rw [Dict.lookup_assign, if_neg different] at atFound
      exact ⟨found, by rw [lookup_without different]; exact atFound, alike⟩
    · intro other member
      obtain ⟨inside, different⟩ := mem_keys_without.mp member
      exact mem_keys_without.mpr ⟨home other (Dict.mem_assign_keys.mpr (Or.inr inside)), different⟩

theorem all_assign (key : Key) {value : Value} {entries : Entries} (all : (Value.dict entries).All yamlNode)
    (ofValue : value.All yamlNode) : (Value.dict (Dict.assign key value entries)).All yamlNode := by
  obtain ⟨distinct, members⟩ := Value.all_dict.mp all
  refine Value.all_dict.mpr ⟨⟨Dict.assign_nodup distinct.1, by simp⟩, ?_⟩
  clear all distinct
  induction entries with
  | nil => simpa [Dict.assign] using ofValue
  | cons entry rest ih =>
    obtain ⟨name, old⟩ := entry
    simp only [List.forall_mem_cons] at members
    unfold Dict.assign
    split
    · simp only [List.forall_mem_cons]
      exact ⟨ofValue, members.2⟩
    · simp only [List.forall_mem_cons]
      exact ⟨members.1, ih members.2⟩

theorem attachEncode_dict (encoders : Encoders ω) (sender : Process) (entries : Entries) (agent : Option String)
    (threshold : Int) :
    ∃ text encoding, attachEncode encoders sender (.dict entries) agent threshold = .ok (text, encoding) := by
  simp only [attachEncode, extractAttachments, extract]
  by_cases empty : (extractEntries threshold entries []).2.isEmpty = true
  · exact ⟨_, _, if_pos empty⟩
  · exact ⟨_, _, if_neg empty⟩

/-- What comes back from the text: the message with its markers, up to the
order of dictionaries, and the bytes of the attachments to restore. -/
theorem attachLoad_encoded (numpy : Option Numpy) {entries : Entries} {threshold : Int} {text : ω} {encoding : Encoding}
    (wellFormed : (Value.dict entries).WellFormed) (some_buffer : buffers threshold (.dict entries) ≠ [])
    (encoded : attachEncode encoders sender (.dict entries) agent threshold = .ok (text, encoding))
    (served : Served process blkUuid encoding) :
    ∃ rest, (Value.dict rest).WellFormed ∧
      (Value.dict rest).eqv (.dict (without (.str attachDataKey) (extractEntries threshold entries []).1)) = true ∧
      attachLoad encoders process numpy text blkUuid =
        reinject numpy ((buffers threshold (.dict entries)).map toBytes) (.dict rest) := by
  have attachments : (extractEntries threshold entries []).2 = buffers threshold (.dict entries) := by
    simpa [buffers] using extractEntries_attachments threshold entries []
  have nonempty : (extractEntries threshold entries []).2.isEmpty = false := by
    rw [attachments]
    simpa using some_buffer
  simp only [attachEncode, extractAttachments, extract, nonempty, Bool.false_eq_true, if_false, Except.ok.injEq,
    Prod.mk.injEq] at encoded
  obtain ⟨rfl, rfl⟩ := encoded
  have encodes : Encodes encoders (encodePayloads encoders sender agent (extractEntries threshold entries []).2)
      (buffers threshold (.dict entries)) := by
    rw [attachments]
    exact encodePayloads_encodes ..
  have transformed : (Value.dict (extractEntries threshold entries []).1).All yamlNode :=
    extract_yamlNode threshold wellFormed []
  have dumped := all_assign (.str attachDataKey) transformed encodes.yamlNode
  obtain ⟨back, loaded, formed, same⟩ := encoders.load_dump _ (fun node member => (dumped node member).1)
    (fun node member => (dumped node member).2)
  have isDict : ∃ received, back = .dict received := by
    cases back <;> simp [Value.eqv] at same ⊢
  obtain ⟨received, rfl⟩ := isDict
  obtain ⟨⟨popped, atPopped, payloads⟩, rest⟩ := eqv_pop same
  refine ⟨without (.str attachDataKey) received, wellFormed_without _ formed, rest, ?_⟩
  have decoded := decodePayloads_encoded encodes served payloads
  have some_bytes : ((buffers threshold (.dict entries)).map toBytes).isEmpty = false := by simpa using some_buffer
  simp only [attachLoad, loaded, bind, Except.bind, Entries.get?, atPopped, decoded, reinjectAttachments, some_bytes,
    Bool.false_eq_true, if_false]

/-- A message without buffers is the plain text of the message. -/
theorem attachEncode_plain {entries : Entries} {threshold : Int} (empty : buffers threshold (.dict entries) = []) :
    attachEncode encoders sender (.dict entries) agent threshold = .ok (encoders.dump (.dict entries), ⟨[], [], []⟩) := by
  have attachments : (extractEntries threshold entries []).2 = [] := by
    rw [extractEntries_attachments, List.nil_append]
    exact empty
  have same : (extractEntries threshold entries []).1 = entries := by
    simpa [extract] using (extract_of_no_buffers empty []).1
  simp [attachEncode, extractAttachments, extract, attachments, same]

end DEFw.Attachments
