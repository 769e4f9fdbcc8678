import DEFw.Attachments.Extract
import DEFw.Attachments.Reinject

namespace DEFw.Attachments
open Py

variable {ω : Type} {encoders : Encoders ω} {process : Process} {blkUuid : Option String}

/-- The handle of a descriptor entry; an inline entry has none. -/
def payloadHandle : Value → Option Int
  | .dict desc => (Entries.get? desc "handle").bind asInt?
  | _ => none

/-- A payload entry stands for a buffer: it holds its bytes, or a descriptor
published for them. -/
def Carries (encoders : Encoders ω) (regions : List (Descriptor × List UInt8)) (payload : Value) (buffer : Buffer) :
    Prop :=
  payload = .str (encoders.b64encode (toBytes buffer)) ∨
    ∃ desc, payload = .dict desc.entries ∧ (desc, toBytes buffer) ∈ regions

/-- The encoding of a list of attachments: one entry for each, in order, and
the published handles are those of the descriptor entries. -/
structure Encodes (encoders : Encoders ω) (encoding : Encoding) (attachments : List Buffer) : Prop where
  carried : List.Forall₂ (Carries encoders encoding.regions) encoding.payloads attachments
  published : encoding.published = encoding.payloads.filterMap payloadHandle

theorem payloadHandle_entries (desc : Descriptor) : payloadHandle (.dict desc.entries) = some desc.handle := by
  simp [payloadHandle, Descriptor.entries, Entries.get?, asInt?]

/-- One more payload, whichever way it travels. -/
theorem Encodes.step {encoding : Encoding} {attachments : List Buffer} (encodes : Encodes encoders encoding attachments)
    (ops : Option RmaOps) (threshold : Int) (buffer : Buffer) :
    Encodes encoders (encodePayload encoders ops threshold encoding buffer) (attachments ++ [buffer]) := by
  unfold encodePayload
  dsimp only
  split
  · rename_i desc _
    refine ⟨?_, ?_⟩
    · refine List.rel_append ?_ (.cons (Or.inr ⟨desc, rfl, by simp⟩) .nil)
      refine encodes.carried.imp ?_
      rintro payload other (inline | ⟨region, same, member⟩)
      · exact Or.inl inline
      · exact Or.inr ⟨region, same, List.mem_append_left _ member⟩
    · simp [encodes.published, payloadHandle_entries]
  · refine ⟨List.rel_append encodes.carried (.cons (Or.inl rfl) .nil), ?_⟩
    simp [encodes.published, payloadHandle]

theorem encodePayloads_encodes (encoders : Encoders ω) (process : Process) (blkUuid : Option String)
    (attachments : List Buffer) :
    Encodes encoders (encodePayloads encoders process blkUuid attachments) attachments := by
  unfold encodePayloads
  induction attachments using List.reverseRecOn with
  | nil => exact ⟨.nil, rfl⟩
  | append_singleton attachments buffer ih =>
    rw [List.foldl_append]
    exact ih.step _ _ buffer

/-- Fetching a descriptor gives the bytes it was published for. -/
def Served (process : Process) (blkUuid : Option String) (encoding : Encoding) : Prop :=
  ∀ desc data, (desc, data) ∈ encoding.regions → rmaFetch process desc.entries blkUuid = .ok data

theorem decodePayload_eqv {a b : Value} (same : a.eqv b = true) :
    decodePayload encoders process blkUuid a = decodePayload encoders process blkUuid b := by
  cases a with
  | dict desc =>
    obtain ⟨other, rfl⟩ := Value.eqv_dict_left same
    have field : ∀ name, descriptorField desc name = descriptorField other name := by
      intro name
      unfold descriptorField
      rcases Value.eqv_lookup same (.str name) with ⟨x, y, atX, atY, alike⟩ | ⟨atX, atY⟩
      · simp only [Entries.get?, atX, atY, asInt?_eqv alike]
      · simp only [Entries.get?, atX, atY]
    simp only [decodePayload, rmaFetch, field]
  | none | bool | int | str | other | bytes | bytearray | ndarray | list | tuple =>
    cases b <;> simp_all [Value.eqv, decodePayload]

/-- The payload entries, as they come back from the text, decode to the bytes
of the attachments. -/
theorem decodePayloads_encoded {encoding : Encoding} {attachments : List Buffer}
    (encodes : Encodes encoders encoding attachments) (served : Served process blkUuid encoding) {received : Value}
    (same : received.eqv (.list encoding.payloads) = true) :
    decodePayloads encoders process blkUuid received = .ok (attachments.map toBytes) := by
  have isList : ∃ payloads, received = .list payloads ∧
      List.Forall₂ (fun x y => Value.eqv x y = true) payloads encoding.payloads := by
    cases received <;> simp [Value.eqv, Value.eqvList_iff] at same ⊢
    exact same
  obtain ⟨payloads, rfl, pairs⟩ := isList
  have carried := encodes.carried
  have decoded : ∀ {payloads sent : List Value} {buffers : List Buffer},
      List.Forall₂ (fun x y => Value.eqv x y = true) payloads sent →
      List.Forall₂ (Carries encoders encoding.regions) sent buffers →
      List.Forall₂ (fun payload data => decodePayload encoders process blkUuid payload = .ok data) payloads
        (buffers.map toBytes) := by
    intro payloads sent buffers pairs carried
    induction pairs generalizing buffers with
    | nil =>
      cases carried
      exact .nil
    | cons alike _ ih =>
      cases carried with
      | cons carries rest =>
        refine .cons ?_ (ih rest)
        rw [decodePayload_eqv alike]
        rcases carries with rfl | ⟨desc, rfl, member⟩
        · exact encoders.b64decode_b64encode _
        · exact served desc _ member
  exact ExceptList.mapM_ok_iff.mpr (decoded pairs carried)

theorem Encodes.yamlNode {encoding : Encoding} {attachments : List Buffer}
    (encodes : Encodes encoders encoding attachments) : (Value.list encoding.payloads).All yamlNode := by
  refine Value.all_list.mpr ⟨⟨trivial, by simp⟩, ?_⟩
  have carried := encodes.carried
  generalize encoding.payloads = payloads at carried
  clear encodes
  induction carried with
  | nil => simp
  | cons carries _ ih =>
    simp only [List.forall_mem_cons]
    refine ⟨?_, ih⟩
    rcases carries with rfl | ⟨desc, rfl, _⟩
    · simp [Value.All, Value.nodes, Attachments.yamlNode, Value.distinctKeys]
    · refine Value.all_dict.mpr ⟨⟨by simp [Value.distinctKeys, Descriptor.entries], by simp⟩, ?_⟩
      simp [Descriptor.entries, Value.All, Value.nodes, Attachments.yamlNode, Value.distinctKeys]

end DEFw.Attachments
