import DEFw.Attachments.RoundTrip

namespace DEFw.Attachments
open Py

variable {ω : Type}

/-- Two loads agree: they give equal values, or both raise. -/
def SameResult : Except AttachError Value → Except AttachError Value → Prop
  | .ok left, .ok right => left.eqv right = true
  | .error _, .error _ => True
  | _, _ => False

/-- What an encode emits for a message: markers numbered in traversal order,
one payload entry for each of them in that order, and the published handles. -/
structure Emits (encoders : Encoders ω) (msg : Value) (threshold : Int) (text : ω) (encoding : Encoding) : Prop where
  indices : (markers threshold msg (extractAttachments msg threshold).1).map markerIndex =
    (List.range (extractAttachments msg threshold).2.length).map (fun i : Nat => some (i : Int))
  carried : List.Forall₂ (Carries encoders encoding.regions) encoding.payloads (extractAttachments msg threshold).2
  published : encoding.published = encoding.payloads.filterMap payloadHandle
  message : (extractAttachments msg threshold).2 ≠ [] → ∃ entries, (extractAttachments msg threshold).1 = .dict entries ∧
    text = encoders.dump (.dict (Dict.assign (.str attachDataKey) (.list encoding.payloads) entries))

theorem emits_of_encode {encoders : Encoders ω} {sender : Process} {agent : Option String} {entries : Entries}
    {threshold : Int} {text : ω} {encoding : Encoding}
    (encoded : attachEncode encoders sender (.dict entries) agent threshold = .ok (text, encoding)) :
    Emits encoders (.dict entries) threshold text encoding := by
  have indices := extract_markers threshold (.dict entries) []
  have collected := extract_attachments threshold (.dict entries) []
  rw [List.nil_append] at collected
  rw [List.length_nil, ← collected, ← List.range_eq_range'] at indices
  by_cases empty : buffers threshold (.dict entries) = []
  · rw [attachEncode_plain empty] at encoded
    cases encoded
    have nothing : (extractAttachments (.dict entries) threshold).2 = [] := collected.trans empty
    exact ⟨indices, by rw [nothing]; exact .nil, rfl, fun some => absurd nothing some⟩
  · have nonempty : (extractEntries threshold entries []).2.isEmpty = false := by
      have some : (extract threshold (.dict entries) []).2 ≠ [] := by rw [collected]; exact empty
      simpa [extract] using some
    simp only [attachEncode, extractAttachments, extract, nonempty, Bool.false_eq_true, if_false, Except.ok.injEq,
      Prod.mk.injEq] at encoded
    obtain ⟨rfl, rfl⟩ := encoded
    obtain ⟨carried, published⟩ := encodePayloads_encodes encoders sender agent (extractEntries threshold entries []).2
    exact ⟨indices, carried, published, fun _ => ⟨_, rfl, rfl⟩⟩

/-- Restoring equal messages from the same bytes agrees. -/
theorem sameResult_reinject {numpy : Option Numpy} {attachments : List (List UInt8)} {left right : Value}
    (leftFormed : left.WellFormed) (rightFormed : right.WellFormed) (same : left.eqv right = true) :
    SameResult (reinject numpy attachments left) (reinject numpy attachments right) := by
  cases atLeft : reinject numpy attachments left with
  | ok x =>
    obtain ⟨y, atRight, alike⟩ := reinject_eqv rightFormed same atLeft
    rw [atRight]
    exact alike
  | error exception =>
    cases atRight : reinject numpy attachments right with
    | error other => trivial
    | ok y =>
      obtain ⟨x, found, _⟩ := reinject_eqv leftFormed (Value.eqv_symm rightFormed same) atRight
      rw [atLeft] at found
      cases found

/-- A plain text loads to a value equal to itself. -/
theorem sameResult_load_plain {encoders : Encoders ω} {receiver : Process} {numpy : Option Numpy}
    {blkUuid : Option String} {entries : Entries} {threshold : Int} (wellFormed : (Value.dict entries).WellFormed)
    (empty : buffers threshold (.dict entries) = []) :
    SameResult (attachLoad encoders receiver numpy (encoders.dump (.dict entries)) blkUuid)
      (attachLoad encoders receiver numpy (encoders.dump (.dict entries)) blkUuid) := by
  have transformed := extract_yamlNode threshold wellFormed []
  rw [(extract_of_no_buffers empty []).1] at transformed
  obtain ⟨back, loaded, formed, same⟩ := encoders.load_dump _ wellFormed (fun node member => (transformed node member).2)
  have isDict : ∃ received, back = .dict received := by
    cases back <;> simp [Value.eqv] at same ⊢
  obtain ⟨received, rfl⟩ := isDict
  simp only [attachLoad, loaded, bind, Except.bind]
  cases Entries.get? received attachDataKey with
  | none => exact Value.eqv_refl formed
  | some payloads =>
    dsimp only
    cases decodePayloads encoders receiver blkUuid payloads with
    | error exception => trivial
    | ok attachments =>
      dsimp only [reinjectAttachments]
      have rest := wellFormed_without (.str attachDataKey) formed
      split
      · exact Value.eqv_refl rest
      · exact sameResult_reinject rest rest (Value.eqv_refl rest)

/-- RMA entry points that publish every second payload and serve its bytes. -/
def alternatingRma : RmaOps where
  available _ := some true
  publish index data := if index % 2 = 0 then some (0, some ⟨index + 1, 7, 0, data.length⟩) else some (-1, none)
  fetch _ desc := if desc.handle = 1 then (0, some [1, 2, 3]) else (-1, none)

/-- A process that hands over every payload it can. -/
def rmaProcess : Process := ⟨some alternatingRma, none, some "0"⟩

def twoPayloads : Entries := [(.str "a", .bytes [1, 2, 3]), (.str "b", .list [.bytes [4, 5]])]

end DEFw.Attachments
