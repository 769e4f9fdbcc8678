import DEFw.Attachments.Model

namespace DEFw.Attachments
open Py

mutual

/-- The buffers inside a value that travel as attachments, in the order of the
traversal. -/
def buffers (threshold : Int) : Value → List Buffer
  | .ndarray array => [.array (ascontiguousarray array)]
  | .bytes data => if threshold ≤ data.length then [.bytes data] else []
  | .bytearray data => if threshold ≤ data.length then [.bytes data] else []
  | .dict entries => buffersEntries threshold entries
  | .list items => buffersList threshold items
  | .tuple items => buffersList threshold items
  | _ => []

def buffersList (threshold : Int) : List Value → List Buffer
  | [] => []
  | item :: rest => buffers threshold item ++ buffersList threshold rest

def buffersEntries (threshold : Int) : Entries → List Buffer
  | [] => []
  | (_, value) :: rest => buffers threshold value ++ buffersEntries threshold rest

end

mutual

/-- The value that comes back from a round trip: arrays have rank at least one
and large bytearrays are bytes. -/
def restored (threshold : Int) : Value → Value
  | .ndarray array => .ndarray (ascontiguousarray array)
  | .bytearray data => if threshold ≤ data.length then .bytes data else .bytearray data
  | .dict entries => .dict (restoredEntries threshold entries)
  | .list items => .list (restoredList threshold items)
  | .tuple items => .tuple (restoredList threshold items)
  | value => value

def restoredList (threshold : Int) : List Value → List Value
  | [] => []
  | item :: rest => restored threshold item :: restoredList threshold rest

def restoredEntries (threshold : Int) : Entries → Entries
  | [] => []
  | (key, value) :: rest => (key, restored threshold value) :: restoredEntries threshold rest

end

mutual

/-- The markers an extraction put in place of buffers, found by walking the
original and the transformed value side by side. A dictionary that merely looks
like a marker is not among them. -/
def markers (threshold : Int) : Value → Value → List Value
  | .ndarray _, transformed => [transformed]
  | .bytes data, transformed => if threshold ≤ data.length then [transformed] else []
  | .bytearray data, transformed => if threshold ≤ data.length then [transformed] else []
  | .dict entries, .dict transformed => markersEntries threshold entries transformed
  | .list items, .list transformed => markersList threshold items transformed
  | .tuple items, .tuple transformed => markersList threshold items transformed
  | _, _ => []

def markersList (threshold : Int) : List Value → List Value → List Value
  | item :: rest, first :: later => markers threshold item first ++ markersList threshold rest later
  | _, _ => []

def markersEntries (threshold : Int) : Entries → Entries → List Value
  | (_, value) :: rest, (_, first) :: later => markers threshold value first ++ markersEntries threshold rest later
  | _, _ => []

end

example : buffers 2 (.dict [(.str "a", .list [.bytes [1, 2], .bytes [3]])]) = [.bytes [1, 2]] := by
  simp [buffers, buffersList, buffersEntries]

example : restored 2 (.dict [(.str "a", .list [.bytearray [1, 2]])]) = .dict [(.str "a", .list [.bytes [1, 2]])] := by
  simp [restored, restoredList, restoredEntries]

example : markers 2 (.dict [(.str "a", .list [.bytes [1, 2]])]) (.dict [(.str "a", .list [.none])]) = [.none] := by
  simp [markers, markersList, markersEntries]

/-- The attachment index a marker carries. -/
def markerIndex : Value → Option Int
  | .dict entries => (Entries.get? entries attachMarkerKey).bind asInt?
  | _ => none

theorem restoredList_eq (threshold : Int) (items : List Value) :
    restoredList threshold items = items.map (restored threshold) := by
  induction items with
  | nil => rfl
  | cons item rest ih => simp [restoredList, ih]

theorem restoredEntries_eq (threshold : Int) (entries : Entries) :
    restoredEntries threshold entries = entries.map (fun entry => (entry.1, restored threshold entry.2)) := by
  induction entries with
  | nil => rfl
  | cons entry rest ih => simp [restoredEntries, ih]

/-- The extraction appends the buffers of the value, in traversal order. -/
theorem extract_attachments (threshold : Int) (value : Value) (attachments : List Buffer) :
    (extract threshold value attachments).2 = attachments ++ buffers threshold value := by
  have ofList : ∀ items : List Value,
      (∀ item ∈ items, ∀ acc, (extract threshold item acc).2 = acc ++ buffers threshold item) →
      ∀ acc, (extractList threshold items acc).2 = acc ++ buffersList threshold items := by
    intro items each
    induction items with
    | nil => simp [extractList, buffersList]
    | cons item rest ih =>
      intro acc
      have later := ih (fun other member => each other (List.mem_cons_of_mem item member))
      simp only [extractList, later, each item List.mem_cons_self, buffersList, List.append_assoc]
  induction value using Value.induction generalizing attachments with
  | list items ih => exact ofList items ih attachments
  | tuple items ih => exact ofList items ih attachments
  | dict entries ih =>
    simp only [extract, buffers]
    induction entries generalizing attachments with
    | nil => simp [extractEntries, buffersEntries]
    | cons entry rest inner =>
      have first := ih entry List.mem_cons_self
      have later := inner (fun other member => ih other (List.mem_cons_of_mem entry member))
      simp only [extractEntries, later, first, buffersEntries, List.append_assoc]
  | bytes data | bytearray data =>
    simp only [extract, buffers]
    split <;> simp
  | none | bool | int | str | other | ndarray => simp [extract, buffers]

theorem extractEntries_attachments (threshold : Int) (entries : Entries) (attachments : List Buffer) :
    (extractEntries threshold entries attachments).2 = attachments ++ buffersEntries threshold entries :=
  extract_attachments threshold (.dict entries) attachments

theorem extractEntries_keys (threshold : Int) (entries : Entries) (attachments : List Buffer) :
    (extractEntries threshold entries attachments).1.map Prod.fst = entries.map Prod.fst := by
  induction entries generalizing attachments with
  | nil => rfl
  | cons entry rest ih => simp [extractEntries, ih]

theorem markerIndex_marker (index : Nat) (kind : String) (details : Entries) :
    markerIndex (marker index kind details) = some (index : Int) := by
  simp [markerIndex, marker, Entries.get?, asInt?]

/-- The markers carry consecutive indices in traversal order, one for each
attachment. -/
theorem extract_markers (threshold : Int) (value : Value) (attachments : List Buffer) :
    (markers threshold value (extract threshold value attachments).1).map markerIndex =
      (List.range' attachments.length (buffers threshold value).length).map (fun i : Nat => some (i : Int)) := by
  have joined : ∀ start first later : Nat,
      (List.range' start first).map (fun i : Nat => some (i : Int)) ++
        (List.range' (start + first) later).map (fun i : Nat => some (i : Int)) =
      (List.range' start (first + later)).map (fun i : Nat => some (i : Int)) := by
    intro start first later
    rw [← List.map_append, List.range'_append_1]
  have ofList : ∀ items : List Value,
      (∀ item ∈ items, ∀ acc, (markers threshold item (extract threshold item acc).1).map markerIndex =
        (List.range' acc.length (buffers threshold item).length).map (fun i : Nat => some (i : Int))) →
      ∀ acc, (markersList threshold items (extractList threshold items acc).1).map markerIndex =
        (List.range' acc.length (buffersList threshold items).length).map (fun i : Nat => some (i : Int)) := by
    intro items each
    induction items with
    | nil => simp [markersList, buffersList]
    | cons item rest ih =>
      intro acc
      have later := ih (fun other member => each other (List.mem_cons_of_mem item member))
        (extract threshold item acc).2
      rw [extract_attachments, List.length_append] at later
      simp only [extractList, markersList, buffersList, List.map_append, List.length_append,
        each item List.mem_cons_self acc, extract_attachments, later, joined]
  induction value using Value.induction generalizing attachments with
  | list items ih => exact ofList items ih attachments
  | tuple items ih => exact ofList items ih attachments
  | dict entries ih =>
    simp only [extract, buffers, markers]
    induction entries generalizing attachments with
    | nil => simp [markersEntries, buffersEntries]
    | cons entry rest inner =>
      have later := inner (fun other member => ih other (List.mem_cons_of_mem entry member))
        (extract threshold entry.2 attachments).2
      rw [extract_attachments, List.length_append] at later
      simp only [extractEntries, markersEntries, buffersEntries, List.map_append, List.length_append,
        ih entry List.mem_cons_self attachments, extract_attachments, later, joined]
  | bytes data | bytearray data =>
    simp only [extract, buffers, markers]
    split <;> simp [markerIndex_marker]
  | ndarray array => simp [extract, buffers, markers, markerIndex_marker]
  | none | bool | int | str | other => simp [markers, buffers]

/-- Without buffers the extraction changes nothing. -/
theorem extract_of_no_buffers {threshold : Int} {value : Value} (empty : buffers threshold value = [])
    (attachments : List Buffer) :
    (extract threshold value attachments).1 = value ∧ restored threshold value = value := by
  have ofList : ∀ items : List Value,
      (∀ item ∈ items, buffers threshold item = [] → ∀ acc,
        (extract threshold item acc).1 = item ∧ restored threshold item = item) →
      buffersList threshold items = [] → ∀ acc,
        (extractList threshold items acc).1 = items ∧ restoredList threshold items = items := by
    intro items each
    induction items with
    | nil => simp [extractList, restoredList]
    | cons item rest ih =>
      intro none acc
      obtain ⟨here, there⟩ := List.append_eq_nil_iff.mp none
      have first := each item List.mem_cons_self here acc
      have later := ih (fun other member => each other (List.mem_cons_of_mem item member)) there
        (extract threshold item acc).2
      simp only [extractList, restoredList, first, later, and_self]
  induction value using Value.induction generalizing attachments with
  | list items ih =>
    have same := ofList items ih empty attachments
    simp only [extract, restored, same, and_self]
  | tuple items ih =>
    have same := ofList items ih empty attachments
    simp only [extract, restored, same, and_self]
  | dict entries ih =>
    simp only [extract, restored, Value.dict.injEq]
    simp only [buffers] at empty
    induction entries generalizing attachments with
    | nil => simp [extractEntries, restoredEntries]
    | cons entry rest inner =>
      obtain ⟨here, there⟩ := List.append_eq_nil_iff.mp empty
      have first := ih entry List.mem_cons_self here attachments
      have later := inner (fun other member => ih other (List.mem_cons_of_mem entry member)) there
        (extract threshold entry.2 attachments).2
      simp only [extractEntries, restoredEntries, first, later, and_self]
  | bytes data =>
    simp only [buffers] at empty
    split at empty
    · cases empty
    · rename_i small
      simp [extract, restored, small]
  | bytearray data =>
    simp only [buffers] at empty
    split at empty
    · cases empty
    · rename_i small
      simp [extract, restored, small]
  | ndarray array => simp [buffers] at empty
  | none | bool | int | str | other => simp [extract, restored]

/-- What YAML has to represent: no arrays, and dictionaries with distinct keys. -/
def yamlNode (node : Value) : Prop := node.distinctKeys ∧ ∀ array, node ≠ .ndarray array

theorem yamlNode_marker (index : Nat) {kind : String} {details : Entries}
    (keys : (Key.str attachMarkerKey :: Key.str "kind" :: details.map Prod.fst).Nodup)
    (values : ∀ entry ∈ details, entry.2.All yamlNode) : (marker index kind details).All yamlNode := by
  refine Value.all_dict.mpr ⟨⟨by simpa [Value.distinctKeys] using keys, by simp⟩, ?_⟩
  intro entry member
  simp only [List.mem_append, List.mem_cons, List.not_mem_nil, or_false] at member
  rcases member with (rfl | rfl) | member
  · simp [Value.All, Value.nodes, yamlNode, Value.distinctKeys]
  · simp [Value.All, Value.nodes, yamlNode, Value.distinctKeys]
  · exact values entry member

theorem yamlNode_bytes_marker (index : Nat) : (marker index "bytes" []).All yamlNode :=
  yamlNode_marker index (by decide) (by simp)

/-- An extracted value is one YAML can represent. -/
theorem extract_yamlNode (threshold : Int) {value : Value} (wellFormed : value.WellFormed) (attachments : List Buffer) :
    (extract threshold value attachments).1.All yamlNode := by
  have ofList : ∀ items : List Value,
      (∀ item ∈ items, ∀ acc, (extract threshold item acc).1.All yamlNode) →
      ∀ acc, ∀ item ∈ (extractList threshold items acc).1, item.All yamlNode := by
    intro items each
    induction items with
    | nil => simp [extractList]
    | cons item rest ih =>
      intro acc
      have later := ih (fun other member => each other (List.mem_cons_of_mem item member))
      simp only [extractList, List.forall_mem_cons]
      exact ⟨each item List.mem_cons_self acc, later _⟩
  induction value using Value.induction generalizing attachments with
  | list items ih =>
    have formed := (Value.all_list.mp wellFormed).2
    refine Value.all_list.mpr ⟨⟨trivial, by simp⟩, ?_⟩
    exact ofList items (fun item member => ih item member (formed item member)) attachments
  | tuple items ih =>
    have formed := (Value.all_tuple.mp wellFormed).2
    refine Value.all_tuple.mpr ⟨⟨trivial, by simp⟩, ?_⟩
    exact ofList items (fun item member => ih item member (formed item member)) attachments
  | dict entries ih =>
    obtain ⟨nodup, formed⟩ := Value.all_dict.mp wellFormed
    refine Value.all_dict.mpr ⟨⟨?_, by simp⟩, ?_⟩
    · simp only [Value.distinctKeys, extractEntries_keys]
      exact nodup
    · clear nodup wellFormed
      induction entries generalizing attachments with
      | nil => simp [extractEntries]
      | cons entry rest inner =>
        simp only [extractEntries, List.forall_mem_cons]
        exact ⟨ih entry List.mem_cons_self (formed entry List.mem_cons_self) attachments,
          inner (fun other member => ih other (List.mem_cons_of_mem entry member)) _
            (fun other member => formed other (List.mem_cons_of_mem entry member))⟩
  | bytes data | bytearray data =>
    simp only [extract]
    split
    · exact yamlNode_bytes_marker _
    · simp [Value.All, Value.nodes, yamlNode, Value.distinctKeys]
  | ndarray array =>
    refine yamlNode_marker _ (by simp [attachMarkerKey]) ?_
    intro entry member
    simp only [List.mem_cons, List.not_mem_nil, or_false] at member
    rcases member with rfl | rfl
    · refine Value.all_list.mpr ⟨⟨trivial, by simp⟩, ?_⟩
      simp [Value.All, Value.nodes, yamlNode, Value.distinctKeys]
    · simp [Value.All, Value.nodes, yamlNode, Value.distinctKeys]
  | none | bool | int | str | other => simp [extract, Value.All, Value.nodes, yamlNode, Value.distinctKeys]

end DEFw.Attachments
