import DEFw.Attachments.Transfer

namespace DEFw.Attachments
open Py

/-- A dtype that numpy reads back from its own name. -/
def Numpy.Plain (numpy : Numpy) (dtype : DType) : Prop :=
  numpy.dtype (.str dtype.name) = some dtype ∧ 0 < dtype.itemsize

def plainArray (numpy : Numpy) (node : Value) : Prop := ∀ array, node = .ndarray array → numpy.Plain array.dtype

/-- The node is not a dictionary that uses a reserved key. -/
def unreserved (node : Value) : Prop :=
  ∀ entries, node = .dict entries →
    Key.str attachMarkerKey ∉ entries.map Prod.fst ∧ Key.str attachDataKey ∉ entries.map Prod.fst

/-- The node is not an array of rank 0. -/
def ranked (node : Value) : Prop := ∀ array, node = .ndarray array → array.shape ≠ []

theorem ascontiguousarray_dtype (array : NdArray) : (ascontiguousarray array).dtype = array.dtype := by
  unfold ascontiguousarray
  split <;> rfl

theorem ascontiguousarray_eq_iff {array : NdArray} : ascontiguousarray array = array ↔ array.shape ≠ [] := by
  unfold ascontiguousarray
  split
  · rename_i scalar
    simp only [scalar, ne_eq, not_true_eq_false, iff_false]
    intro same
    have shape := congrArg NdArray.shape same
    rw [scalar] at shape
    cases shape
  · rename_i ranked
    simp [ranked]

theorem mapM_asInt?_dims (shape : List Nat) :
    (shape.map (fun dim : Nat => Value.int dim)).mapM asInt? = some (shape.map (fun dim : Nat => (dim : Int))) := by
  induction shape with
  | nil => rfl
  | cons dim rest ih => simp [ih, asInt?]

theorem shapeFor_dims (size : Nat) (shape : List Nat) :
    shapeFor size (shape.map (fun dim : Nat => (dim : Int))) = shape := by
  unfold shapeFor
  rw [List.map_map]
  refine (List.map_congr_left ?_).trans (List.map_id shape)
  intro dim _
  have notInferred : (dim : Int) ≠ -1 := by omega
  simp [notInferred]

theorem legalDims_dims (shape : List Nat) : legalDims (shape.map (fun dim : Nat => (dim : Int))) = true := by
  have inferred : (shape.map (fun dim : Nat => (dim : Int))).count (-1) = 0 := by
    refine List.count_eq_zero.mpr ?_
    simp
  have atLeast : ∀ dim ∈ shape.map (fun dim : Nat => (dim : Int)), -1 ≤ dim := by
    intro dim member
    obtain ⟨n, _, rfl⟩ := List.mem_map.mp member
    omega
  have bounded : (shape.map (fun dim : Nat => (dim : Int))).all (fun dim => -1 ≤ dim) = true := by
    simpa only [List.all_eq_true, decide_eq_true_eq] using atLeast
  simp only [legalDims, inferred, bounded]
  rfl

/-- Shape, dtype name and bytes rebuild the array. -/
theorem frombuffer_reshape {numpy : Numpy} {array : NdArray} (plain : numpy.Plain array.dtype) :
    ∃ flat, numpy.frombuffer array.data (.str array.dtype.name) = .ok flat ∧
      reshape flat (.list (array.shape.map (fun dim : Nat => .int dim))) = .ok array := by
  obtain ⟨named, positive⟩ := plain
  have full := array.full
  have whole : array.data.length % array.dtype.itemsize = 0 := by
    rw [full]
    exact Nat.mul_mod_left _ _
  have count : array.data.length / array.dtype.itemsize = array.shape.prod := by
    rw [full]
    exact Nat.mul_div_cancel _ positive
  have split : array.data.length % array.dtype.itemsize = 0 ∧ array.dtype.itemsize ≠ 0 := ⟨whole, positive.ne'⟩
  refine ⟨_, by simp only [Numpy.frombuffer, named, dif_pos split]; rfl, ?_⟩
  have fits : array.shape.prod = [array.data.length / array.dtype.itemsize].prod := by simp [count]
  simp only [reshape, dims?, mapM_asInt?_dims, shapeFor_dims, legalDims_dims]
  rw [dif_pos ⟨fits, trivial⟩]

section Value

variable {numpy : Numpy} (threshold : Int)

theorem attachmentAt_append (before later : List Buffer) (buffer : Buffer) :
    attachmentAt ((before ++ buffer :: later).map toBytes) (.int before.length) = .ok (toBytes buffer) := by
  have position : ((before ++ buffer :: later).map toBytes)[before.length]? = some (toBytes buffer) := by
    simp
  have nonneg : ¬((before.length : Int) < 0) := by omega
  simp only [attachmentAt, asInt?, if_neg nonneg, Int.toNat_natCast, position]

/-- The entries of a marker. -/
def markerEntries (index : Nat) (kind : String) (details : Entries) : Entries :=
  [(.str attachMarkerKey, .int index), (.str "kind", .str kind)] ++ details

theorem reinject_marker (numpy : Option Numpy) (attachments : List (List UInt8)) (index : Nat) (kind : String)
    (details : Entries) :
    reinject numpy attachments (marker index kind details) =
      restore numpy attachments (markerEntries index kind details) (.int index) := by
  simp only [marker, reinject]
  rfl

theorem restore_bytes (before later : List Buffer) (data : List UInt8) :
    reinject (some numpy) ((before ++ .bytes data :: later).map toBytes) (marker before.length "bytes" []) =
      .ok (.bytes data) := by
  have found := attachmentAt_append before later (.bytes data)
  have kind : (markerEntries before.length "bytes" []).get? "kind" = some (.str "bytes") := rfl
  rw [reinject_marker, restore, found, kind]
  rfl

theorem restore_array (before later : List Buffer) {array : NdArray} (plain : numpy.Plain array.dtype) :
    reinject (some numpy) ((before ++ .array array :: later).map toBytes)
      (marker before.length "ndarray"
        [(.str "shape", .list (array.shape.map (fun dim : Nat => .int dim))), (.str "dtype", .str array.dtype.name)]) =
      .ok (.ndarray array) := by
  have found := attachmentAt_append before later (.array array)
  obtain ⟨flat, read, reshaped⟩ := frombuffer_reshape plain
  generalize Value.list (array.shape.map (fun dim : Nat => .int dim)) = shape at reshaped
  have kind : (markerEntries before.length "ndarray"
      [(.str "shape", shape), (.str "dtype", .str array.dtype.name)]).get? "kind" = some (.str "ndarray") := rfl
  have atShape : (markerEntries before.length "ndarray"
      [(.str "shape", shape), (.str "dtype", .str array.dtype.name)]).get? "shape" = some shape := rfl
  have atDtype : (markerEntries before.length "ndarray"
      [(.str "shape", shape), (.str "dtype", .str array.dtype.name)]).get? "dtype" =
        some (.str array.dtype.name) := rfl
  have isArray : ((some (Value.str "ndarray")).getD .none).pyEq (.str "ndarray") = true := rfl
  rw [reinject_marker]
  simp only [restore, found, kind, isArray, atShape, atDtype, toBytes, bind, Except.bind, if_true, read, reshaped]
  rfl

/-- Extraction is undone, whatever was extracted before and is later. -/
def Undone (numpy : Numpy) (threshold : Int) (value : Value) : Prop :=
  ∀ before later, reinject (some numpy) ((before ++ buffers threshold value ++ later).map toBytes)
    (extract threshold value before).1 = .ok (restored threshold value)

theorem reinjectList_extract {items : List Value} (each : ∀ item ∈ items, Undone numpy threshold item)
    (before later : List Buffer) :
    reinjectList (some numpy) ((before ++ buffersList threshold items ++ later).map toBytes)
      (extractList threshold items before).1 = .ok (restoredList threshold items) := by
  induction items generalizing before with
  | nil => simp [extractList, restoredList, reinjectList]
  | cons item rest ih =>
    have here := each item List.mem_cons_self before (buffersList threshold rest ++ later)
    have there := ih (fun other member => each other (List.mem_cons_of_mem item member))
      (before ++ buffers threshold item)
    simp only [List.append_assoc] at here there
    simp only [extractList, extract_attachments, reinjectList, restoredList, buffersList, List.append_assoc, here,
      there, bind, Except.bind, pure, Except.pure]

theorem reinjectEntries_extract {entries : Entries} (each : ∀ entry ∈ entries, Undone numpy threshold entry.2)
    (before later : List Buffer) :
    reinjectEntries (some numpy) ((before ++ buffersEntries threshold entries ++ later).map toBytes)
      (extractEntries threshold entries before).1 = .ok (restoredEntries threshold entries) := by
  induction entries generalizing before with
  | nil => simp [extractEntries, restoredEntries, reinjectEntries]
  | cons entry rest ih =>
    have here := each entry List.mem_cons_self before (buffersEntries threshold rest ++ later)
    have there := ih (fun other member => each other (List.mem_cons_of_mem entry member))
      (before ++ buffers threshold entry.2)
    simp only [List.append_assoc] at here there
    simp only [extractEntries, extract_attachments, reinjectEntries, restoredEntries, buffersEntries,
      List.append_assoc, here, there, bind, Except.bind, pure, Except.pure]

/-- Extraction followed by restoration, in the middle of a longer list of
attachments. -/
theorem reinject_extract {value : Value} (free : value.All unreserved) (plain : value.All (plainArray numpy))
    (before later : List Buffer) :
    reinject (some numpy) ((before ++ buffers threshold value ++ later).map toBytes) (extract threshold value before).1 =
      .ok (restored threshold value) := by
  induction value using Value.induction generalizing before later with
  | list items ih =>
    have members := reinjectList_extract threshold (fun item member => ih item member
      ((Value.all_list.mp free).2 item member) ((Value.all_list.mp plain).2 item member)) before later
    simp only [extract, reinject, buffers, restored, members, Except.map]
  | tuple items ih =>
    have members := reinjectList_extract threshold (fun item member => ih item member
      ((Value.all_tuple.mp free).2 item member) ((Value.all_tuple.mp plain).2 item member)) before later
    simp only [extract, reinject, buffers, restored, members, Except.map]
  | dict entries ih =>
    obtain ⟨own, freeMembers⟩ := Value.all_dict.mp free
    have plainMembers := (Value.all_dict.mp plain).2
    have noMarker : Entries.get? (extractEntries threshold entries before).1 attachMarkerKey = none := by
      rw [Entries.get?, ← Option.not_isSome_iff_eq_none, Value.lookup_isSome, extractEntries_keys]
      exact (own entries rfl).1
    have members := reinjectEntries_extract threshold (fun entry member => ih entry member
      (freeMembers entry member) (plainMembers entry member)) before later
    simp only [extract, reinject, noMarker, buffers, restored, members, Except.map]
  | bytes data =>
    simp only [extract, buffers, restored]
    split
    · rw [List.append_assoc]
      exact restore_bytes before later data
    · rfl
  | bytearray data =>
    simp only [extract, buffers, restored]
    split
    · rw [List.append_assoc]
      exact restore_bytes before later data
    · rfl
  | ndarray array =>
    have ofArray : numpy.Plain (ascontiguousarray array).dtype := by
      rw [ascontiguousarray_dtype]
      exact plain.self array rfl
    simp only [extract, buffers, restored]
    rw [List.append_assoc]
    exact restore_array before later ofArray
  | none | bool | int | str | other => rfl

/-- A round trip keeps a value exactly when it holds no array of rank 0. -/
theorem restored_eqv_iff {value : Value} (wellFormed : value.WellFormed) :
    (restored threshold value).eqv value = true ↔ value.All ranked := by
  have ofList : ∀ items : List Value,
      (∀ item ∈ items, (restored threshold item).eqv item = true ↔ item.All ranked) →
      (Value.eqvList (restoredList threshold items) items = true ↔ ∀ item ∈ items, item.All ranked) := by
    intro items each
    rw [restoredList_eq, Value.eqvList_iff, List.forall₂_map_left_iff, List.forall₂_same]
    exact forall₂_congr each
  induction value using Value.induction with
  | list items ih =>
    have members := (Value.all_list.mp wellFormed).2
    rw [Value.all_list, ← ofList items (fun item member => ih item member (members item member))]
    simp [restored, Value.eqv, ranked]
  | tuple items ih =>
    have members := (Value.all_tuple.mp wellFormed).2
    rw [Value.all_tuple, ← ofList items (fun item member => ih item member (members item member))]
    simp [restored, Value.eqv, ranked]
  | dict entries ih =>
    obtain ⟨nodup, members⟩ := Value.all_dict.mp wellFormed
    have lookup : ∀ entry ∈ entries, entries.lookup entry.1 = some entry.2 :=
      fun entry member => Value.lookup_of_mem nodup member
    rw [Value.all_dict]
    simp only [restored, restoredEntries_eq, Value.eqv_dict_iff]
    constructor
    · rintro ⟨forward, _⟩
      refine ⟨by simp [ranked], ?_⟩
      intro entry member
      obtain ⟨found, atFound, same⟩ := forward (entry.1, restored threshold entry.2) (List.mem_map_of_mem member)
      rw [lookup entry member] at atFound
      cases atFound
      exact (ih entry member (members entry member)).mp same
    · rintro ⟨_, each⟩
      refine ⟨?_, by simp⟩
      intro result member
      obtain ⟨entry, atEntry, rfl⟩ := List.mem_map.mp member
      exact ⟨entry.2, lookup entry atEntry, (ih entry atEntry (members entry atEntry)).mpr (each entry atEntry)⟩
  | ndarray array =>
    simp only [restored, Value.eqv, beq_iff_eq, ascontiguousarray_eq_iff]
    simp [Value.All, Value.nodes, ranked]
  | bytearray data =>
    simp only [restored]
    split <;> simp [Value.eqv, Value.All, Value.nodes, ranked]
  | none | bool | int | str | other | bytes => simp [restored, Value.eqv, Value.All, Value.nodes, ranked]

end Value

/-- Every dictionary message is encoded. For one without reserved keys whose
arrays have plain dtypes, loading the text gives the message back exactly when
it holds no array of rank 0. -/
theorem attach_round_trip_iff {ω : Type} (encoders : Encoders ω) (numpy : Numpy) (sender receiver : Process)
    (agent blkUuid : Option String) (threshold : Int) (entries : Entries)
    (wellFormed : (Value.dict entries).WellFormed) (free : (Value.dict entries).All unreserved)
    (plain : (Value.dict entries).All (plainArray numpy)) :
    ∃ text encoding, attachEncode encoders sender (.dict entries) agent threshold = .ok (text, encoding) ∧
      (Served receiver blkUuid encoding →
        ((∃ back, attachLoad encoders receiver (some numpy) text blkUuid = .ok back ∧ back.eqv (.dict entries) = true) ↔
          (Value.dict entries).All ranked)) := by
  obtain ⟨text, encoding, encoded⟩ := attachEncode_dict encoders sender entries agent threshold
  refine ⟨text, encoding, encoded, ?_⟩
  intro served
  have noData : Key.str attachDataKey ∉ entries.map Prod.fst := (free.self entries rfl).2
  have transformed := extract_yamlNode threshold wellFormed []
  by_cases empty : buffers threshold (.dict entries) = []
  · -- Nothing was extracted, so the text is that of the message and the data key is absent.
    rw [(extract_of_no_buffers empty []).1] at transformed
    rw [attachEncode_plain empty] at encoded
    cases encoded
    have noArrays : (Value.dict entries).All (fun node => ∀ array, node ≠ .ndarray array) :=
      fun node member => (transformed node member).2
    obtain ⟨back, loaded, _, same⟩ := encoders.load_dump _ wellFormed noArrays
    have isDict : ∃ received, back = .dict received := by
      cases back <;> simp [Value.eqv] at same ⊢
    obtain ⟨received, rfl⟩ := isDict
    have absent : Entries.get? received attachDataKey = none := by
      rw [Entries.get?]
      rcases Value.eqv_lookup same (.str attachDataKey) with ⟨_, value, _, present, _⟩ | ⟨absent, _⟩
      · exact absurd (Value.lookup_isSome.mp (by rw [present]; rfl)) noData
      · exact absent
    have result : attachLoad encoders receiver (some numpy) (encoders.dump (.dict entries)) blkUuid =
        .ok (.dict received) := by
      simp [attachLoad, loaded, bind, Except.bind, absent, pure, Except.pure]
    refine ⟨fun _ node member array isArray => absurd isArray (noArrays node member array), fun _ => ?_⟩
    exact ⟨.dict received, result, same⟩
  · obtain ⟨rest, formed, same, result⟩ := attachLoad_encoded (some numpy) wellFormed empty encoded served
    rw [without_of_absent (by rw [extractEntries_keys]; exact noData)] at same
    have newFormed : (Value.dict (extractEntries threshold entries []).1).WellFormed :=
      fun node member => (transformed node member).1
    have restores : reinject (some numpy) ((buffers threshold (.dict entries)).map toBytes)
        (.dict (extractEntries threshold entries []).1) = .ok (restored threshold (.dict entries)) := by
      simpa [extract] using reinject_extract threshold free plain [] []
    obtain ⟨back, atBack, forth⟩ := reinject_eqv formed (Value.eqv_symm newFormed same) restores
    obtain ⟨again, atAgain, home⟩ := reinject_eqv newFormed same atBack
    rw [restores] at atAgain
    cases atAgain
    rw [result, atBack, ← restored_eqv_iff threshold wellFormed]
    constructor
    · rintro ⟨other, isBack, equal⟩
      cases isBack
      exact Value.eqv_trans forth equal
    · intro equal
      exact ⟨back, rfl, Value.eqv_trans home equal⟩

theorem ofNat_charOfNat (byte : UInt8) : UInt8.ofNat (Char.ofNat byte.toNat).toNat = byte := by
  have valid : byte.toNat.isValidChar := by
    have bound := byte.toNat_lt
    left
    omega
  have same : (Char.ofNat byte.toNat).toNat = byte.toNat := by
    simp [Char.ofNat, valid, Char.ofNatAux, Char.toNat]
  rw [same, UInt8.ofNat_toNat]

/-- Encoders that keep the message as it is and write one character for each
payload byte. -/
def identityEncoders : Encoders Value where
  dump value := value
  load value := .ok value
  b64encode data := String.ofList (data.map (fun byte => Char.ofNat byte.toNat))
  b64decode text := .ok (text.toList.map (fun char => UInt8.ofNat char.toNat))
  load_dump value wellFormed _ := ⟨value, rfl, wellFormed, Value.eqv_refl wellFormed⟩
  b64decode_b64encode data := by simp [Function.comp_def, ofNat_charOfNat]

def float64 : DType := ⟨"float64", 8⟩

def readFloat64 : Value → Option DType
  | .str "float64" => some float64
  | _ => none

def numpyFloat64 : Numpy where
  dtype := readFloat64
  dtype_eqv a b same := by cases a <;> cases b <;> simp_all [Value.eqv, readFloat64]

/-- A process without RMA entry points. -/
def plainProcess : Process := ⟨none, none, none⟩

/-- An array without items and an array inside a tuple. -/
def arraysMessage : Entries :=
  [(.str "rows", .ndarray ⟨[3, 0], float64, [], rfl⟩),
    (.str "args", .tuple [.ndarray ⟨[1], float64, [0, 0, 0, 0, 0, 0, 240, 63], rfl⟩, .bytes [1, 2]])]

theorem attach_round_trip_arrays :
    ∃ text encoding back, attachEncode identityEncoders plainProcess (.dict arraysMessage) none 0 = .ok (text, encoding) ∧
      attachLoad identityEncoders plainProcess (some numpyFloat64) text none = .ok back ∧
      back.eqv (.dict arraysMessage) = true := by
  obtain ⟨text, encoding, encoded, holds⟩ := attach_round_trip_iff identityEncoders numpyFloat64 plainProcess
    plainProcess none none 0 arraysMessage
    (by simp [Value.WellFormed, Value.All, arraysMessage, Value.nodes, Value.nodesEntries, Value.nodesList,
          Value.distinctKeys])
    (by simp [Value.All, arraysMessage, Value.nodes, Value.nodesEntries, Value.nodesList, unreserved,
          attachMarkerKey, attachDataKey])
    (by simp [Value.All, arraysMessage, Value.nodes, Value.nodesEntries, Value.nodesList, plainArray, Numpy.Plain,
          numpyFloat64, readFloat64, float64])
  have served : Served plainProcess none encoding := by
    cases encoded
    intro desc data member
    cases member
  obtain ⟨back, loaded, same⟩ := (holds served).mpr
    (by simp [Value.All, arraysMessage, Value.nodes, Value.nodesEntries, Value.nodesList, ranked])
  exact ⟨text, encoding, back, encoded, loaded, same⟩

/-- An array of rank 0. -/
def scalarArray : NdArray := ⟨[], float64, [0, 0, 0, 0, 0, 0, 240, 63], rfl⟩

/-- An array of rank 0 comes back with shape `[1]`. -/
theorem rank_zero_array_reshaped :
    ∃ text encoding, attachEncode identityEncoders plainProcess (.dict [(.str "x", .ndarray scalarArray)]) none 4096 =
        .ok (text, encoding) ∧ Served plainProcess none encoding ∧
      attachLoad identityEncoders plainProcess (some numpyFloat64) text none =
        .ok (.dict [(.str "x", .ndarray ⟨[1], float64, scalarArray.data, rfl⟩)]) ∧
      (Value.dict [(.str "x", .ndarray ⟨[1], float64, scalarArray.data, rfl⟩)]).eqv
        (.dict [(.str "x", .ndarray scalarArray)]) = false := by
  refine ⟨_, _, rfl, ?_, rfl, by decide⟩
  intro desc data member
  cases member

end DEFw.Attachments
