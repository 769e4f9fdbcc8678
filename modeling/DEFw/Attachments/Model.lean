import DEFw.Lib.PyEquality

namespace DEFw.Attachments
open Py

/-- The exceptions an encode or a load can raise. -/
inductive AttachError where
  | runtime (message : String)
  | index
  | key (name : String)
  | type
  | value
  deriving DecidableEq

/-- `ATTACH_MARKER_KEY`. -/
def attachMarkerKey : String := "__defw_attachment__"

/-- `ATTACH_DATA_KEY`. -/
def attachDataKey : String := "__defw_attachment_data__"

/-- `DEFAULT_RMA_THRESHOLD`. -/
def defaultRmaThreshold : Int := 64 * 1024

/-- `DEFAULT_ATTACH_THRESHOLD`. -/
def defaultAttachThreshold : Int := 4096

/-- An attachment as the send path holds it. -/
inductive Buffer where
  | bytes (data : List UInt8)
  | array (array : NdArray)

/-- `numpy.ascontiguousarray`: the same items in an array of rank at least one. -/
def ascontiguousarray (array : NdArray) : NdArray :=
  if scalar : array.shape = [] then { array with shape := [1], full := by simpa [scalar] using array.full }
  else array

/-- What is used of numpy on the receiving side: how it reads a dtype
argument, which depends only on the value of that argument. -/
structure Numpy where
  dtype : Value → Option DType
  dtype_eqv : ∀ a b, a.eqv b = true → dtype a = dtype b

def Numpy.frombuffer (numpy : Numpy) (buf : List UInt8) (dtype : Value) : Except AttachError NdArray :=
  match numpy.dtype dtype with
  | none => .error .type
  | some dtype =>
    if whole : buf.length % dtype.itemsize = 0 ∧ dtype.itemsize ≠ 0 then
      .ok { shape := [buf.length / dtype.itemsize], dtype := dtype, data := buf,
            full := by simpa using (Nat.div_mul_cancel (Nat.dvd_of_mod_eq_zero whole.1)).symm }
    else .error .value

/-- A value used as an integer: booleans are integers. -/
def asInt? : Value → Option Int
  | .int i => some i
  | .bool b => some (if b then 1 else 0)
  | _ => none

def dims? : Value → Option (List Int)
  | .list items => items.mapM asInt?
  | .tuple items => items.mapM asInt?
  | value => (asInt? value).map (fun dim => [dim])

/-- The shape asked for. A dimension of -1 is inferred from the others. -/
def shapeFor (size : Nat) (dims : List Int) : List Nat :=
  dims.map (fun dim => if dim = -1 then size / (dims.filter (· ≠ -1)).prod.toNat else dim.toNat)

/-- At most one dimension is left to infer, and the others determine it. -/
def legalDims (dims : List Int) : Bool :=
  dims.all (fun dim => -1 ≤ dim) && dims.count (-1) ≤ 1 &&
    (dims.count (-1) = 0 || (dims.filter (· ≠ -1)).prod ≠ 0)

def reshape (array : NdArray) (shape : Value) : Except AttachError NdArray :=
  match dims? shape with
  | none => .error .type
  | some dims =>
    let shape := shapeFor array.shape.prod dims
    if fits : shape.prod = array.shape.prod ∧ legalDims dims then
      .ok { array with shape := shape, full := by rw [fits.1]; exact array.full }
    else .error .value

/-- `_marker`. -/
def marker (index : Nat) (kind : String) (details : Entries) : Value :=
  .dict ([(.str attachMarkerKey, .int index), (.str "kind", .str kind)] ++ details)

mutual

/-- `_extract`, with the attachments collected so far. -/
def extract (threshold : Int) : Value → List Buffer → Value × List Buffer
  | .ndarray array, attachments =>
    let arr := ascontiguousarray array
    (marker attachments.length "ndarray"
      [(.str "shape", .list (arr.shape.map (fun dim : Nat => .int dim))), (.str "dtype", .str arr.dtype.name)],
      attachments ++ [.array arr])
  | .bytes data, attachments =>
    if threshold ≤ data.length then (marker attachments.length "bytes" [], attachments ++ [.bytes data])
    else (.bytes data, attachments)
  | .bytearray data, attachments =>
    if threshold ≤ data.length then (marker attachments.length "bytes" [], attachments ++ [.bytes data])
    else (.bytearray data, attachments)
  | .dict entries, attachments =>
    let result := extractEntries threshold entries attachments
    (.dict result.1, result.2)
  | .list items, attachments =>
    let result := extractList threshold items attachments
    (.list result.1, result.2)
  | .tuple items, attachments =>
    let result := extractList threshold items attachments
    (.tuple result.1, result.2)
  | value, attachments => (value, attachments)

def extractList (threshold : Int) : List Value → List Buffer → List Value × List Buffer
  | [], attachments => ([], attachments)
  | item :: rest, attachments =>
    let first := extract threshold item attachments
    let later := extractList threshold rest first.2
    (first.1 :: later.1, later.2)

def extractEntries (threshold : Int) : Entries → List Buffer → Entries × List Buffer
  | [], attachments => ([], attachments)
  | (key, value) :: rest, attachments =>
    let first := extract threshold value attachments
    let later := extractEntries threshold rest first.2
    ((key, first.1) :: later.1, later.2)

end

example : extract 2 (.dict [(.str "a", .list [.bytes [1, 2], .bytes [3]])]) [] =
    (.dict [(.str "a", .list [marker 0 "bytes" [], .bytes [3]])], [.bytes [1, 2]]) := by
  simp [extract, extractList, extractEntries]

def extractAttachments (msg : Value) (threshold : Int) : Value × List Buffer := extract threshold msg []

/-- `attachments[index]`, negative indices counting from the end. -/
def attachmentAt (attachments : List (List UInt8)) (index : Value) : Except AttachError (List UInt8) :=
  match asInt? index with
  | none => .error .type
  | some i =>
    let position := if i < 0 then i + attachments.length else i
    if position < 0 then .error .index
    else
      match attachments[position.toNat]? with
      | some buf => .ok buf
      | none => .error .index

/-- The marker branch of `_reinject`. -/
def restore (numpy : Option Numpy) (attachments : List (List UInt8)) (obj : Entries) (index : Value) :
    Except AttachError Value := do
  let buf ← attachmentAt attachments index
  if ((obj.get? "kind").getD .none).pyEq (.str "ndarray") then
    match numpy with
    | none => .error (.runtime
        "received a NumPy array attachment but numpy is not available to restore it")
    | some numpy =>
      match obj.get? "dtype" with
      | none => .error (.key "dtype")
      | some dtype =>
        let arr ← numpy.frombuffer buf dtype
        match obj.get? "shape" with
        | none => .error (.key "shape")
        | some shape => return .ndarray (← reshape arr shape)
  else return .bytes buf

mutual

/-- `_reinject`. -/
def reinject (numpy : Option Numpy) (attachments : List (List UInt8)) : Value → Except AttachError Value
  | .dict entries =>
    match Entries.get? entries attachMarkerKey with
    | some index => restore numpy attachments entries index
    | none => (reinjectEntries numpy attachments entries).map .dict
  | .list items => (reinjectList numpy attachments items).map .list
  | .tuple items => (reinjectList numpy attachments items).map .tuple
  | value => .ok value

def reinjectList (numpy : Option Numpy) (attachments : List (List UInt8)) : List Value → Except AttachError (List Value)
  | [] => .ok []
  | item :: rest => do
    let first ← reinject numpy attachments item
    let later ← reinjectList numpy attachments rest
    return first :: later

def reinjectEntries (numpy : Option Numpy) (attachments : List (List UInt8)) : Entries → Except AttachError Entries
  | [] => .ok []
  | (key, value) :: rest => do
    let first ← reinject numpy attachments value
    let later ← reinjectEntries numpy attachments rest
    return (key, first) :: later

end

example (numpy : Option Numpy) : reinject numpy [] (.list [.dict []]) = .ok (.list [.dict []]) := by
  simp [reinject, reinjectList, reinjectEntries, Entries.get?, Except.map, bind, Except.bind, pure, Except.pure]

def reinjectAttachments (numpy : Option Numpy) (msg : Value) (attachments : List (List UInt8)) :
    Except AttachError Value :=
  if attachments.isEmpty then .ok msg else reinject numpy attachments msg

/-- `_to_bytes` on the two kinds of attachments there are. -/
def toBytes : Buffer → List UInt8
  | .bytes data => data
  | .array array => array.data

/-- An RMA descriptor: the four numbers of its text `handle:key:addr:len`. -/
structure Descriptor where
  handle : Int
  key : Int
  addr : Int
  len : Int
  deriving DecidableEq

/-- The dictionary a payload entry holds for it. -/
def Descriptor.entries (desc : Descriptor) : Entries :=
  [(.str "handle", .int desc.handle), (.str "key", .int desc.key), (.str "addr", .int desc.addr),
    (.str "len", .int desc.len)]

/-- The C entry points. `available` and `publish` may raise (`none`); the
number tells the payloads of a message apart, so each may fare differently. -/
structure RmaOps where
  available : String → Option Bool
  publish : Nat → List UInt8 → Option (Int × Option Descriptor)
  fetch : String → Descriptor → Int × Option (List UInt8)

/-- What encode and load read of their process: the entry points, if there are
any, and the two environment variables. -/
structure Process where
  ops : Option RmaOps
  rmaAttachments : Option String
  rmaThreshold : Option String

def Process.rmaEnabled (process : Process) : Bool :=
  process.rmaAttachments.getD "" ∉ ["0", "no", "false", "off"]

def Process.threshold (process : Process) : Int :=
  (process.rmaThreshold.bind (fun text => (Value.str text).toInt?)).getD defaultRmaThreshold

/-- `_rma_usable`, as the entry points to use. -/
def Process.rmaUsable (process : Process) (blkUuid : Option String) : Option RmaOps :=
  match orStr blkUuid none with
  | none => none
  | some uuid => if process.rmaEnabled then process.ops.filter (fun ops => (ops.available uuid).getD false) else none

/-- `_rma_publish`. -/
def rmaPublish (ops : RmaOps) (index : Nat) (data : List UInt8) : Option Descriptor :=
  match ops.publish index data with
  | none => none
  | some (rc, desc) => if rc ≠ 0 then none else desc

/-- The encoders of the message text. Dictionaries may come back in another
order. Payload text comes back as it was. -/
structure Encoders (ω : Type) where
  dump : Value → ω
  load : ω → Except AttachError Value
  b64encode : List UInt8 → String
  b64decode : String → Except AttachError (List UInt8)
  load_dump : ∀ value, value.WellFormed → value.All (fun node => ∀ array, node ≠ .ndarray array) →
    ∃ back, load (dump value) = .ok back ∧ back.WellFormed ∧ back.eqv value = true
  b64decode_b64encode : ∀ data, b64decode (b64encode data) = .ok data

/-- What an encode has produced: the payload entries, the published handles
and, for each descriptor, the bytes it was published for. -/
structure Encoding where
  payloads : List Value
  published : List Int
  regions : List (Descriptor × List UInt8)

variable {ω : Type}

/-- The loop body of `_encode_payloads`. -/
def encodePayload (encoders : Encoders ω) (ops : Option RmaOps) (threshold : Int) (encoding : Encoding) (a : Buffer) :
    Encoding :=
  let data := toBytes a
  let desc :=
    match ops with
    | some ops => if threshold ≤ data.length then rmaPublish ops encoding.payloads.length data else none
    | none => none
  match desc with
  | some desc =>
    { payloads := encoding.payloads ++ [.dict desc.entries]
      published := encoding.published ++ [desc.handle]
      regions := encoding.regions ++ [(desc, data)] }
  | none => { encoding with payloads := encoding.payloads ++ [.str (encoders.b64encode data)] }

def encodePayloads (encoders : Encoders ω) (process : Process) (blkUuid : Option String) (attachments : List Buffer) :
    Encoding :=
  attachments.foldl (encodePayload encoders (process.rmaUsable blkUuid) process.threshold) ⟨[], [], []⟩

/-- `attach_encode`: the message text and what was published for it. -/
def attachEncode (encoders : Encoders ω) (process : Process) (msg : Value) (blkUuid : Option String) (threshold : Int) :
    Except AttachError (ω × Encoding) :=
  let (transformed, attachments) := extractAttachments msg threshold
  if attachments.isEmpty then .ok (encoders.dump transformed, ⟨[], [], []⟩)
  else
    let encoding := encodePayloads encoders process blkUuid attachments
    match transformed with
    | .dict entries =>
      .ok (encoders.dump (.dict (Dict.assign (.str attachDataKey) (.list encoding.payloads) entries)), encoding)
    | _ => .error .type

/-- `desc[name]`, read as the integer the entry points take. -/
def descriptorField (desc : Entries) (name : String) : Except AttachError Int :=
  match desc.get? name with
  | none => .error (.key name)
  | some value =>
    match asInt? value with
    | none => .error .type
    | some i => .ok i

/-- `_rma_fetch`. -/
def rmaFetch (process : Process) (desc : Entries) (blkUuid : Option String) : Except AttachError (List UInt8) :=
  match process.ops with
  | none => .error (.runtime
      "message carries an RMA attachment but this DEFw build has no RMA support to fetch it")
  | some ops =>
    match orStr blkUuid none with
    | none => .error (.runtime
        "message carries an RMA attachment but the sending agent is unknown, so it cannot be fetched")
    | some uuid => do
      let handle ← descriptorField desc "handle"
      let key ← descriptorField desc "key"
      let addr ← descriptorField desc "addr"
      let len ← descriptorField desc "len"
      match ops.fetch uuid ⟨handle, key, addr, len⟩ with
      | (0, some data) => .ok data
      | (rc, _) => .error (.runtime ("RMA fetch failed (rc=" ++ toString rc ++ ") for " ++ toString len ++
          " bytes from agent " ++ uuid))

def decodePayload (encoders : Encoders ω) (process : Process) (blkUuid : Option String) :
    Value → Except AttachError (List UInt8)
  | .dict desc => rmaFetch process desc blkUuid
  | .str text => encoders.b64decode text
  | _ => .error .type

def decodePayloads (encoders : Encoders ω) (process : Process) (blkUuid : Option String) :
    Value → Except AttachError (List (List UInt8))
  | .list payloads => payloads.mapM (decodePayload encoders process blkUuid)
  | .tuple payloads => payloads.mapM (decodePayload encoders process blkUuid)
  | _ => .error .type

/-- The entries `obj.pop(key)` leaves. -/
def without (key : Key) (entries : Entries) : Entries := entries.filter (fun entry => !(entry.1 == key))

def attachLoad (encoders : Encoders ω) (process : Process) (numpy : Option Numpy) (text : ω) (blkUuid : Option String) :
    Except AttachError Value := do
  let obj ← encoders.load text
  match obj with
  | .dict entries =>
    match Entries.get? entries attachDataKey with
    | some payloads =>
      let attachments ← decodePayloads encoders process blkUuid payloads
      reinjectAttachments numpy (.dict (without (.str attachDataKey) entries)) attachments
    | none => return obj
  | _ => return obj

end DEFw.Attachments
