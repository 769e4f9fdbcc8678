import Mathlib

namespace Py

/-- A plain dtype: its name as `str(dtype)` prints it and the bytes of one item. -/
structure DType where
  name : String
  itemsize : Nat
  deriving DecidableEq

/-- An array by what can be observed of it: shape, dtype and the bytes of its
items in row-major order. Strides and memory layout are not visible. -/
structure NdArray where
  shape : List Nat
  dtype : DType
  data : List UInt8
  full : data.length = shape.prod * dtype.itemsize
  deriving DecidableEq

/-- A dictionary key. Only string keys are ever inspected; any other hashable
object is named by a number. -/
inductive Key where
  | str (s : String)
  | other (id : Nat)
  deriving DecidableEq

/-- The Python values that travel through the runtime. `other` stands for any
object without a constructor of its own, such as a float. -/
inductive Value where
  | none
  | bool (b : Bool)
  | int (i : Int)
  | str (s : String)
  | other (id : Nat)
  | bytes (data : List UInt8)
  | bytearray (data : List UInt8)
  | ndarray (array : NdArray)
  | list (items : List Value)
  | tuple (items : List Value)
  | dict (entries : List (Key × Value))

abbrev Entries := List (Key × Value)

/-- `a or b` on optional strings, as the truthy result or nothing. -/
def orStr (a b : Option String) : Option String :=
  (a.filter (· ≠ "")).or (b.filter (· ≠ ""))

/-- `a or b or {}` on optional dictionaries. -/
def orEntries (a b : Option Entries) : Entries :=
  ((a.filter (fun entries => !entries.isEmpty)).or b).getD []

def Entries.get? (entries : Entries) (name : String) : Option Value := entries.lookup (.str name)

namespace Value

def truthy : Value → Bool
  | none => false
  | bool b => b
  | int i => i ≠ 0
  | str s => s ≠ ""
  | other _ => true
  | bytes data => !data.isEmpty
  | bytearray data => !data.isEmpty
  | ndarray array => !array.data.isEmpty
  | list items => !items.isEmpty
  | tuple items => !items.isEmpty
  | dict entries => !entries.isEmpty

/-- Induction over nested values, with the hypothesis for every member. -/
theorem induction {motive : Value → Prop}
    (none : motive none) (bool : ∀ b, motive (bool b)) (int : ∀ i, motive (int i))
    (str : ∀ s, motive (str s)) (other : ∀ id, motive (other id))
    (bytes : ∀ data, motive (bytes data)) (bytearray : ∀ data, motive (bytearray data))
    (ndarray : ∀ array, motive (ndarray array))
    (list : ∀ items, (∀ item ∈ items, motive item) → motive (list items))
    (tuple : ∀ items, (∀ item ∈ items, motive item) → motive (tuple items))
    (dict : ∀ entries, (∀ entry ∈ entries, motive entry.2) → motive (dict entries))
    (value : Value) : motive value := by
  refine @Value.rec motive (fun items => ∀ item ∈ items, motive item)
    (fun entries => ∀ entry ∈ entries, motive entry.2) (fun entry => motive entry.2)
    none bool int str other bytes bytearray ndarray list tuple dict ?_ ?_ ?_ ?_ ?_ value
  · simp
  · intro head rest atHead atRest
    simpa using ⟨atHead, atRest⟩
  · simp
  · intro head rest atHead atRest
    rintro entry (_ | ⟨_, member⟩)
    · exact atHead
    · exact atRest entry member
  · exact fun _ _ atValue => atValue

mutual

/-- Equality of values of the same type: dictionaries regardless of order,
bytearray against bytes by content. -/
def eqv : Value → Value → Bool
  | none, none => true
  | bool a, bool b => a == b
  | int i, int j => i == j
  | str s, str t => s == t
  | other i, other j => i == j
  | bytes a, bytes b => a == b
  | bytes a, bytearray b => a == b
  | bytearray a, bytes b => a == b
  | bytearray a, bytearray b => a == b
  | ndarray a, ndarray b => a == b
  | list xs, list ys => eqvList xs ys
  | tuple xs, tuple ys => eqvList xs ys
  | dict d, dict e => eqvEntries d e && (e.map Prod.fst).all (fun key => (d.map Prod.fst).contains key)
  | _, _ => false

def eqvList : List Value → List Value → Bool
  | [], [] => true
  | x :: xs, y :: ys => eqv x y && eqvList xs ys
  | _, _ => false

def eqvEntries : List (Key × Value) → List (Key × Value) → Bool
  | [], _ => true
  | (key, value) :: rest, e =>
    (match e.lookup key with
      | some found => eqv value found
      | Option.none => false) && eqvEntries rest e

end

example : eqv (dict [(.str "a", list [none])]) (dict [(.str "a", list [none])]) = true := by
  simp [eqv, eqvList, eqvEntries]

/-- `a == b` on the values a service record holds: booleans are integers. -/
def pyEq (a b : Value) : Bool :=
  match a, b with
  | bool p, int j => (if p then 1 else 0) == j
  | int i, bool q => i == if q then 1 else 0
  | _, _ => eqv a b

/-- The digits of a decimal numeral, single underscores between digits allowed. -/
def digits? : Bool → Nat → List Char → Option Nat
  | afterDigit, total, [] => if afterDigit then some total else Option.none
  | afterDigit, total, c :: rest =>
    if c.isDigit then digits? true (10 * total + (c.toNat - '0'.toNat)) rest
    else if c = '_' ∧ afterDigit then digits? false total rest
    else Option.none

def intOfChars? : List Char → Option Int
  | '-' :: rest => (digits? false 0 rest).map (fun n => -(n : Int))
  | '+' :: rest => (digits? false 0 rest).map Int.ofNat
  | chars => (digits? false 0 chars).map Int.ofNat

/-- `int(value)`, where nothing stands for a TypeError or a ValueError. -/
def toInt? : Value → Option Int
  | bool b => some (if b then 1 else 0)
  | int i => some i
  | str s => intOfChars? (((s.toList.dropWhile Char.isWhitespace).reverse.dropWhile Char.isWhitespace).reverse)
  | _ => Option.none

/-- `item in container`, for the containers a selector holds. -/
def contains (container item : Value) : Bool :=
  match container, item with
  | list items, _ => items.any (pyEq item)
  | tuple items, _ => items.any (pyEq item)
  | dict entries, str s => entries.any (fun entry => entry.1 == .str s)
  | str text, str s => decide (s.toList <:+: text.toList)
  | _, _ => false

end Value

end Py
