import DEFw.Attachments.Model
import DEFw.Config.HostList
import DEFw.Fabric.Registrations
import DEFw.Lib.BigEndian
import Mathlib.Data.Nat.Digits.Defs

namespace DEFw.Fabric
open Attachments (Descriptor)
open Hosts (Text Numeral number?)

/-- `defw_rma_desc_t`. -/
structure RmaDesc where
  handle : BitVec 64
  key : BitVec 64
  addr : BitVec 64
  len : BitVec 64

def RmaDesc.fields (desc : RmaDesc) : List (BitVec 64) := [desc.handle, desc.key, desc.addr, desc.len]

/-- `%llu`. -/
def decimal (n : BitVec 64) : Numeral :=
  ⟨Nat.toDigits 10 n.toNat, Nat.toDigits_ne_nil, fun _ member => Nat.isDigit_of_mem_toDigits (by decide) (by decide) member⟩

def rmaDescStrLen : Nat := 96

/-- The text that `defw_rma_publish` prints. `snprintf` keeps what fits beside the final zero. -/
def RmaDesc.text (desc : RmaDesc) : Text :=
  ([':'].intercalate (desc.fields.map fun n => (decimal n).digits)).take (rmaDescStrLen - 1)

/-- How `_rma_publish` reads the text, where nothing stands for a ValueError. -/
def readDesc (text : Text) : Option Descriptor :=
  match (text.splitOn ':').mapM number? with
  | some [handle, key, addr, length] => some ⟨handle, key, addr, length⟩
  | _ => none

/-- The message of `defw_send_rma_ack`. -/
def sendRmaAck (handle : BitVec 64) : List UInt8 :=
  BigEndian.bytes 4 (handle >>> 32).toNat ++ BigEndian.bytes 4 (handle &&& 0xffffffff).toNat

/-- The two words that `process_msg_rma_ack` takes from a message. -/
def processMsgRmaAck (body : List UInt8) : MrAction :=
  .ack (BitVec.ofNat 32 (BigEndian.value (body.take 4))) (BitVec.ofNat 32 (BigEndian.value ((body.drop 4).take 4)))

theorem number?_decimal (n : BitVec 64) : number? (decimal n).digits = some n.toNat := by
  rw [Numeral.number?_digits]
  exact congrArg some (Nat.ofDigitChars_toDigits (by decide) (by decide))

theorem length_decimal (n : BitVec 64) : (decimal n).digits.length ≤ 20 :=
  Nat.toDigits_length 10 n.toNat 20 (by decide) (n.isLt.trans (by decide))

theorem colon_notMem_decimal (n : BitVec 64) : ':' ∉ (decimal n).digits := fun member =>
  Hosts.isDigit_ne ((decimal n).decimal _ member) (by decide) rfl

/-- Four numbers of 64 bits fit. -/
theorem RmaDesc.text_whole (desc : RmaDesc) :
    desc.text = [':'].intercalate (desc.fields.map fun n => (decimal n).digits) := by
  refine List.take_of_length_le ?_
  have handle := length_decimal desc.handle
  have key := length_decimal desc.key
  have addr := length_decimal desc.addr
  have len := length_decimal desc.len
  simp [RmaDesc.fields, List.intercalate, rmaDescStrLen]
  omega

theorem high_word (handle : BitVec 64) : (handle >>> 32).toNat = handle.toNat / 2 ^ 32 := by
  rw [BitVec.toNat_ushiftRight, Nat.shiftRight_eq_div_pow]

theorem low_word (handle : BitVec 64) : (handle &&& 0xffffffff).toNat = handle.toNat % 2 ^ 32 := by
  rw [BitVec.toNat_and]
  exact Nat.and_two_pow_sub_one_eq_mod _ 32

theorem handle_words (handle : BitVec 64) :
    (BitVec.ofNat 32 (handle >>> 32).toNat ++ BitVec.ofNat 32 (handle &&& 0xffffffff).toNat).toNat = handle.toNat := by
  have bound := handle.isLt
  rw [BitVec.toNat_append, BitVec.toNat_ofNat, BitVec.toNat_ofNat, high_word, low_word,
    ← Nat.shiftLeft_add_eq_or_of_lt (Nat.mod_lt _ (by decide)), Nat.shiftLeft_eq]
  omega

/-- A descriptor comes through its text whatever the provider chose for it, and the
acknowledgement of a peer names the registration that the descriptor was printed for. -/
theorem rma_descriptor_round_trip (desc : RmaDesc) :
    readDesc desc.text = some ⟨desc.handle.toNat, desc.key.toNat, desc.addr.toNat, desc.len.toNat⟩ ∧
      (processMsgRmaAck (sendRmaAck desc.handle)).handle? = some desc.handle.toNat := by
  constructor
  · have split : desc.text.splitOn ':' = desc.fields.map fun n => (decimal n).digits := by
      rw [desc.text_whole]
      refine List.splitOn_intercalate ':' (fun piece member => ?_) (by simp [RmaDesc.fields])
      obtain ⟨n, -, rfl⟩ := List.mem_map.mp member
      exact colon_notMem_decimal n
    have read : (desc.fields.map fun n => (decimal n).digits).mapM number? = some (desc.fields.map BitVec.toNat) := by
      simp [RmaDesc.fields, number?_decimal]
    rw [readDesc, split, read]
    rfl
  · have high : BigEndian.value (BigEndian.bytes 4 (desc.handle >>> 32).toNat) = (desc.handle >>> 32).toNat := by
      refine BigEndian.value_bytes_of_lt ?_
      have bound := desc.handle.isLt
      rw [high_word]
      omega
    have low : BigEndian.value (BigEndian.bytes 4 (desc.handle &&& 0xffffffff).toNat) = (desc.handle &&& 0xffffffff).toNat := by
      refine BigEndian.value_bytes_of_lt ?_
      rw [low_word]
      exact Nat.mod_lt _ (by decide)
    have left (n : Nat) (rest : List UInt8) : (BigEndian.bytes 4 n ++ rest).take 4 = BigEndian.bytes 4 n :=
      List.take_left' (BigEndian.length_bytes 4 n)
    have right (n m : Nat) : ((BigEndian.bytes 4 n ++ BigEndian.bytes 4 m).drop 4).take 4 = BigEndian.bytes 4 m := by
      rw [List.drop_left' (BigEndian.length_bytes 4 n), List.take_of_length_le (BigEndian.length_bytes 4 m).le]
    rw [processMsgRmaAck, sendRmaAck, left, right, high, low, MrAction.handle?, handle_words]

end DEFw.Fabric
