import Mathlib.Algebra.GroupWithZero.Nat
import WindowsKext.Library.ByteString

/-! Little-endian numbers of a fixed width. -/

namespace LittleEndian

open ByteString

/-- The low bytes of a number, least significant first. -/
def encode : Nat → Nat → Bytes
  | 0, _ => []
  | width + 1, value => UInt8.ofNat (value % 256) :: encode width (value / 256)

def decode : Bytes → Nat
  | [] => 0
  | byte :: rest => byte.toNat + 256 * decode rest

@[simp] theorem length_encode (width value : Nat) : (encode width value).length = width := by
  induction width generalizing value with
  | zero => rfl
  | succ width ih => simp [encode, ih]

theorem decode_encode (width value : Nat) (bound : value < 256 ^ width) :
    decode (encode width value) = value := by
  induction width generalizing value with
  | zero =>
      rw [Nat.pow_zero] at bound
      rw [encode, decode]
      omega
  | succ width ih =>
      have quotient : value / 256 < 256 ^ width := by
        rw [Nat.pow_succ] at bound
        exact Nat.div_lt_of_lt_mul (by omega)
      have byte : (UInt8.ofNat (value % 256)).toNat = value % 256 := by
        rw [UInt8.toNat_ofNat']
        omega
      rw [encode, decode, ih _ quotient, byte]
      omega

theorem decode_lt (bytes : Bytes) : decode bytes < 256 ^ bytes.length := by
  induction bytes with
  | nil => simp [decode]
  | cons byte rest ih =>
      have high := byte.toNat_lt
      rw [decode, List.length_cons, Nat.pow_succ]
      omega

theorem encode_decode (bytes : Bytes) : encode bytes.length (decode bytes) = bytes := by
  induction bytes with
  | nil => rfl
  | cons byte rest ih =>
      have high := byte.toNat_lt
      have low : (byte.toNat + 256 * decode rest) % 256 = byte.toNat := by omega
      have rest' : (byte.toNat + 256 * decode rest) / 256 = decode rest := by omega
      rw [decode, List.length_cons, encode, low, rest', ih, UInt8.ofNat_toNat]

theorem encode_mod (width value : Nat) : encode width (value % 256 ^ width) = encode width value := by
  induction width generalizing value with
  | zero => rfl
  | succ width ih =>
      rw [encode, encode, Nat.pow_succ, Nat.mod_mul_left_mod, Nat.mod_mul_left_div_self, ih]

theorem ofNat_mod_byte (value : Nat) : UInt8.ofNat (value % 256) = UInt8.ofNat value :=
  UInt8.ofNat_mod_size

theorem encode_eq_map (width value : Nat) :
    encode width value = (List.range width).map fun index => UInt8.ofNat (value / 2 ^ (index * 8)) := by
  induction width generalizing value with
  | zero => rfl
  | succ width ih =>
      rw [encode, ih, List.range_succ_eq_map, List.map_cons, List.map_map, ofNat_mod_byte,
        Nat.zero_mul, Nat.pow_zero, Nat.div_one]
      congr 1
      apply List.map_congr_left
      intro index _
      have power : 2 ^ (index.succ * 8) = 256 * 2 ^ (index * 8) := by
        rw [Nat.succ_mul, Nat.pow_add, Nat.mul_comm]
      rw [Function.comp_apply, power, Nat.div_div_eq_div_mul]

section MachineIntegers

/-- `to_le_bytes` and `from_le_bytes` of the integer types on the wire. -/
def bytesOfU16 (value : UInt16) : Bytes := encode 2 value.toNat
def bytesOfU32 (value : UInt32) : Bytes := encode 4 value.toNat
def bytesOfU64 (value : UInt64) : Bytes := encode 8 value.toNat

def u16OfBytes (bytes : Bytes) : UInt16 := UInt16.ofNat (decode bytes)
def u32OfBytes (bytes : Bytes) : UInt32 := UInt32.ofNat (decode bytes)
def u64OfBytes (bytes : Bytes) : UInt64 := UInt64.ofNat (decode bytes)

@[simp] theorem length_bytesOfU16 (value : UInt16) : (bytesOfU16 value).length = 2 :=
  length_encode 2 _

@[simp] theorem length_bytesOfU32 (value : UInt32) : (bytesOfU32 value).length = 4 :=
  length_encode 4 _

@[simp] theorem length_bytesOfU64 (value : UInt64) : (bytesOfU64 value).length = 8 :=
  length_encode 8 _

@[simp] theorem u16OfBytes_bytesOfU16 (value : UInt16) :
    u16OfBytes (bytesOfU16 value) = value := by
  have bound : value.toNat < 256 ^ 2 := value.toNat_lt
  rw [u16OfBytes, bytesOfU16, decode_encode 2 _ bound, UInt16.ofNat_toNat]

@[simp] theorem u32OfBytes_bytesOfU32 (value : UInt32) :
    u32OfBytes (bytesOfU32 value) = value := by
  have bound : value.toNat < 256 ^ 4 := value.toNat_lt
  rw [u32OfBytes, bytesOfU32, decode_encode 4 _ bound, UInt32.ofNat_toNat]

@[simp] theorem u64OfBytes_bytesOfU64 (value : UInt64) :
    u64OfBytes (bytesOfU64 value) = value := by
  have bound : value.toNat < 256 ^ 8 := value.toNat_lt
  rw [u64OfBytes, bytesOfU64, decode_encode 8 _ bound, UInt64.ofNat_toNat]

end MachineIntegers

section Shifts

/-! The same numbers put together with shifts. -/

theorem or_shiftLeft {low count : Nat} (bound : low < 2 ^ count) (high : Nat) :
    low ||| high <<< count = low + 2 ^ count * high := by
  rw [Nat.or_comm, ← Nat.shiftLeft_add_eq_or_of_lt bound, Nat.shiftLeft_eq, Nat.add_comm,
    Nat.mul_comm]

theorem and_byte (value : Nat) : value &&& 255 = value % 256 :=
  Nat.and_two_pow_sub_one_eq_mod value 8

theorem u16OfBytes_pair (first second : UInt8) :
    first.toUInt16 ||| (second.toUInt16 <<< 8) = u16OfBytes [first, second] := by
  have low := first.toNat_lt
  have high := second.toNat_lt
  apply UInt16.toNat_inj.mp
  have shifted : (second.toUInt16 <<< 8).toNat = second.toNat <<< 8 := by
    simp only [UInt16.toNat_shiftLeft, UInt8.toNat_toUInt16, Nat.shiftLeft_eq]
    exact Nat.mod_eq_of_lt (by simp; omega)
  rw [UInt16.toNat_or, shifted, UInt8.toNat_toUInt16, or_shiftLeft low, u16OfBytes,
    UInt16.toNat_ofNat', decode, decode, decode]
  omega

theorem u32OfBytes_quad (first second third fourth : UInt8) :
    first.toUInt32 ||| (second.toUInt32 <<< 8) ||| (third.toUInt32 <<< 16) |||
      (fourth.toUInt32 <<< 24) = u32OfBytes [first, second, third, fourth] := by
  have bound1 := first.toNat_lt
  have bound2 := second.toNat_lt
  have bound3 := third.toNat_lt
  have bound4 := fourth.toNat_lt
  apply UInt32.toNat_inj.mp
  have shifted2 : (second.toUInt32 <<< 8).toNat = second.toNat <<< 8 := by
    simp only [UInt32.toNat_shiftLeft, UInt8.toNat_toUInt32, Nat.shiftLeft_eq]
    exact Nat.mod_eq_of_lt (by simp; omega)
  have shifted3 : (third.toUInt32 <<< 16).toNat = third.toNat <<< 16 := by
    simp only [UInt32.toNat_shiftLeft, UInt8.toNat_toUInt32, Nat.shiftLeft_eq]
    exact Nat.mod_eq_of_lt (by simp; omega)
  have shifted4 : (fourth.toUInt32 <<< 24).toNat = fourth.toNat <<< 24 := by
    simp only [UInt32.toNat_shiftLeft, UInt8.toNat_toUInt32, Nat.shiftLeft_eq]
    exact Nat.mod_eq_of_lt (by simp; omega)
  have two : first.toNat ||| second.toNat <<< 8 = first.toNat + 2 ^ 8 * second.toNat :=
    or_shiftLeft bound1 _
  have three : first.toNat + 2 ^ 8 * second.toNat ||| third.toNat <<< 16 =
      first.toNat + 2 ^ 8 * second.toNat + 2 ^ 16 * third.toNat := or_shiftLeft (by omega) _
  have four : first.toNat + 2 ^ 8 * second.toNat + 2 ^ 16 * third.toNat ||| fourth.toNat <<< 24 =
      first.toNat + 2 ^ 8 * second.toNat + 2 ^ 16 * third.toNat + 2 ^ 24 * fourth.toNat :=
    or_shiftLeft (by omega) _
  rw [UInt32.toNat_or, UInt32.toNat_or, UInt32.toNat_or, shifted2, shifted3, shifted4,
    UInt8.toNat_toUInt32, two, three, four, u32OfBytes, UInt32.toNat_ofNat', decode, decode,
    decode, decode, decode]
  omega

/-- Bytes shifted in from the most significant one. -/
def shiftIn (byte : UInt8) (value : UInt64) : UInt64 := (value <<< 8) ||| byte.toUInt64

theorem shiftIn_toNat {byte : UInt8} {value : UInt64} (bound : value.toNat < 2 ^ 56) :
    (shiftIn byte value).toNat = byte.toNat + 256 * value.toNat := by
  have low := byte.toNat_lt
  have shifted : (value <<< 8).toNat = value.toNat <<< 8 := by
    simp only [UInt64.toNat_shiftLeft, Nat.shiftLeft_eq]
    exact Nat.mod_eq_of_lt (by simp; omega)
  rw [shiftIn, UInt64.toNat_or, shifted, UInt8.toNat_toUInt64, Nat.or_comm, or_shiftLeft low]
  rfl

theorem foldr_shiftIn {bytes : Bytes} (bound : bytes.length ≤ 8) :
    (bytes.foldr shiftIn 0).toNat = decode bytes := by
  induction bytes with
  | nil => rfl
  | cons byte rest ih =>
      rw [List.length_cons] at bound
      have value := ih (by omega)
      have small : decode rest < 2 ^ 56 := calc
        decode rest < 256 ^ rest.length := decode_lt rest
        _ ≤ 256 ^ 7 := Nat.pow_le_pow_right (by decide) (by omega)
        _ = 2 ^ 56 := by decide
      rw [List.foldr_cons, shiftIn_toNat (by rw [value]; exact small), value, decode]
end Shifts

end LittleEndian
