import WindowsKext.Library.LittleEndian

/-! Fixed-size layouts: values that are written field after field, and read back from exactly the
bytes that were written. -/

namespace FieldLayout

open ByteString LittleEndian

section Fields

def field (bytes : Bytes) (offset count : Nat) : Bytes := (bytes.drop offset).take count

theorem field_here {bytes rest : Bytes} {count : Nat} (length : bytes.length = count) :
    field (bytes ++ rest) 0 count = bytes := by
  rw [field, List.drop_zero, List.take_left' length]

theorem field_whole (bytes : Bytes) : field bytes 0 bytes.length = bytes := by
  rw [field, List.drop_zero, List.take_length]

theorem field_later {bytes rest : Bytes} {offset count : Nat} (later : bytes.length ≤ offset) :
    field (bytes ++ rest) offset count = field rest (offset - bytes.length) count := by
  rw [field, field, List.drop_append, List.drop_of_length_le later, List.nil_append]

theorem byteAt_later {bytes rest : Bytes} {offset : Nat} (later : bytes.length ≤ offset) :
    byteAt (bytes ++ rest) offset = byteAt rest (offset - bytes.length) := by
  simp only [byteAt, List.getD_eq_getElem?_getD, List.getElem?_append_right later]

theorem field_cons_later {byte : UInt8} {rest : Bytes} {offset count : Nat} (later : 1 ≤ offset) :
    field (byte :: rest) offset count = field rest (offset - 1) count :=
  @field_later [byte] rest offset count later

theorem byteAt_cons_later {byte : UInt8} {rest : Bytes} {offset : Nat} (later : 1 ≤ offset) :
    byteAt (byte :: rest) offset = byteAt rest (offset - 1) :=
  @byteAt_later [byte] rest offset later

theorem byteAt_cons_zero {byte : UInt8} {rest : Bytes} : byteAt (byte :: rest) 0 = byte := rfl

end Fields

/-- A layout of fixed size that reads back what it writes. -/
structure Layout (Value : Type) where
  size : Nat
  write : Value → Bytes
  read : Bytes → Value
  length_write : ∀ value, (write value).length = size
  read_write : ∀ value, read (write value) = value

namespace Layout

variable {Value Other : Type}

def u8 : Layout UInt8 where
  size := 1
  write value := [value]
  read bytes := byteAt bytes 0
  length_write _ := rfl
  read_write _ := rfl

def u16 : Layout UInt16 where
  size := 2
  write := bytesOfU16
  read := u16OfBytes
  length_write := length_bytesOfU16
  read_write := u16OfBytes_bytesOfU16

def u32 : Layout UInt32 where
  size := 4
  write := bytesOfU32
  read := u32OfBytes
  length_write := length_bytesOfU32
  read_write := u32OfBytes_bytesOfU32

def u64 : Layout UInt64 where
  size := 8
  write := bytesOfU64
  read := u64OfBytes
  length_write := length_bytesOfU64
  read_write := u64OfBytes_bytesOfU64

def arrayAt (bytes : Bytes) (offset n : Nat) : Vector UInt8 n :=
  Vector.ofFn fun index : Fin n => byteAt bytes (offset + index)

theorem arrayAt_toList {n : Nat} (value : Vector UInt8 n) : arrayAt value.toList 0 n = value := by
  apply Vector.ext
  intro index bound
  simp [arrayAt, byteAt]

def array (n : Nat) : Layout (Vector UInt8 n) where
  size := n
  write := Vector.toList
  read bytes := arrayAt bytes 0 n
  length_write value := value.length_toList
  read_write := arrayAt_toList

def pair (first : Layout Value) (second : Layout Other) : Layout (Value × Other) where
  size := first.size + second.size
  write value := first.write value.1 ++ second.write value.2
  read bytes := (first.read (bytes.take first.size), second.read (bytes.drop first.size))
  length_write value := by
    rw [List.length_append, first.length_write, second.length_write]
  read_write value := by
    have length := first.length_write value.1
    rw [List.take_left' length, List.drop_left' length, first.read_write, second.read_write]

def struct (layout : Layout Value) (make : Value → Other) (fields : Other → Value)
    (made : ∀ other, make (fields other) = other) : Layout Other where
  size := layout.size
  write other := layout.write (fields other)
  read bytes := make (layout.read bytes)
  length_write other := layout.length_write _
  read_write other := by
    rw [layout.read_write, made]

theorem read_take (layout : Layout Value) (value : Value) (rest : Bytes) :
    layout.read ((layout.write value ++ rest).take layout.size) = value := by
  rw [List.take_left' (layout.length_write value), layout.read_write]

theorem drop_write (layout : Layout Value) (value : Value) (rest : Bytes) :
    (layout.write value ++ rest).drop layout.size = rest :=
  List.drop_left' (layout.length_write value)

end Layout

end FieldLayout
