import WindowsKext.Ipv6PacketCore

/-! The lazy packet reader of `net_buffer.rs`. A prefix that NDIS finds in one piece is borrowed, any
other is copied into the scratch storage of the caller. -/

namespace WindowsKext

open ByteString

/-- A pointer from NDIS. A native one comes with the memory behind it, which stays unmodified. -/
inductive DataPointer where
  | null
  | scratch
  | native (memory : Nat → UInt8)

structure SpanRead (N : Nat) where
  pointer : DataPointer
  nativeSpan : Nat
  storage : Vector UInt8 N

structure PacketPrefix (N : Nat) where
  storage : Vector UInt8 N
  native : Option (Nat → UInt8)
  length : Nat
  inside : length ≤ N
  small : N ≤ 128

/-- A second attempt follows a null pointer. -/
def readRetrying {N : Nat} {σ : Type} (read : Nat → Vector UInt8 N → σ → SpanRead N × σ)
    (length : Nat) (storage : Vector UInt8 N) (state : σ) : SpanRead N × σ :=
  let (first, state) := read length storage state
  match first.pointer with
  | .null => read length first.storage state
  | _ => (first, state)

namespace PacketPrefix

variable {N : Nat}

def new (storage : Vector UInt8 N) (small : N ≤ 128) : PacketPrefix N where
  storage := storage
  native := none
  length := 0
  inside := Nat.zero_le _
  small := small

/-- The byte behind the pointer that the cache uses. -/
def pointed (cache : PacketPrefix N) (offset : Nat) : UInt8 :=
  match cache.native with
  | none => cache.storage[offset]?.getD 0
  | some memory => memory offset

def cachedByte (cache : PacketPrefix N) (offset : Nat) : Option UInt8 :=
  if offset ≥ cache.length then none else some (cache.pointed offset)

def leading (cache : PacketPrefix N) (length : Nat) : Bytes := (List.range length).map cache.pointed

/-- `read` is the callback with its own state. -/
def readWithSpan {σ : Type} (cache : PacketPrefix N) (dataLength length : Nat)
    (read : Nat → Vector UInt8 N → σ → SpanRead N × σ) (state : σ) :
    Option Bytes × PacketPrefix N × σ :=
  if beyond : length > N ∨ length > dataLength then (none, cache, state)
  else if length = 0 then (some [], cache, state)
  else if length > cache.length then
    let (result, state) := readRetrying read length cache.storage state
    let cache := { cache with storage := result.storage }
    match result.pointer with
    | .null =>
        -- The failed read may have overwritten the scratch bytes.
        match cache.native with
        | none => (none, { cache with length := 0, inside := Nat.zero_le _ }, state)
        | some _ => (none, cache, state)
    | .scratch =>
        let cache := { cache with native := none, length := length, inside := by omega }
        (some (cache.leading length), cache, state)
    | .native memory =>
        let cache := { cache with
          native := some memory
          length := max length (min result.nativeSpan (min dataLength N))
          inside := by omega }
        (some (cache.leading length), cache, state)
  else (some (cache.leading length), cache, state)

end PacketPrefix

/-- The fields of `NET_BUFFER` and of its current MDL that the reader uses. -/
structure NativeNetBuffer where
  dataLength : UInt32
  currentMdlByteCount : Option UInt32
  currentMdlOffset : UInt32

/-- `NdisGetDataBuffer` for one net buffer: the number of the call, the bytes needed and the scratch
storage before it. -/
abbrev NdisGetDataBuffer (N : Nat) := Nat → UInt32 → Vector UInt8 N → DataPointer × Vector UInt8 N

structure NetBufferReader (N : Nat) where
  nb : NativeNetBuffer
  dataLength : Nat
  packetPrefix : PacketPrefix N
  ndisGetDataBuffer : NdisGetDataBuffer N
  calls : Nat

namespace NetBufferReader

variable {N : Nat}

/-- `NetBufferList::reader`, where the list and its first buffer may be null. -/
def reader (firstNetBuffer : Option (Option NativeNetBuffer)) (ndisGetDataBuffer : NdisGetDataBuffer N)
    (storage : Vector UInt8 N) (small : N ≤ 128) : Option (NetBufferReader N) := do
  let nb ← (← firstNetBuffer)
  return {
    nb := nb
    dataLength := nb.dataLength.toNat
    packetPrefix := .new storage small
    ndisGetDataBuffer := ndisGetDataBuffer
    calls := 0 }

def len (reader : NetBufferReader N) : Nat := min reader.dataLength N

/-- The bytes from the start of the packet to the end of the current MDL. -/
def nativeSpan (nb : NativeNetBuffer) (length : Nat) : Nat :=
  match nb.currentMdlByteCount with
  | some byteCount => byteCount.toNat - nb.currentMdlOffset.toNat
  | none => length

/-- The callback of `prefix`. Its state counts the calls. -/
def getDataBuffer (reader : NetBufferReader N) (length : Nat) (storage : Vector UInt8 N)
    (calls : Nat) : SpanRead N × Nat :=
  let (pointer, storage) := reader.ndisGetDataBuffer calls (UInt32.ofNat length) storage
  let span :=
    match pointer with
    | .native _ => nativeSpan reader.nb length
    | _ => length
  ({ pointer := pointer, nativeSpan := span, storage := storage }, calls + 1)

def readPrefix (reader : NetBufferReader N) (length : Nat) : Option Bytes × NetBufferReader N :=
  let (bytes, packetPrefix, calls) :=
    reader.packetPrefix.readWithSpan reader.dataLength length reader.getDataBuffer reader.calls
  (bytes, { reader with packetPrefix := packetPrefix, calls := calls })

def readByte (reader : NetBufferReader N) (offset : Nat) : Option UInt8 × NetBufferReader N :=
  match reader.packetPrefix.cachedByte offset with
  | some byte => (some byte, reader)
  | none =>
      if offset + 1 < 18446744073709551616 then
        let (packet, reader) := reader.readPrefix (offset + 1)
        (packet.bind fun packet => packet[offset]?, reader)
      else (none, reader)

end NetBufferReader

/-- The reader of `packet_util.rs`, which is missing when the native buffer was null. -/
instance {N : Nat} : PacketData (Option (NetBufferReader N)) where
  len source := (source.map NetBufferReader.len).getD 0
  readPrefix
    | none, _ => (none, none)
    | some reader, length =>
        let (bytes, reader) := reader.readPrefix length
        (bytes, some reader)
  readByte
    | none, _ => (none, none)
    | some reader, offset =>
        let (byte, reader) := reader.readByte offset
        (byte, some reader)

end WindowsKext
