import WindowsKext.Library.Block
import WindowsKext.Library.LittleEndian

/-! `pipe_transport.cpp`: frames on a byte-mode pipe. What the operating system answers to each
`ReadFile` and `WriteFile` is a script of the connection. -/

namespace WindowsKext.PipeTransport

open ByteString LittleEndian

def kFrameMagic : UInt32 := 0x45504950
def kFrameVersion : UInt16 := 1
def kTransferChunkSize : Nat := 1024 * 1024
def kFrameHeaderSize : Nat := 12
def kFastFrameBufferSize : Nat := 64 * 1024
def kMaxNoteSize : Nat := 64 * 1024 * 1024

inductive Win32Error where
  | notEnoughMemory
  | invalidData
  | invalidParameter
  | brokenPipe
  | insufficientBuffer
  | fileTooLarge
  | pipeNotConnected
  | operationAborted
  | timeout
  | system (code : UInt32)
deriving DecidableEq

inductive FrameType where
  | ready
  | rejected
  | accepted
  | data
deriving DecidableEq

def FrameType.code : FrameType → UInt16
  | .ready => 1
  | .rejected => 2
  | .accepted => 3
  | .data => 4

def FrameType.ofCode : UInt16 → Option FrameType
  | 1 => some .ready
  | 2 => some .rejected
  | 3 => some .accepted
  | 4 => some .data
  | _ => none

section Header

def storeUint16 (value : UInt16) : Bytes :=
  [(value &&& 0xFF).toUInt8, ((value >>> 8) &&& 0xFF).toUInt8]

def storeUint32 (value : UInt32) : Bytes :=
  [(value &&& 0xFF).toUInt8, ((value >>> 8) &&& 0xFF).toUInt8, ((value >>> 16) &&& 0xFF).toUInt8,
    ((value >>> 24) &&& 0xFF).toUInt8]

def loadUint16 (source : Bytes) : UInt16 :=
  (byteAt source 0).toUInt16 ||| ((byteAt source 1).toUInt16 <<< 8)

def loadUint32 (source : Bytes) : UInt32 :=
  (byteAt source 0).toUInt32 ||| ((byteAt source 1).toUInt32 <<< 8) |||
    ((byteAt source 2).toUInt32 <<< 16) ||| ((byteAt source 3).toUInt32 <<< 24)

def buildHeader (type : FrameType) (payloadSize : UInt32) : Bytes :=
  storeUint32 kFrameMagic ++ storeUint16 kFrameVersion ++ storeUint16 type.code ++
    storeUint32 payloadSize

/-- The checks of `ReadFrame` on the fields of a header, in their order. -/
def checkFields (magic : UInt32) (version type : UInt16) (payloadSize : UInt32) :
    Except Win32Error (FrameType × UInt32) :=
  match FrameType.ofCode type with
  | none => .error .invalidData
  | some type =>
      if magic ≠ kFrameMagic ∨ version ≠ kFrameVersion then .error .invalidData
      else if type ≠ .data ∧ payloadSize ≠ 0 then .error .invalidData
      else if payloadSize.toNat > kMaxNoteSize then .error .fileTooLarge
      else .ok (type, payloadSize)

def checkHeader (header : Bytes) : Except Win32Error (FrameType × UInt32) :=
  checkFields (loadUint32 header) (loadUint16 (header.drop 4)) (loadUint16 (header.drop 6))
    (loadUint32 (header.drop 8))

end Header

/-- How an operation on the pipe ends. `expired` is a deadline that has passed, before the operation
starts or while it is pending. -/
inductive Completion (Amount : Type) where
  | transferred (amount : Amount)
  | expired
  | failed (error : Win32Error)

/-- `reads` are the fragments in which the bytes arrive, and then the other end is closed. `writes`
says how many bytes the pipe takes at a time, and then it takes all that it is given. `written` is
what it has taken. -/
structure Connection where
  isValid : Bool
  status : Option Win32Error
  readBuffer : Block kFastFrameBufferSize
  readBegin : Nat
  readEnd : Nat
  writeBuffer : Block kFastFrameBufferSize
  reads : List (Completion Bytes)
  writes : List (Completion Nat)
  written : Bytes

namespace Connection

/-- `MakeConnection`. The constructor leaves both buffers uninitialized. -/
def make (readBuffer writeBuffer : Block kFastFrameBufferSize) (reads : List (Completion Bytes))
    (writes : List (Completion Nat)) : Connection where
  isValid := true
  status := none
  readBuffer := readBuffer
  readBegin := 0
  readEnd := 0
  writeBuffer := writeBuffer
  reads := reads
  writes := writes
  written := []

def isActive (connection : Connection) : Bool := connection.isValid && connection.status.isNone

/-- `Status`, which is never `ERROR_SUCCESS`. -/
def currentStatus (connection : Connection) : Win32Error :=
  connection.status.getD .pipeNotConnected

def cancel (connection : Connection) (status : Option Win32Error) : Connection :=
  if connection.status.isNone then
    { connection with status := some (status.getD .operationAborted) }
  else connection

def deadlineExpired (connection : Connection) (writing : Bool) : Bool :=
  if writing then
    match connection.writes with
    | .expired :: _ => true
    | _ => false
  else
    match connection.reads with
    | .expired :: _ => true
    | _ => false

end Connection

section Transfers

variable {capacity : Nat}

/-- A fragment that does not fit is read in parts. -/
def readFile (connection : Connection) (buffer : Block capacity) (offset size : Nat) :
    Except Win32Error Nat × Block capacity × Connection :=
  match connection.reads with
  | [] => (.error .brokenPipe, buffer, connection)
  | .transferred bytes :: rest =>
      (.ok (bytes.take size).length, buffer.store offset (bytes.take size),
        { connection with
          reads := if bytes.length ≤ size then rest else .transferred (bytes.drop size) :: rest })
  | .expired :: rest => (.error .timeout, buffer, { connection with reads := rest })
  | .failed error :: rest => (.error error, buffer, { connection with reads := rest })

def writeFile (connection : Connection) (buffer : Block capacity) (offset size : Nat) :
    Except Win32Error Nat × Block capacity × Connection :=
  match connection.writes with
  | [] =>
      (.ok size, buffer,
        { connection with written := connection.written ++ buffer.load offset (offset + size) })
  | .transferred count :: rest =>
      (.ok (min count size), buffer,
        { connection with
          written := connection.written ++ buffer.load offset (offset + min count size)
          writes := rest })
  | .expired :: rest => (.error .timeout, buffer, { connection with writes := rest })
  | .failed error :: rest => (.error error, buffer, { connection with writes := rest })

def transferOnce (connection : Connection) (buffer : Block capacity) (offset size : Nat)
    (writing : Bool) : Except Win32Error Nat × Block capacity × Connection :=
  if size = 0 then (.ok 0, buffer, connection)
  else if connection.isActive then
    match if writing then writeFile connection buffer offset size
      else readFile connection buffer offset size with
    | (.ok transferred, buffer, connection) =>
        (if transferred = 0 then .error .brokenPipe else .ok transferred, buffer, connection)
    | (.error error, buffer, connection) => (.error error, buffer, connection)
  else (.error connection.currentStatus, buffer, connection)

theorem transferOnce_pos {connection after : Connection} {buffer stored : Block capacity}
    {offset size transferred : Nat} {writing : Bool} (asked : 0 < size)
    (once : transferOnce connection buffer offset size writing =
      (.ok transferred, stored, after)) : 0 < transferred := by
  rw [transferOnce, if_neg (by omega)] at once
  split at once
  · split at once
    · split at once
      · cases once
      · cases once
        omega
    · cases once
  · cases once

/-- The bytes of a buffer from `start` on, of which `offset` are transferred. -/
def transferExact (connection : Connection) (buffer : Block capacity) (start size offset : Nat)
    (writing : Bool) : Except Win32Error Unit × Block capacity × Connection :=
  if offset < size then
    if connection.isActive then
      if connection.deadlineExpired writing then (.error .timeout, buffer, connection)
      else
        match _once : transferOnce connection buffer (start + offset)
            (min kTransferChunkSize (size - offset)) writing with
        | (.ok transferred, buffer, connection) =>
            if transferred > min kTransferChunkSize (size - offset) then
              (.error .invalidData, buffer, connection)
            else transferExact connection buffer start size (offset + transferred) writing
        | (.error error, buffer, connection) => (.error error, buffer, connection)
    else (.error connection.currentStatus, buffer, connection)
  else (.ok (), buffer, connection)
termination_by size - offset
decreasing_by
  have positive : 0 < transferred := by
    refine transferOnce_pos ?_ _once
    rw [kTransferChunkSize]
    omega
  omega

def readSome (connection : Connection) (buffer : Block capacity) (offset size : Nat) :
    Except Win32Error Nat × Block capacity × Connection :=
  if connection.deadlineExpired false then (.error .timeout, buffer, connection)
  else transferOnce connection buffer offset size false

theorem readFile_connection (connection : Connection) (buffer : Block capacity)
    (offset size : Nat) :
    ∃ reads, (readFile connection buffer offset size).2.2 = { connection with reads := reads } := by
  unfold readFile
  split
  · exact ⟨connection.reads, rfl⟩
  · exact ⟨_, rfl⟩
  · exact ⟨_, rfl⟩
  · exact ⟨_, rfl⟩

theorem transferOnce_connection (connection : Connection) (buffer : Block capacity)
    (offset size : Nat) :
    ∃ reads, (transferOnce connection buffer offset size false).2.2 =
      { connection with reads := reads } := by
  unfold transferOnce
  split
  · exact ⟨connection.reads, rfl⟩
  · split
    · obtain ⟨reads, same⟩ := readFile_connection connection buffer offset size
      refine ⟨reads, ?_⟩
      split
      · rename_i file
        rw [if_neg (by decide)] at file
        rw [← same, file]
      · rename_i file
        rw [if_neg (by decide)] at file
        rw [← same, file]
    · exact ⟨connection.reads, rfl⟩

theorem readSome_connection (connection : Connection) (buffer : Block capacity)
    (offset size : Nat) :
    ∃ reads, (readSome connection buffer offset size).2.2 = { connection with reads := reads } := by
  unfold readSome
  split
  · exact ⟨connection.reads, rfl⟩
  · exact transferOnce_connection connection buffer offset size

theorem readSome_pos {connection after : Connection} {buffer stored : Block capacity}
    {offset size transferred : Nat} (asked : 0 < size)
    (some : readSome connection buffer offset size = (.ok transferred, stored, after)) :
    0 < transferred := by
  unfold readSome at some
  split at some
  · cases some
  · exact transferOnce_pos asked some

end Transfers

section ReadBuffer

def compact (connection : Connection) : Connection :=
  if connection.readBegin = connection.readEnd then
    { connection with
      readBegin := 0
      readEnd := 0 }
  else if connection.readBegin ≠ 0 then
    { connection with
      readBuffer :=
        connection.readBuffer.store 0 (connection.readBuffer.load connection.readBegin connection.readEnd)
      readBegin := 0
      readEnd := connection.readEnd - connection.readBegin }
  else connection

def fillReadBuffer (connection : Connection) : Except Win32Error Unit × Connection :=
  let connection := compact connection
  let freeSpace := kFastFrameBufferSize - connection.readEnd
  if freeSpace = 0 then (.error .insufficientBuffer, connection)
  else
    match readSome connection connection.readBuffer connection.readEnd freeSpace with
    | (.ok transferred, buffer, connection) =>
        (.ok (), { connection with
          readBuffer := buffer
          readEnd := connection.readEnd + transferred })
    | (.error error, buffer, connection) => (.error error, { connection with readBuffer := buffer })

def available (connection : Connection) : Nat := connection.readEnd - connection.readBegin

theorem compact_available (connection : Connection) :
    available (compact connection) = available connection ∧ (compact connection).readBegin = 0 := by
  unfold compact available
  split
  · rename_i empty
    simp [empty]
  · split
    · simp
    · rename_i front
      simp only [ne_eq, Decidable.not_not] at front
      simp [front]

theorem fillReadBuffer_grows {connection filled : Connection}
    (fill : fillReadBuffer connection = (.ok (), filled)) :
    available connection < available filled := by
  obtain ⟨kept, front⟩ := compact_available connection
  obtain ⟨reads, same⟩ := readSome_connection (compact connection) (compact connection).readBuffer
    (compact connection).readEnd (kFastFrameBufferSize - (compact connection).readEnd)
  unfold fillReadBuffer at fill
  dsimp only at fill
  split at fill
  · cases fill
  · rename_i free
    split at fill
    · rename_i transferred buffer after some
      have positive := readSome_pos (by omega) some
      rw [some] at same
      dsimp only at same
      cases fill
      rw [← kept]
      simp only [available, same, front]
      omega
    · cases fill

def ensureBufferedBytes (connection : Connection) (required : Nat) :
    Except Win32Error Unit × Connection :=
  if available connection < required then
    match _fill : fillReadBuffer connection with
    | (.ok (), connection) => ensureBufferedBytes connection required
    | (.error error, connection) => (.error error, connection)
  else (.ok (), connection)
termination_by required - available connection
decreasing_by
  have grows := fillReadBuffer_grows _fill
  omega

end ReadBuffer

/-- Where the payload of a frame lies. -/
inductive PayloadPointer where
  | null
  | readBuffer (offset : Nat)
  | owned
deriving DecidableEq

structure Frame where
  type : FrameType
  payload : PayloadPointer
  payloadSize : UInt32
  ownedPayload : Bytes
deriving DecidableEq

namespace Frame

def reset : Frame where
  type := .data
  payload := .null
  payloadSize := 0
  ownedPayload := []

def setView (frame : Frame) (type : FrameType) (payload : PayloadPointer) (payloadSize : UInt32) :
    Frame :=
  { frame with
    type := type
    payload := if payloadSize = 0 then .null else payload
    payloadSize := payloadSize }

/-- The bytes behind `Data`. A view into the read buffer is read as long as the buffer is not filled
again. -/
def bytes (frame : Frame) (connection : Connection) : Bytes :=
  match frame.payload with
  | .null => []
  | .readBuffer offset => connection.readBuffer.load offset (offset + frame.payloadSize.toNat)
  | .owned => frame.ownedPayload.take frame.payloadSize.toNat

end Frame

section ReadFrame

def cancelled (connection : Connection) (error : Win32Error) :
    Except Win32Error Unit × Frame × Connection :=
  (.error error, Frame.reset, connection.cancel (some error))

/-- A frame that fits the read buffer stays there. -/
def readView (connection : Connection) (type : FrameType) (payloadSize : UInt32) :
    Except Win32Error Unit × Frame × Connection :=
  let totalSize := kFrameHeaderSize + payloadSize.toNat
  match ensureBufferedBytes connection totalSize with
  | (.error error, connection) => cancelled connection error
  | (.ok (), connection) =>
      let payload := if payloadSize = 0 then .null
        else .readBuffer (connection.readBegin + kFrameHeaderSize)
      let frame := Frame.reset.setView type payload payloadSize
      let readBegin := connection.readBegin + totalSize
      if readBegin = connection.readEnd then
        (.ok (), frame, { connection with
          readBegin := 0
          readEnd := 0 })
      else (.ok (), frame, { connection with readBegin := readBegin })

/-- A frame that does not fit is read behind its buffered part. `allocates` says for which sizes
the vector of the frame can be resized. -/
def readOwned (allocates : Nat → Bool) (connection : Connection) (type : FrameType)
    (payloadSize : UInt32) : Except Win32Error Unit × Frame × Connection :=
  if allocates payloadSize.toNat then
    let bufferedPayload := available connection - kFrameHeaderSize
    let ownedPayload := (Block.zeros payloadSize.toNat).store 0
      (connection.readBuffer.load (connection.readBegin + kFrameHeaderSize)
        (connection.readBegin + kFrameHeaderSize + bufferedPayload))
    let connection := { connection with
      readBegin := 0
      readEnd := 0 }
    match transferExact connection ownedPayload bufferedPayload
        (payloadSize.toNat - bufferedPayload) 0 false with
    | (.error error, _, connection) => cancelled connection error
    | (.ok (), ownedPayload, connection) =>
        let frame := { Frame.reset with ownedPayload := ownedPayload.bytes }
        (.ok (), frame.setView type .owned payloadSize, connection)
  else cancelled connection .notEnoughMemory

def readFrame (allocates : Nat → Bool) (connection : Connection) :
    Except Win32Error Unit × Frame × Connection :=
  match ensureBufferedBytes connection kFrameHeaderSize with
  | (.error error, connection) => cancelled connection error
  | (.ok (), connection) =>
      match checkHeader (connection.readBuffer.load connection.readBegin
          (connection.readBegin + kFrameHeaderSize)) with
      | .error error => cancelled connection error
      | .ok (type, payloadSize) =>
          if kFrameHeaderSize + payloadSize.toNat ≤ kFastFrameBufferSize then
            readView connection type payloadSize
          else readOwned allocates connection type payloadSize

end ReadFrame

section WriteFrame

def writeFrameLocked (connection : Connection) (type : FrameType) (payload : Bytes)
    (payloadSize : UInt32) : Except Win32Error Unit × Connection :=
  let totalSize := kFrameHeaderSize + payloadSize.toNat
  let header := buildHeader type payloadSize
  if totalSize ≤ kFastFrameBufferSize then
    let fastBuffer := (connection.writeBuffer.store 0 header).store kFrameHeaderSize
      (payload.take payloadSize.toNat)
    match transferExact { connection with writeBuffer := fastBuffer } fastBuffer 0 totalSize 0
        true with
    | (result, _, connection) => (result, connection)
  else
    match transferExact connection ⟨header, rfl⟩ 0 header.length 0 true with
    | (.error error, _, connection) => (.error error, connection)
    | (.ok (), _, connection) =>
        match transferExact connection ⟨payload, rfl⟩ 0 payloadSize.toNat 0 true with
        | (result, _, connection) => (result, connection)

/-- A payload that is not null points to at least `payloadSize` bytes. -/
def writeFrame (connection : Connection) (type : FrameType) (payload : Option Bytes)
    (payloadSize : UInt32) : Except Win32Error Unit × Connection :=
  if payload = none ∧ payloadSize ≠ 0 then (.error .invalidParameter, connection)
  else if payloadSize.toNat > kMaxNoteSize then (.error .fileTooLarge, connection)
  else if type ≠ .data ∧ payloadSize ≠ 0 then (.error .invalidParameter, connection)
  else if connection.isActive then
    match writeFrameLocked connection type (payload.getD []) payloadSize with
    | (.error error, connection) => (.error error, connection.cancel (some error))
    | (.ok (), connection) => (.ok (), connection)
  else (.error connection.currentStatus, connection)

end WriteFrame

end WindowsKext.PipeTransport
