import WindowsKext.Library.Layout
import WindowsKext.PipeTransportCore

/-! A connection as a stream of frames: what is written arrives, however the pipe cuts the bytes. -/

namespace WindowsKext.PipeTransport

open ByteString LittleEndian FieldLayout

section Headers

theorem storeUint16_eq (value : UInt16) : storeUint16 value = bytesOfU16 value := by
  have first : (value &&& 0xFF).toUInt8 = UInt8.ofNat (value.toNat % 256) := by
    apply UInt8.toNat_inj.mp
    simp [UInt8.toNat_ofNat', and_byte]
  have second : ((value >>> 8) &&& 0xFF).toUInt8 = UInt8.ofNat (value.toNat / 256 % 256) := by
    apply UInt8.toNat_inj.mp
    simp [UInt8.toNat_ofNat', and_byte, Nat.shiftRight_eq_div_pow]
  rw [storeUint16, first, second]
  rfl

theorem shifted_byte (value shift : UInt32) (small : shift.toNat < 32) :
    ((value >>> shift) &&& 0xFF).toUInt8 = UInt8.ofNat (value.toNat / 2 ^ shift.toNat) := by
  have mask : (0xFF : UInt32).toNat = 255 := rfl
  apply UInt8.toNat_inj.mp
  rw [UInt32.toNat_toUInt8, UInt32.toNat_and, UInt32.toNat_shiftRight, Nat.mod_eq_of_lt small,
    Nat.shiftRight_eq_div_pow, UInt8.toNat_ofNat', mask, and_byte, Nat.mod_mod]

theorem storeUint32_eq (value : UInt32) : storeUint32 value = bytesOfU32 value := by
  have first : (value &&& 0xFF).toUInt8 = UInt8.ofNat (value.toNat / 2 ^ 0) := by
    have unshifted := shifted_byte value 0 (by decide)
    rwa [UInt32.shiftRight_zero] at unshifted
  rw [storeUint32, first, shifted_byte value 8 (by decide), shifted_byte value 16 (by decide),
    shifted_byte value 24 (by decide), bytesOfU32, encode_eq_map]
  rfl

theorem loadUint16_eq {source : Bytes} (length : 2 ≤ source.length) :
    loadUint16 source = u16OfBytes (source.take 2) := by
  rcases source with _ | ⟨first, _ | ⟨second, rest⟩⟩
  · simp at length
  · simp at length
  · exact u16OfBytes_pair first second

theorem loadUint32_eq {source : Bytes} (length : 4 ≤ source.length) :
    loadUint32 source = u32OfBytes (source.take 4) := by
  rcases source with _ | ⟨first, _ | ⟨second, _ | ⟨third, _ | ⟨fourth, rest⟩⟩⟩⟩
  · simp at length
  · simp at length
  · simp at length
  · simp at length
  · exact u32OfBytes_quad first second third fourth

@[simp] theorem length_buildHeader (type : FrameType) (payloadSize : UInt32) :
    (buildHeader type payloadSize).length = kFrameHeaderSize := rfl

theorem FrameType.ofCode_code (type : FrameType) : FrameType.ofCode type.code = some type := by
  cases type with
  | ready => rfl
  | rejected => rfl
  | accepted => rfl
  | data => rfl

theorem FrameType.code_of_ofCode {code : UInt16} {type : FrameType}
    (known : FrameType.ofCode code = some type) : type.code = code := by
  unfold FrameType.ofCode at known
  split at known
  · cases known
    rfl
  · cases known
    rfl
  · cases known
    rfl
  · cases known
    rfl
  · cases known

/-- The fields of a header, as the bytes on the wire give them. -/
def headerMagic (header : Bytes) : UInt32 := u32OfBytes (field header 0 4)
def headerVersion (header : Bytes) : UInt16 := u16OfBytes (field header 4 2)
def headerType (header : Bytes) : UInt16 := u16OfBytes (field header 6 2)
def headerPayloadSize (header : Bytes) : UInt32 := u32OfBytes (field header 8 4)

/-- What the reader does not accept: a wrong magic, version or type, a control frame with a
payload, or a payload of more than 64 MiB. -/
def MalformedHeader (header : Bytes) : Prop :=
  headerMagic header ≠ kFrameMagic ∨ headerVersion header ≠ kFrameVersion ∨
    (∀ type : FrameType, headerType header ≠ type.code) ∨
    (headerType header ≠ FrameType.data.code ∧ headerPayloadSize header ≠ 0) ∨
    (headerPayloadSize header).toNat > kMaxNoteSize

theorem checkHeader_eq {header : Bytes} (length : header.length = kFrameHeaderSize) :
    checkHeader header = checkFields (headerMagic header) (headerVersion header)
      (headerType header) (headerPayloadSize header) := by
  rw [kFrameHeaderSize] at length
  have magic : loadUint32 header = headerMagic header := loadUint32_eq (by omega)
  have version : loadUint16 (header.drop 4) = headerVersion header :=
    loadUint16_eq (by rw [List.length_drop]; omega)
  have type : loadUint16 (header.drop 6) = headerType header :=
    loadUint16_eq (by rw [List.length_drop]; omega)
  have payloadSize : loadUint32 (header.drop 8) = headerPayloadSize header :=
    loadUint32_eq (by rw [List.length_drop]; omega)
  rw [checkHeader, magic, version, type, payloadSize]

theorem checkHeader_malformed {header : Bytes} (length : header.length = kFrameHeaderSize)
    (malformed : MalformedHeader header) :
    checkHeader header = .error .invalidData ∨ checkHeader header = .error .fileTooLarge := by
  rw [checkHeader_eq length]
  unfold checkFields
  split
  · exact .inl rfl
  · rename_i type known
    have code := FrameType.code_of_ofCode known
    split
    · exact .inl rfl
    · rename_i constants
      split
      · exact .inl rfl
      · rename_i control
        split
        · exact .inr rfl
        · rename_i bounded
          exfalso
          rcases malformed with magic | version | unknown | payload | oversized
          · exact constants (.inl magic)
          · exact constants (.inr version)
          · exact unknown type code.symm
          · refine control ⟨?_, payload.2⟩
            rintro rfl
            exact payload.1 code.symm
          · exact bounded oversized

theorem checkHeader_buildHeader {type : FrameType} {payloadSize : UInt32}
    (control : type ≠ .data → payloadSize = 0) (bounded : payloadSize.toNat ≤ kMaxNoteSize) :
    checkHeader (buildHeader type payloadSize) = .ok (type, payloadSize) := by
  have parts : buildHeader type payloadSize = bytesOfU32 kFrameMagic ++ (bytesOfU16 kFrameVersion ++
      (bytesOfU16 type.code ++ (bytesOfU32 payloadSize ++ []))) := by
    rw [buildHeader, storeUint32_eq, storeUint32_eq, storeUint16_eq, storeUint16_eq,
      List.append_nil, List.append_assoc, List.append_assoc]
  have magic : headerMagic (buildHeader type payloadSize) = kFrameMagic := by
    rw [headerMagic, parts]
    simp [field_here]
  have version : headerVersion (buildHeader type payloadSize) = kFrameVersion := by
    rw [headerVersion, parts]
    simp [field_here, field_later]
  have code : headerType (buildHeader type payloadSize) = type.code := by
    rw [headerType, parts]
    simp [field_here, field_later]
  have size : headerPayloadSize (buildHeader type payloadSize) = payloadSize := by
    rw [headerPayloadSize, parts]
    simp [field_here, field_later, -List.append_nil]
  rw [checkHeader_eq (length_buildHeader type payloadSize), magic, version, code, size, checkFields,
    FrameType.ofCode_code]
  dsimp only
  rw [if_neg (by simp), if_neg (fun nonempty => nonempty.2 (control nonempty.1)),
    if_neg (Nat.not_lt.mpr bounded)]

end Headers

section Arrivals

variable {capacity : Nat}

def Completion.bytes : Completion Bytes → Bytes
  | .transferred bytes => bytes
  | .expired => []
  | .failed _ => []

def arrived (reads : List (Completion Bytes)) : Bytes := reads.flatMap Completion.bytes

/-- Transfers that are not empty, without errors and timeouts. -/
def Smooth (reads : List (Completion Bytes)) : Prop :=
  ∀ completion ∈ reads, ∃ bytes, bytes ≠ [] ∧ completion = .transferred bytes

/-- The next bytes that a read of at most `size` bytes takes, and what arrives after them. -/
structure Fragment (connection : Connection) (size : Nat) (chunk : Bytes)
    (reads : List (Completion Bytes)) : Prop where
  nonempty : chunk ≠ []
  fits : chunk.length ≤ size
  split : arrived connection.reads = chunk ++ arrived reads
  smooth : Smooth reads

theorem readFile_fragment {connection : Connection} {size : Nat} (buffer : Block capacity)
    (offset : Nat) (smooth : Smooth connection.reads) (pending : connection.reads ≠ [])
    (asked : 0 < size) :
    ∃ chunk reads, Fragment connection size chunk reads ∧
      readFile connection buffer offset size =
        (.ok chunk.length, buffer.store offset chunk, { connection with reads := reads }) := by
  cases waiting : connection.reads with
  | nil => exact absurd waiting pending
  | cons completion rest =>
      rw [waiting] at smooth
      obtain ⟨bytes, nonempty, rfl⟩ := smooth completion List.mem_cons_self
      have later : Smooth rest := fun other member => smooth other (List.mem_cons_of_mem _ member)
      have positive : 0 < bytes.length := List.length_pos_iff.mpr nonempty
      refine ⟨bytes.take size,
        if bytes.length ≤ size then rest else .transferred (bytes.drop size) :: rest, ?_, ?_⟩
      · refine ⟨?_, ?_, ?_, ?_⟩
        · apply List.length_pos_iff.mp
          rw [List.length_take]
          omega
        · exact List.length_take_le size bytes
        · rw [waiting]
          split
          · rename_i whole
            rw [List.take_of_length_le whole]
            rfl
          · calc arrived (.transferred bytes :: rest) = bytes ++ arrived rest := rfl
              _ = bytes.take size ++ (bytes.drop size ++ arrived rest) := by
                  rw [← List.append_assoc, List.take_append_drop]
        · split
          · exact later
          · intro other member
            rcases List.mem_cons.mp member with rfl | member
            · refine ⟨bytes.drop size, ?_, rfl⟩
              apply List.length_pos_iff.mp
              rw [List.length_drop]
              omega
            · exact later other member
      · rw [readFile, waiting]

theorem deadlineExpired_of_smooth {connection : Connection} (smooth : Smooth connection.reads) :
    connection.deadlineExpired false = false := by
  rw [Connection.deadlineExpired, if_neg (by decide)]
  split
  · rename_i waiting
    obtain ⟨bytes, _, transferred⟩ := smooth .expired (by rw [waiting]; exact List.mem_cons_self)
    cases transferred
  · rfl

theorem transferOnce_fragment {connection : Connection} {size : Nat} (buffer : Block capacity)
    (offset : Nat) (smooth : Smooth connection.reads) (active : connection.isActive = true)
    (pending : connection.reads ≠ []) (asked : 0 < size) :
    ∃ chunk reads, Fragment connection size chunk reads ∧
      transferOnce connection buffer offset size false =
        (.ok chunk.length, buffer.store offset chunk, { connection with reads := reads }) := by
  obtain ⟨chunk, reads, fragment, file⟩ := readFile_fragment buffer offset smooth pending asked
  have positive : chunk.length ≠ 0 := fun empty =>
    fragment.nonempty (List.eq_nil_of_length_eq_zero empty)
  refine ⟨chunk, reads, fragment, ?_⟩
  rw [transferOnce, if_neg (by omega), if_pos active, if_neg (by decide), file]
  dsimp only
  rw [if_neg positive]

theorem transferExact_step {connection after : Connection} {buffer stored : Block capacity}
    {start size offset transferred : Nat} {writing : Bool} (remaining : offset < size)
    (active : connection.isActive = true) (inTime : connection.deadlineExpired writing = false)
    (fits : transferred ≤ min kTransferChunkSize (size - offset))
    (once : transferOnce connection buffer (start + offset) (min kTransferChunkSize (size - offset))
      writing = (.ok transferred, stored, after)) :
    transferExact connection buffer start size offset writing =
      transferExact after stored start size (offset + transferred) writing := by
  conv => lhs; rw [transferExact]
  rw [if_pos remaining, if_pos active, inTime, if_neg (by decide)]
  split
  · rename_i again
    rw [once] at again
    cases again
    exact if_neg (by omega)
  · rename_i again
    rw [once] at again
    cases again

theorem transferExact_done {connection : Connection} {buffer : Block capacity}
    {start size offset : Nat} {writing : Bool} (done : ¬ offset < size) :
    transferExact connection buffer start size offset writing = (.ok (), buffer, connection) := by
  rw [transferExact, if_neg done]

theorem transferExact_arrived {connection : Connection} {buffer : Block capacity}
    {start size offset : Nat} (smooth : Smooth connection.reads)
    (active : connection.isActive = true) (inside : start + size ≤ capacity)
    (begun : offset ≤ size) (enough : size - offset ≤ (arrived connection.reads).length) :
    ∃ stored reads, transferExact connection buffer start size offset false =
        (.ok (), stored, { connection with reads := reads }) ∧ Smooth reads ∧
      arrived reads = (arrived connection.reads).drop (size - offset) ∧
      stored.load 0 (start + size) =
        buffer.load 0 (start + offset) ++ (arrived connection.reads).take (size - offset) := by
  generalize remaining : size - offset = count at enough
  induction count using Nat.strongRecOn generalizing connection buffer offset with
  | ind count ih =>
      by_cases finished : offset < size
      · have asked : 0 < min kTransferChunkSize (size - offset) := by
          rw [kTransferChunkSize]
          omega
        have pending : connection.reads ≠ [] := by
          intro closed
          rw [closed] at enough
          simp only [arrived, List.flatMap_nil, List.length_nil] at enough
          omega
        obtain ⟨chunk, reads, fragment, once⟩ :=
          transferOnce_fragment buffer (start + offset) smooth active pending asked
        have nonempty : 0 < chunk.length := List.length_pos_iff.mpr fragment.nonempty
        have fits := fragment.fits
        have split := congrArg List.length fragment.split
        rw [List.length_append] at split
        obtain ⟨stored, later, transfer, laterSmooth, dropped, loaded⟩ :=
          @ih (count - chunk.length) (by omega) { connection with reads := reads }
            (buffer.store (start + offset) chunk) (offset + chunk.length) fragment.smooth active
            (by omega) (by omega) (by dsimp only; omega)
        refine ⟨stored, later, ?_, laterSmooth, ?_, ?_⟩
        · rw [transferExact_step finished active (deadlineExpired_of_smooth smooth) fits once, transfer]
        · rw [dropped, fragment.split, List.drop_append,
            List.drop_of_length_le (show chunk.length ≤ count by omega), List.nil_append]
        · have behind := @Block.load_store_behind capacity buffer 0 (start + offset) chunk
            (Nat.zero_le _) (by omega)
          rw [loaded, ← Nat.add_assoc, behind, fragment.split, List.take_append,
            List.take_of_length_le (show chunk.length ≤ count by omega), List.append_assoc]
      · have nothing : count = 0 := by omega
        have same : start + offset = start + size := by omega
        refine ⟨buffer, connection.reads, transferExact_done finished, smooth, ?_, ?_⟩
        · rw [nothing, List.drop_zero]
        · rw [nothing, List.take_zero, List.append_nil, same]

end Arrivals

section Buffer

namespace Connection

structure Bounded (connection : Connection) : Prop where
  ordered : connection.readBegin ≤ connection.readEnd
  inside : connection.readEnd ≤ kFastFrameBufferSize

def unread (connection : Connection) : Bytes :=
  connection.readBuffer.load connection.readBegin connection.readEnd

def stream (connection : Connection) : Bytes := connection.unread ++ arrived connection.reads

/-- A connection in use, whose bytes arrive without errors. -/
structure Receiving (connection : Connection) : Prop where
  bounded : connection.Bounded
  active : connection.isActive = true
  smooth : Smooth connection.reads

theorem Bounded.length_unread {connection : Connection} (bounded : connection.Bounded) :
    connection.unread.length = available connection := by
  rw [unread, Block.length_load bounded.inside, available]

end Connection

theorem compact_bounded {connection : Connection} (bounded : connection.Bounded) :
    (compact connection).Bounded := by
  have ordered := bounded.ordered
  have inside := bounded.inside
  unfold compact
  split
  · exact ⟨Nat.le_refl 0, Nat.zero_le _⟩
  · split
    · exact ⟨Nat.zero_le _, by dsimp only; omega⟩
    · exact bounded

theorem compact_unread {connection : Connection} (bounded : connection.Bounded) :
    (compact connection).unread = connection.unread := by
  have inside := bounded.inside
  have length := bounded.length_unread
  unfold compact
  split
  · rename_i empty
    rw [Connection.unread, Connection.unread, empty, Block.load_self, Block.load_self]
  · split
    · have moved := @Block.load_store_self _ connection.readBuffer 0 connection.unread
        (by rw [length, available]; omega)
      rw [length, Nat.zero_add] at moved
      exact moved
    · rfl

theorem compact_connection (connection : Connection) :
    ∃ buffer readBegin readEnd, compact connection =
      { connection with
        readBuffer := buffer
        readBegin := readBegin
        readEnd := readEnd } := by
  unfold compact
  split
  · exact ⟨_, _, _, rfl⟩
  · split
    · exact ⟨_, _, _, rfl⟩
    · exact ⟨connection.readBuffer, connection.readBegin, connection.readEnd, rfl⟩

theorem compact_receiving {connection : Connection} (receiving : connection.Receiving) :
    (compact connection).Receiving ∧ (compact connection).stream = connection.stream := by
  have bounded := compact_bounded receiving.bounded
  have unread := compact_unread receiving.bounded
  obtain ⟨buffer, readBegin, readEnd, same⟩ := compact_connection connection
  rw [Connection.stream, unread]
  rw [same] at bounded ⊢
  exact ⟨⟨bounded, receiving.active, receiving.smooth⟩, rfl⟩

theorem fillReadBuffer_receiving {connection : Connection} (receiving : connection.Receiving)
    (room : available connection < kFastFrameBufferSize) (pending : connection.reads ≠ []) :
    ∃ filled, fillReadBuffer connection = (.ok (), filled) ∧ filled.Receiving ∧
      filled.stream = connection.stream := by
  obtain ⟨kept, front⟩ := compact_available connection
  obtain ⟨compacted, same⟩ := compact_receiving receiving
  obtain ⟨_, _, _, frame⟩ := compact_connection connection
  have stillOpen : (compact connection).reads ≠ [] := by rwa [frame]
  rw [← same]
  rw [← kept, available, front, Nat.sub_zero] at room
  unfold fillReadBuffer
  dsimp only
  generalize compact connection = connection at *
  have free : 0 < kFastFrameBufferSize - connection.readEnd := by omega
  obtain ⟨chunk, reads, fragment, once⟩ := transferOnce_fragment connection.readBuffer
    connection.readEnd compacted.smooth compacted.active stillOpen free
  have fits := fragment.fits
  rw [if_neg (by omega), readSome, deadlineExpired_of_smooth compacted.smooth,
    if_neg (by decide), once]
  refine ⟨_, rfl, ⟨⟨?_, ?_⟩, compacted.active, fragment.smooth⟩, ?_⟩
  · exact Nat.le_trans compacted.bounded.ordered (Nat.le_add_right _ _)
  · dsimp only
    omega
  · have behind := @Block.load_store_behind _ connection.readBuffer connection.readBegin
      connection.readEnd chunk compacted.bounded.ordered (by omega)
    rw [Connection.stream, Connection.stream, Connection.unread, Connection.unread, fragment.split]
    dsimp only
    rw [behind, List.append_assoc]

theorem ensureBufferedBytes_filled {connection filled : Connection} {required : Nat}
    (short : available connection < required) (fill : fillReadBuffer connection = (.ok (), filled)) :
    ensureBufferedBytes connection required = ensureBufferedBytes filled required := by
  conv => lhs; rw [ensureBufferedBytes]
  rw [if_pos short]
  split
  · rename_i again
    rw [fill] at again
    cases again
    rfl
  · rename_i again
    rw [fill] at again
    cases again

theorem ensureBufferedBytes_failed {connection filled : Connection} {required : Nat}
    {error : Win32Error} (short : available connection < required)
    (fill : fillReadBuffer connection = (.error error, filled)) :
    ensureBufferedBytes connection required = (.error error, filled) := by
  rw [ensureBufferedBytes, if_pos short]
  split
  · rename_i again
    rw [fill] at again
    cases again
  · rename_i again
    rw [fill] at again
    cases again
    rfl

theorem ensureBufferedBytes_receiving {connection : Connection} {required : Nat}
    (receiving : connection.Receiving) (fits : required ≤ kFastFrameBufferSize)
    (enough : required ≤ connection.stream.length) :
    ∃ buffered, ensureBufferedBytes connection required = (.ok (), buffered) ∧
      buffered.Receiving ∧ buffered.stream = connection.stream ∧ required ≤ available buffered := by
  generalize missing : required - available connection = count
  induction count using Nat.strongRecOn generalizing connection with
  | ind count ih =>
      by_cases short : available connection < required
      · have pending : connection.reads ≠ [] := by
          intro closed
          rw [Connection.stream, closed, List.length_append, receiving.bounded.length_unread] at enough
          simp only [arrived, List.flatMap_nil, List.length_nil] at enough
          omega
        obtain ⟨filled, fill, filledReceiving, same⟩ :=
          fillReadBuffer_receiving receiving (by omega) pending
        have grows := fillReadBuffer_grows fill
        obtain ⟨buffered, ensure, bufferedReceiving, stream, enoughBuffered⟩ :=
          @ih (required - available filled) (by omega) filled filledReceiving (by rwa [same]) rfl
        refine ⟨buffered, ?_, bufferedReceiving, stream.trans same, enoughBuffered⟩
        rw [ensureBufferedBytes_filled short fill, ensure]
      · refine ⟨connection, ?_, receiving, rfl, Nat.le_of_not_lt short⟩
        rw [ensureBufferedBytes, if_neg short]

theorem load_eq_slice_stream {connection : Connection} (bounded : connection.Bounded)
    {first last : Nat} (buffered : last ≤ available connection) :
    connection.readBuffer.load (connection.readBegin + first) (connection.readBegin + last) =
      slice connection.stream first last := by
  have ordered := bounded.ordered
  have length := bounded.length_unread
  have start : connection.stream.take last = connection.unread.take last := by
    rw [Connection.stream, List.take_append_of_le_length (by omega)]
  rw [available] at buffered
  rw [slice, start, ← slice, Connection.unread, Block.slice_load (by omega)]

theorem stream_drop {connection : Connection} (bounded : connection.Bounded) {count : Nat}
    (buffered : count ≤ available connection) :
    connection.stream.drop count =
      connection.readBuffer.load (connection.readBegin + count) connection.readEnd ++
        arrived connection.reads := by
  have length := bounded.length_unread
  rw [available] at buffered
  have split := @Block.load_append _ connection.readBuffer connection.readBegin
    (connection.readBegin + count) connection.readEnd (Nat.le_add_right _ _)
    (by have := bounded.ordered; omega)
  have first : (connection.readBuffer.load connection.readBegin
      (connection.readBegin + count)).length = count := by
    have inside := bounded.inside
    have ordered := bounded.ordered
    rw [Block.length_load (by omega), Nat.add_sub_cancel_left]
  rw [Connection.stream, Connection.unread, ← split, List.append_assoc, List.drop_left' first]

end Buffer

section Frames

variable {connection : Connection} {type : FrameType} {payloadSize : UInt32}
  {header payload rest : Bytes}

theorem readView_frame (receiving : connection.Receiving)
    (stream : connection.stream = header ++ (payload ++ rest))
    (length : header.length = kFrameHeaderSize) (size : payloadSize.toNat = payload.length)
    (fits : kFrameHeaderSize + payloadSize.toNat ≤ kFastFrameBufferSize) :
    ∃ frame after, readView connection type payloadSize = (.ok (), frame, after) ∧
      frame.type = type ∧ frame.payloadSize = payloadSize ∧ frame.bytes after = payload ∧
      after.Receiving ∧ after.stream = rest := by
  have enough : kFrameHeaderSize + payloadSize.toNat ≤ connection.stream.length := by
    rw [stream, List.length_append, List.length_append, length, size]
    omega
  obtain ⟨buffered, ensure, bufferedReceiving, same, held⟩ :=
    ensureBufferedBytes_receiving receiving fits enough
  rw [stream] at same
  have bounded := bufferedReceiving.bounded
  have ordered := bounded.ordered
  have inside := bounded.inside
  have whole : (header ++ payload).length = kFrameHeaderSize + payloadSize.toNat := by
    rw [List.length_append, length, size]
  have viewed : buffered.readBuffer.load (buffered.readBegin + kFrameHeaderSize)
      (buffered.readBegin + kFrameHeaderSize + payloadSize.toNat) = payload := by
    rw [Nat.add_assoc, load_eq_slice_stream bounded held, same, slice, ← List.append_assoc,
      List.take_left' whole, List.drop_left' length]
  have view : ∀ after : Connection, after.readBuffer = buffered.readBuffer →
      (Frame.reset.setView type (if payloadSize = 0 then .null
        else .readBuffer (buffered.readBegin + kFrameHeaderSize)) payloadSize).bytes after =
        payload := by
    intro after sameBuffer
    rw [Frame.setView, Frame.bytes]
    by_cases empty : payloadSize = 0
    · have nothing : payload.length = 0 := by
        rw [← size, empty]
        rfl
      rw [if_pos empty, List.eq_nil_of_length_eq_zero nothing]
    · rw [if_neg empty, if_neg empty]
      dsimp only
      rw [sameBuffer, viewed]
  have behind : rest = buffered.readBuffer.load
      (buffered.readBegin + (kFrameHeaderSize + payloadSize.toNat)) buffered.readEnd ++
        arrived buffered.reads := by
    rw [← stream_drop bounded held, same, ← List.append_assoc, List.drop_left' whole]
  rw [available] at held
  rw [readView, ensure]
  dsimp only
  split
  · rename_i drained
    refine ⟨_, _, rfl, rfl, rfl, view _ rfl, ⟨⟨Nat.le_refl 0, Nat.zero_le _⟩,
      bufferedReceiving.active, bufferedReceiving.smooth⟩, ?_⟩
    rw [behind, drained, Block.load_self, Connection.stream, Connection.unread, Block.load_self]
  · refine ⟨_, _, rfl, rfl, rfl, view _ rfl, ⟨⟨?_, inside⟩, bufferedReceiving.active,
      bufferedReceiving.smooth⟩, ?_⟩
    · dsimp only
      omega
    · rw [behind, Connection.stream, Connection.unread]

theorem readOwned_frame {allocates : Nat → Bool} (receiving : connection.Receiving)
    (stream : connection.stream = header ++ (payload ++ rest))
    (length : header.length = kFrameHeaderSize) (size : payloadSize.toNat = payload.length)
    (held : kFrameHeaderSize ≤ available connection)
    (large : kFastFrameBufferSize < kFrameHeaderSize + payloadSize.toNat)
    (allocated : allocates payloadSize.toNat = true) :
    ∃ frame after, readOwned allocates connection type payloadSize = (.ok (), frame, after) ∧
      frame.type = type ∧ frame.payloadSize = payloadSize ∧ frame.bytes after = payload ∧
      after.Receiving ∧ after.stream = rest := by
  have bounded := receiving.bounded
  have inside := bounded.inside
  have ordered := bounded.ordered
  generalize counted : available connection - kFrameHeaderSize = bufferedPayload
  have part : bufferedPayload ≤ payload.length := by
    rw [available] at counted
    omega
  have position : available connection = kFrameHeaderSize + bufferedPayload := by omega
  have copied : connection.readBuffer.load (connection.readBegin + kFrameHeaderSize)
      (connection.readBegin + kFrameHeaderSize + bufferedPayload) =
        payload.take bufferedPayload := by
    rw [Nat.add_assoc, load_eq_slice_stream bounded (Nat.le_of_eq position.symm), stream, slice,
      ← length, List.take_length_add_append, List.drop_left,
      List.take_append_of_le_length part]
  have coming : arrived connection.reads = payload.drop bufferedPayload ++ rest := by
    have drained : connection.readBegin + available connection = connection.readEnd := by
      rw [available]
      omega
    have behind := stream_drop bounded (Nat.le_refl (available connection))
    rw [drained, Block.load_self, List.nil_append] at behind
    rw [← behind, stream, position, ← length, List.drop_length_add_append,
      List.drop_append_of_le_length part]
  have remaining : (payload.drop bufferedPayload).length = payloadSize.toNat - bufferedPayload := by
    rw [List.length_drop, size]
  have buffered : (payload.take bufferedPayload).length = bufferedPayload := by
    rw [List.length_take, Nat.min_eq_left part]
  have total : bufferedPayload + (payloadSize.toNat - bufferedPayload) = payloadSize.toNat := by
    omega
  obtain ⟨stored, reads, transfer, smooth, later, loaded⟩ :=
    @transferExact_arrived _
      { connection with
        readBegin := 0
        readEnd := 0 }
      ((Block.zeros payloadSize.toNat).store 0 (payload.take bufferedPayload)) bufferedPayload
      (payloadSize.toNat - bufferedPayload) 0 receiving.smooth receiving.active
      (Nat.le_of_eq total) (Nat.zero_le _) (by
        dsimp only
        rw [coming, List.length_append, remaining]
        omega)
  have copy := @Block.load_store_self _ (Block.zeros payloadSize.toNat) 0
    (payload.take bufferedPayload) (by rw [buffered]; omega)
  rw [buffered, Nat.zero_add] at copy
  rw [Nat.sub_zero, coming, List.drop_left' remaining] at later
  rw [Nat.sub_zero, Nat.add_zero, total, Block.load_whole, copy, coming, List.take_left' remaining,
    List.take_append_drop] at loaded
  have nonempty : payloadSize ≠ 0 := by
    rintro rfl
    rw [kFrameHeaderSize, kFastFrameBufferSize] at large
    simp at large
  rw [readOwned, if_pos allocated, counted]
  dsimp only
  rw [copied, transfer]
  refine ⟨_, _, rfl, rfl, rfl, ?_, ⟨⟨Nat.le_refl 0, Nat.zero_le _⟩, receiving.active, smooth⟩, ?_⟩
  · rw [Frame.setView, if_neg nonempty, Frame.bytes]
    dsimp only
    rw [loaded, List.take_of_length_le (Nat.le_of_eq size.symm)]
  · rw [Connection.stream, Connection.unread, Block.load_self, List.nil_append]
    exact later

theorem readFrame_header (receiving : connection.Receiving)
    (stream : connection.stream = header ++ rest) (length : header.length = kFrameHeaderSize) :
    ∃ buffered, ensureBufferedBytes connection kFrameHeaderSize = (.ok (), buffered) ∧
      buffered.Receiving ∧ buffered.stream = header ++ rest ∧
      kFrameHeaderSize ≤ available buffered ∧
      buffered.readBuffer.load buffered.readBegin (buffered.readBegin + kFrameHeaderSize) =
        header := by
  have enough : kFrameHeaderSize ≤ connection.stream.length := by
    rw [stream, List.length_append, length]
    omega
  obtain ⟨buffered, ensure, bufferedReceiving, same, held⟩ :=
    ensureBufferedBytes_receiving receiving (by decide) enough
  rw [stream] at same
  refine ⟨buffered, ensure, bufferedReceiving, same, held, ?_⟩
  have loaded := @load_eq_slice_stream _ bufferedReceiving.bounded 0 _ held
  rw [Nat.add_zero, same, slice, List.take_left' length, List.drop_zero] at loaded
  exact loaded

theorem readFrame_frame {allocates : Nat → Bool} (receiving : connection.Receiving)
    (stream : connection.stream = buildHeader type payloadSize ++ (payload ++ rest))
    (size : payloadSize.toNat = payload.length) (control : type ≠ .data → payloadSize = 0)
    (bounded : payloadSize.toNat ≤ kMaxNoteSize)
    (memory : ∀ size, size ≤ kMaxNoteSize → allocates size = true) :
    ∃ frame after, readFrame allocates connection = (.ok (), frame, after) ∧
      frame.type = type ∧ frame.payloadSize = payloadSize ∧ frame.bytes after = payload ∧
      after.Receiving ∧ after.stream = rest := by
  have length := length_buildHeader type payloadSize
  obtain ⟨buffered, ensure, bufferedReceiving, same, held, header⟩ :=
    readFrame_header receiving stream length
  rw [readFrame, ensure]
  dsimp only
  rw [header, checkHeader_buildHeader control bounded]
  dsimp only
  split
  · rename_i fits
    exact readView_frame bufferedReceiving same length size fits
  · rename_i large
    exact readOwned_frame bufferedReceiving same length size held (Nat.lt_of_not_le large)
      (memory _ bounded)

theorem cancel_not_active (connection : Connection) (error : Win32Error) :
    (connection.cancel (some error)).isActive = false := by
  rw [Connection.cancel, Connection.isActive]
  split
  · exact Bool.and_false _
  · rename_i done
    rw [Bool.not_eq_true] at done
    rw [done]
    exact Bool.and_false _

theorem readFrame_malformed {allocates : Nat → Bool} (receiving : connection.Receiving)
    (stream : connection.stream = header ++ rest) (length : header.length = kFrameHeaderSize)
    (malformed : MalformedHeader header) :
    ∃ error after, readFrame allocates connection = (.error error, Frame.reset, after) ∧
      (error = .invalidData ∨ error = .fileTooLarge) ∧ after.status = some error ∧
      after.isActive = false := by
  obtain ⟨buffered, ensure, bufferedReceiving, _, _, loaded⟩ :=
    readFrame_header receiving stream length
  obtain ⟨error, kind, checked⟩ : ∃ error, (error = .invalidData ∨ error = .fileTooLarge) ∧
      checkHeader header = .error error := by
    rcases checkHeader_malformed length malformed with checked | checked
    · exact ⟨_, .inl rfl, checked⟩
    · exact ⟨_, .inr rfl, checked⟩
  have fresh : buffered.status.isNone = true := by
    have active := bufferedReceiving.active
    rw [Connection.isActive, Bool.and_eq_true] at active
    exact active.2
  refine ⟨error, buffered.cancel (some error), ?_, kind, ?_, cancel_not_active buffered error⟩
  · rw [readFrame, ensure]
    dsimp only
    rw [loaded, checked]
    rfl
  · rw [Connection.cancel, if_pos fresh]
    rfl

end Frames

section Bounds

variable {capacity : Nat} {connection : Connection}

theorem transferOnce_le {after : Connection} {buffer stored : Block capacity}
    {offset size transferred : Nat}
    (once : transferOnce connection buffer offset size false = (.ok transferred, stored, after)) :
    transferred ≤ size := by
  unfold transferOnce at once
  split at once
  · cases once
    exact Nat.zero_le size
  · split at once
    · rw [if_neg (by decide)] at once
      unfold readFile at once
      split at once
      · rename_i file
        split at file
        · cases file
        · split at once
          · cases once
          · cases file
            cases once
            exact List.length_take_le _ _
        · cases file
        · cases file
      · cases once
    · cases once

theorem fillReadBuffer_bounded (bounded : connection.Bounded) :
    (fillReadBuffer connection).2.Bounded := by
  have compacted := compact_bounded bounded
  unfold fillReadBuffer
  dsimp only
  generalize compact connection = connection at *
  obtain ⟨reads, same⟩ := readSome_connection connection connection.readBuffer connection.readEnd
    (kFastFrameBufferSize - connection.readEnd)
  split
  · exact compacted
  · split
    · rename_i transferred buffer after some
      have few : transferred ≤ kFastFrameBufferSize - connection.readEnd := by
        unfold readSome at some
        split at some
        · cases some
        · exact transferOnce_le some
      rw [some] at same
      dsimp only at same
      subst same
      have ordered := compacted.ordered
      have inside := compacted.inside
      constructor
      · dsimp only
        omega
      · dsimp only
        omega
    · rename_i some
      rw [some] at same
      dsimp only at same
      subst same
      exact ⟨compacted.ordered, compacted.inside⟩

theorem ensureBufferedBytes_bounded (required : Nat) (bounded : connection.Bounded) :
    (ensureBufferedBytes connection required).2.Bounded ∧
      ((ensureBufferedBytes connection required).1 = .ok () →
        required ≤ available (ensureBufferedBytes connection required).2) := by
  induction connection using ensureBufferedBytes.induct required with
  | case1 connection short filled fill ih =>
      have filledBounded := fillReadBuffer_bounded bounded
      rw [fill] at filledBounded
      rw [ensureBufferedBytes_filled short fill]
      exact ih filledBounded
  | case2 connection short error filled fill =>
      have filledBounded := fillReadBuffer_bounded bounded
      rw [fill] at filledBounded
      rw [ensureBufferedBytes_failed short fill]
      refine ⟨filledBounded, ?_⟩
      intro succeeded
      cases succeeded
  | case3 connection enough =>
      rw [ensureBufferedBytes, if_neg enough]
      exact ⟨bounded, fun _ => Nat.le_of_not_lt enough⟩

theorem transferExact_connection (buffer : Block capacity) (start size offset : Nat) :
    ∃ reads, (transferExact connection buffer start size offset false).2.2 =
      { connection with reads := reads } := by
  fun_induction transferExact connection buffer start size offset false with
  | case1 connection => exact ⟨connection.reads, rfl⟩
  | case2 connection buffer offset _ _ _ transferred stored after once _ =>
      have same := transferOnce_connection connection buffer (start + offset)
        (min kTransferChunkSize (size - offset))
      rwa [once] at same
  | case3 connection buffer offset _ _ _ transferred stored after once _ ih =>
      obtain ⟨reads, same⟩ := transferOnce_connection connection buffer (start + offset)
        (min kTransferChunkSize (size - offset))
      obtain ⟨later, result⟩ := ih
      rw [once] at same
      dsimp only at same
      rw [result, same]
      exact ⟨later, rfl⟩
  | case4 connection buffer offset _ _ _ error stored after once =>
      have same := transferOnce_connection connection buffer (start + offset)
        (min kTransferChunkSize (size - offset))
      rwa [once] at same
  | case5 connection => exact ⟨connection.reads, rfl⟩
  | case6 connection => exact ⟨connection.reads, rfl⟩

theorem cancel_bounded (bounded : connection.Bounded) (status : Option Win32Error) :
    (connection.cancel status).Bounded := by
  rw [Connection.cancel]
  split
  · exact ⟨bounded.ordered, bounded.inside⟩
  · exact bounded

theorem readView_bounded (bounded : connection.Bounded) (type : FrameType) (payloadSize : UInt32) :
    (readView connection type payloadSize).2.2.Bounded := by
  obtain ⟨ensured, enough⟩ :=
    ensureBufferedBytes_bounded (kFrameHeaderSize + payloadSize.toNat) bounded
  unfold readView
  dsimp only
  split
  · rename_i ensure
    rw [ensure] at ensured
    exact cancel_bounded ensured _
  · rename_i buffered ensure
    rw [ensure] at ensured enough
    have held := enough rfl
    have ordered := ensured.ordered
    rw [available] at held
    split
    · exact ⟨Nat.le_refl 0, Nat.zero_le _⟩
    · refine ⟨?_, ensured.inside⟩
      dsimp only at ordered held ⊢
      omega

theorem readOwned_bounded (allocates : Nat → Bool) (bounded : connection.Bounded)
    (type : FrameType) (payloadSize : UInt32) :
    (readOwned allocates connection type payloadSize).2.2.Bounded := by
  unfold readOwned
  split
  · dsimp only
    generalize (Block.zeros payloadSize.toNat).store 0 _ = owned
    obtain ⟨reads, same⟩ := @transferExact_connection _
      { connection with
        readBegin := 0
        readEnd := 0 } owned (available connection - kFrameHeaderSize)
      (payloadSize.toNat - (available connection - kFrameHeaderSize)) 0
    split
    · rename_i transfer
      rw [transfer] at same
      dsimp only at same
      subst same
      exact cancel_bounded ⟨Nat.le_refl 0, Nat.zero_le _⟩ _
    · rename_i transfer
      rw [transfer] at same
      dsimp only at same
      subst same
      exact ⟨Nat.le_refl 0, Nat.zero_le _⟩
  · exact cancel_bounded bounded _

theorem readFrame_bounded (allocates : Nat → Bool) (bounded : connection.Bounded) :
    (readFrame allocates connection).2.2.Bounded := by
  have ensured := (ensureBufferedBytes_bounded kFrameHeaderSize bounded).1
  unfold readFrame
  split
  · rename_i ensure
    rw [ensure] at ensured
    exact cancel_bounded ensured _
  · rename_i buffered ensure
    rw [ensure] at ensured
    split
    · exact cancel_bounded ensured _
    · split
      · exact readView_bounded ensured _ _
      · exact readOwned_bounded allocates ensured _ _

end Bounds

section Writes

variable {capacity : Nat}

/-- Writes that take some bytes, without errors and timeouts. -/
def SmoothWrites (writes : List (Completion Nat)) : Prop :=
  ∀ completion ∈ writes, ∃ count, 0 < count ∧ completion = .transferred count

theorem smoothWrites_nil : SmoothWrites [] := by
  intro completion member
  cases member

theorem transferOnce_written {connection : Connection} {size : Nat} (buffer : Block capacity)
    (offset : Nat) (smooth : SmoothWrites connection.writes) (active : connection.isActive = true)
    (asked : 0 < size) :
    ∃ count writes, 0 < count ∧ count ≤ size ∧ SmoothWrites writes ∧
      transferOnce connection buffer offset size true = (.ok count, buffer,
        { connection with
          written := connection.written ++ buffer.load offset (offset + count)
          writes := writes }) := by
  have once : ∀ {count : Nat} {after : Connection}, 0 < count →
      writeFile connection buffer offset size = (.ok count, buffer, after) →
      transferOnce connection buffer offset size true = (.ok count, buffer, after) := by
    intro count after positive file
    rw [transferOnce, if_neg (by omega), if_pos active, if_pos rfl, file]
    dsimp only
    rw [if_neg (by omega)]
  cases waiting : connection.writes with
  | nil =>
      refine ⟨size, [], asked, Nat.le_refl size, smoothWrites_nil, once asked ?_⟩
      rw [writeFile, waiting]
  | cons completion rest =>
      rw [waiting] at smooth
      obtain ⟨count, positive, rfl⟩ := smooth completion List.mem_cons_self
      have later : SmoothWrites rest := fun other member =>
        smooth other (List.mem_cons_of_mem _ member)
      refine ⟨min count size, rest, by omega, Nat.min_le_right count size, later,
        once (by omega) ?_⟩
      rw [writeFile, waiting]

theorem deadlineExpired_of_smoothWrites {connection : Connection}
    (smooth : SmoothWrites connection.writes) : connection.deadlineExpired true = false := by
  rw [Connection.deadlineExpired, if_pos rfl]
  split
  · rename_i waiting
    obtain ⟨count, _, transferred⟩ := smooth .expired (by rw [waiting]; exact List.mem_cons_self)
    cases transferred
  · rfl

theorem transferExact_written {connection : Connection} {buffer : Block capacity}
    {start size offset : Nat} (smooth : SmoothWrites connection.writes)
    (active : connection.isActive = true) (begun : offset ≤ size) :
    ∃ writes, SmoothWrites writes ∧
      transferExact connection buffer start size offset true = (.ok (), buffer,
        { connection with
          written := connection.written ++ buffer.load (start + offset) (start + size)
          writes := writes }) := by
  generalize remaining : size - offset = left
  induction left using Nat.strongRecOn generalizing connection offset with
  | ind left ih =>
      by_cases unfinished : offset < size
      · have asked : 0 < min kTransferChunkSize (size - offset) := by
          rw [kTransferChunkSize]
          omega
        obtain ⟨count, writes, positive, fits, smoothAfter, once⟩ :=
          transferOnce_written buffer (start + offset) smooth active asked
        obtain ⟨later, smoothLater, transfer⟩ :=
          @ih (left - count) (by omega)
            { connection with
              written := connection.written ++
                buffer.load (start + offset) (start + offset + count)
              writes := writes } (offset + count) smoothAfter active (by omega) (by omega)
        refine ⟨later, smoothLater, ?_⟩
        have joined := @Block.load_append _ buffer (start + offset) (start + offset + count)
          (start + size) (by omega) (by omega)
        rw [transferExact_step unfinished active (deadlineExpired_of_smoothWrites smooth) fits once,
          transfer, ← Nat.add_assoc, ← joined, ← List.append_assoc]
      · have same : start + offset = start + size := by omega
        refine ⟨connection.writes, smooth, ?_⟩
        rw [transferExact_done unfinished, same, Block.load_self, List.append_nil]

end Writes

/-- A frame that is written: data of at most 64 MiB, or a control frame without a payload. The
pointer of an empty payload may be null. -/
structure SentFrame where
  type : FrameType
  payload : Option Bytes
  control : type ≠ .data → payload.getD [] = []
  bounded : (payload.getD []).length ≤ kMaxNoteSize

namespace SentFrame

def bytes (frame : SentFrame) : Bytes := frame.payload.getD []

def payloadSize (frame : SentFrame) : UInt32 := UInt32.ofNat frame.bytes.length

def ofControl (type : FrameType) : SentFrame := ⟨type, none, fun _ => rfl, Nat.zero_le _⟩

def ofNote (note : Bytes) (bounded : note.length ≤ kMaxNoteSize) : SentFrame :=
  ⟨.data, some note, fun control => absurd rfl control, bounded⟩

def wire (frame : SentFrame) : Bytes := buildHeader frame.type frame.payloadSize ++ frame.bytes

theorem payloadSize_toNat (frame : SentFrame) : frame.payloadSize.toNat = frame.bytes.length := by
  have bounded : frame.bytes.length ≤ kMaxNoteSize := frame.bounded
  rw [kMaxNoteSize] at bounded
  exact UInt32.toNat_ofNat_of_lt' (show frame.bytes.length < 4294967296 by omega)

theorem payloadSize_le (frame : SentFrame) : frame.payloadSize.toNat ≤ kMaxNoteSize := by
  rw [payloadSize_toNat]
  exact frame.bounded

theorem payloadSize_control (frame : SentFrame) (control : frame.type ≠ .data) :
    frame.payloadSize = 0 := by
  rw [payloadSize, bytes, frame.control control]
  rfl

end SentFrame

section WrittenFrames

theorem writeFrameLocked_written {connection : Connection} (frame : SentFrame)
    (smooth : SmoothWrites connection.writes) (active : connection.isActive = true) :
    ∃ buffer writes, SmoothWrites writes ∧
      writeFrameLocked connection frame.type frame.bytes frame.payloadSize = (.ok (),
        { connection with
          writeBuffer := buffer
          written := connection.written ++ frame.wire
          writes := writes }) := by
  have size := frame.payloadSize_toNat
  have length := length_buildHeader frame.type frame.payloadSize
  unfold writeFrameLocked
  dsimp only
  split
  · rename_i fits
    generalize built : (connection.writeBuffer.store 0
      (buildHeader frame.type frame.payloadSize)).store kFrameHeaderSize
        (frame.bytes.take frame.payloadSize.toNat) = fastBuffer
    have whole : fastBuffer.load 0 (kFrameHeaderSize + frame.payloadSize.toNat) = frame.wire := by
      have taken : frame.bytes.take frame.payloadSize.toNat = frame.bytes :=
        List.take_of_length_le (Nat.le_of_eq size.symm)
      have header := @Block.load_store_self _ connection.writeBuffer 0
        (buildHeader frame.type frame.payloadSize) (by rw [length]; decide)
      rw [length, Nat.zero_add] at header
      have behind := @Block.load_store_behind _ (connection.writeBuffer.store 0
        (buildHeader frame.type frame.payloadSize)) 0 kFrameHeaderSize frame.bytes
        (Nat.zero_le _) (by rw [← size]; exact fits)
      rw [← built, taken, size, behind, header, SentFrame.wire]
    obtain ⟨writes, smoothAfter, transfer⟩ := @transferExact_written _
      { connection with writeBuffer := fastBuffer } fastBuffer 0
      (kFrameHeaderSize + frame.payloadSize.toNat) 0 smooth active (Nat.zero_le _)
    rw [Nat.zero_add, Nat.zero_add, whole] at transfer
    rw [transfer]
    exact ⟨fastBuffer, writes, smoothAfter, rfl⟩
  · obtain ⟨writes, smoothAfter, headerTransfer⟩ := @transferExact_written _ connection
      ⟨buildHeader frame.type frame.payloadSize, rfl⟩ 0
      (buildHeader frame.type frame.payloadSize).length 0 smooth active (Nat.zero_le _)
    rw [Nat.zero_add, Nat.zero_add, Block.load_whole] at headerTransfer
    rw [headerTransfer]
    dsimp only
    obtain ⟨later, smoothLater, payloadTransfer⟩ := @transferExact_written _
      { connection with
        written := connection.written ++ buildHeader frame.type frame.payloadSize
        writes := writes } ⟨frame.bytes, rfl⟩ 0 frame.payloadSize.toNat 0 smoothAfter active
      (Nat.zero_le _)
    have whole : (⟨frame.bytes, rfl⟩ : Block frame.bytes.length).load 0 frame.payloadSize.toNat =
        frame.bytes := by
      rw [size, Block.load_whole]
    rw [Nat.zero_add, Nat.zero_add, whole, List.append_assoc] at payloadTransfer
    rw [payloadTransfer]
    exact ⟨connection.writeBuffer, later, smoothLater, rfl⟩

theorem writeFrame_written {connection : Connection} (frame : SentFrame)
    (smooth : SmoothWrites connection.writes) (active : connection.isActive = true) :
    ∃ buffer writes, SmoothWrites writes ∧
      writeFrame connection frame.type frame.payload frame.payloadSize = (.ok (),
        { connection with
          writeBuffer := buffer
          written := connection.written ++ frame.wire
          writes := writes }) := by
  obtain ⟨buffer, writes, smoothAfter, locked⟩ := writeFrameLocked_written frame smooth active
  refine ⟨buffer, writes, smoothAfter, ?_⟩
  have pointer : ¬ (frame.payload = none ∧ frame.payloadSize ≠ 0) := by
    rintro ⟨null, nonempty⟩
    apply nonempty
    rw [SentFrame.payloadSize, SentFrame.bytes, null]
    rfl
  rw [SentFrame.bytes] at locked
  rw [writeFrame, if_neg pointer, if_neg (Nat.not_lt.mpr frame.payloadSize_le),
    if_neg (fun payload => payload.2 (frame.payloadSize_control payload.1)), if_pos active, locked]

end WrittenFrames

section Runs

def writeFrames (writer : Connection) :
    List SentFrame → List (Except Win32Error Unit) × Connection
  | [] => ([], writer)
  | frame :: later =>
      let written := writeFrame writer frame.type frame.payload frame.payloadSize
      let rest := writeFrames written.2 later
      (written.1 :: rest.1, rest.2)

/-- Successive calls of `ReadFrame`, with the type and the payload of each frame as they are when
the call returns. -/
def readFrames (allocates : Nat → Bool) (reader : Connection) :
    Nat → List (Except Win32Error Unit × FrameType × Bytes) × Connection
  | 0 => ([], reader)
  | count + 1 =>
      let result := readFrame allocates reader
      let rest := readFrames allocates result.2.2 count
      ((result.1, result.2.1.type, result.2.1.bytes result.2.2) :: rest.1, rest.2)

theorem writeFrames_written {writer : Connection} (frames : List SentFrame)
    (smooth : SmoothWrites writer.writes) (active : writer.isActive = true) :
    (writeFrames writer frames).1 = frames.map (fun _ => .ok ()) ∧
      (writeFrames writer frames).2.written = writer.written ++ frames.flatMap SentFrame.wire := by
  induction frames generalizing writer with
  | nil => exact ⟨rfl, (List.append_nil _).symm⟩
  | cons frame later ih =>
      obtain ⟨buffer, writes, smoothAfter, once⟩ := writeFrame_written frame smooth active
      obtain ⟨statuses, written⟩ := @ih
        { writer with
          writeBuffer := buffer
          written := writer.written ++ frame.wire
          writes := writes } smoothAfter active
      rw [writeFrames, once]
      dsimp only
      rw [statuses, written, List.map_cons, List.flatMap_cons, List.append_assoc]
      exact ⟨rfl, rfl⟩

theorem readFrames_frames {allocates : Nat → Bool}
    (memory : ∀ size, size ≤ kMaxNoteSize → allocates size = true) {reader : Connection}
    {rest : Bytes} (frames : List SentFrame) (receiving : reader.Receiving)
    (stream : reader.stream = frames.flatMap SentFrame.wire ++ rest) :
    (readFrames allocates reader frames.length).1 =
        frames.map (fun frame => (.ok (), frame.type, frame.bytes)) ∧
      (readFrames allocates reader frames.length).2.Receiving ∧
      (readFrames allocates reader frames.length).2.stream = rest := by
  induction frames generalizing reader with
  | nil => exact ⟨rfl, receiving, stream⟩
  | cons frame later ih =>
      rw [List.flatMap_cons, SentFrame.wire, List.append_assoc, List.append_assoc] at stream
      obtain ⟨read, after, once, type, _, bytes, receivingAfter, streamAfter⟩ :=
        readFrame_frame receiving stream frame.payloadSize_toNat frame.payloadSize_control
          frame.payloadSize_le memory
      obtain ⟨frames, last⟩ := ih receivingAfter streamAfter
      rw [List.length_cons, readFrames, once]
      dsimp only
      rw [frames, type, bytes]
      exact ⟨rfl, last⟩

theorem readFrames_bounded (allocates : Nat → Bool) {reader : Connection} (count : Nat)
    (bounded : reader.Bounded) : (readFrames allocates reader count).2.Bounded := by
  induction count generalizing reader with
  | zero => exact bounded
  | succ count ih => exact ih (readFrame_bounded allocates bounded)

theorem arrived_fragments (fragments : List Bytes) :
    arrived (fragments.map .transferred) = fragments.flatten := by
  induction fragments with
  | nil => rfl
  | cons fragment later ih =>
      rw [List.map_cons, List.flatten_cons, ← ih]
      rfl

theorem make_bounded (readBuffer writeBuffer : Block kFastFrameBufferSize)
    (reads : List (Completion Bytes)) (writes : List (Completion Nat)) :
    (Connection.make readBuffer writeBuffer reads writes).Bounded :=
  ⟨Nat.le_refl 0, Nat.zero_le _⟩

theorem make_stream (readBuffer writeBuffer : Block kFastFrameBufferSize)
    (reads : List (Completion Bytes)) (writes : List (Completion Nat)) :
    (Connection.make readBuffer writeBuffer reads writes).stream = arrived reads := by
  rw [Connection.stream, Connection.unread, Connection.make, Block.load_self, List.nil_append]

/-- Whatever both ends have in their buffers, however the writes are taken and however the pipe
cuts the bytes: the first calls of `ReadFrame` return the first frames, and they consume exactly the
bytes that were written for them. -/
def RoundTrips (allocates : Nat → Bool) : Prop :=
  ∀ (buffer writeBuffer readBuffer otherBuffer : Block kFastFrameBufferSize)
    (reads : List (Completion Bytes)) (writes otherWrites : List (Completion Nat))
    (earlier later : List SentFrame) (fragments : List Bytes),
    SmoothWrites writes → (∀ fragment ∈ fragments, fragment ≠ []) →
    let writer := Connection.make buffer writeBuffer reads writes
    let reader := Connection.make readBuffer otherBuffer (fragments.map .transferred) otherWrites
    let received := readFrames allocates reader earlier.length
    fragments.flatten = (writeFrames writer (earlier ++ later)).2.written →
    (∀ status ∈ (writeFrames writer (earlier ++ later)).1, status = .ok ()) ∧
      received.1 = earlier.map (fun frame => (.ok (), frame.type, frame.bytes)) ∧
      received.2.Bounded ∧
      (writeFrames writer earlier).2.written ++ received.2.stream = fragments.flatten

/-- The positions in the read buffer stay in order and inside it, also when transfers fail. -/
def KeepsBounds (allocates : Nat → Bool) : Prop :=
  (∀ connection : Connection, connection.Bounded →
    (compact connection).Bounded ∧ (fillReadBuffer connection).2.Bounded ∧
      (readFrame allocates connection).2.2.Bounded) ∧
  ∀ (readBuffer writeBuffer : Block kFastFrameBufferSize) (reads : List (Completion Bytes))
    (writes : List (Completion Nat)) (count : Nat),
    (readFrames allocates (.make readBuffer writeBuffer reads writes) count).2.Bounded

/-- A header that is not accepted cancels the connection, and the frame stays empty. -/
def RejectsMalformed (allocates : Nat → Bool) : Prop :=
  ∀ (connection : Connection) (header rest : Bytes), connection.Receiving →
    connection.stream = header ++ rest → header.length = kFrameHeaderSize →
    MalformedHeader header →
    ∃ error after, readFrame allocates connection = (.error error, Frame.reset, after) ∧
      (error = .invalidData ∨ error = .fileTooLarge) ∧ after.status = some error ∧
      after.isActive = false

theorem pipeFraming_roundTrip (allocates : Nat → Bool)
    (memory : ∀ size, size ≤ kMaxNoteSize → allocates size = true) :
    RoundTrips allocates ∧ KeepsBounds allocates ∧ RejectsMalformed allocates := by
  refine ⟨?_, ⟨?_, ?_⟩, ?_⟩
  · intro buffer writeBuffer readBuffer otherBuffer reads writes otherWrites earlier later fragments
      smooth nonempty writer reader received cut
    obtain ⟨statuses, whole⟩ := @writeFrames_written writer (earlier ++ later) smooth rfl
    obtain ⟨_, first⟩ := @writeFrames_written writer earlier smooth rfl
    rw [List.flatMap_append] at whole
    have stream : reader.stream =
        earlier.flatMap SentFrame.wire ++ later.flatMap SentFrame.wire := by
      rw [make_stream, arrived_fragments, cut, whole]
      rfl
    have receiving : reader.Receiving := by
      refine ⟨make_bounded _ _ _ _, rfl, ?_⟩
      intro completion member
      obtain ⟨fragment, fragmentMember, rfl⟩ := List.mem_map.mp member
      exact ⟨fragment, nonempty fragment fragmentMember, rfl⟩
    obtain ⟨frames, last, unread⟩ := readFrames_frames memory earlier receiving stream
    refine ⟨?_, frames, last.bounded, ?_⟩
    · intro status member
      rw [statuses] at member
      obtain ⟨_, _, ok⟩ := List.mem_map.mp member
      exact ok.symm
    · rw [unread, cut, whole, first, List.append_assoc]
  · intro connection bounded
    exact ⟨compact_bounded bounded, fillReadBuffer_bounded bounded,
      readFrame_bounded allocates bounded⟩
  · intro readBuffer writeBuffer reads writes count
    exact readFrames_bounded allocates count (make_bounded _ _ _ _)
  · intro connection header rest receiving stream length malformed
    exact readFrame_malformed receiving stream length malformed

/-- A `Ready` frame and a note of three bytes, of which the first seven bytes arrive on their own. -/
theorem pipeFraming_roundTrip_greeting :
    (readFrames (fun _ => true)
      (.make (.zeros _) (.zeros _)
        ([[80, 73, 80, 69, 1, 0, 1],
          [0, 0, 0, 0, 0, 80, 73, 80, 69, 1, 0, 4, 0, 3, 0, 0, 0, 7, 8, 9]].map .transferred) []) 2).1 =
      [(.ok (), .ready, []), (.ok (), .data, [7, 8, 9])] := by
  have greeting := (pipeFraming_roundTrip (fun _ => true) (fun _ _ => rfl)).1 (.zeros _) (.zeros _)
    (.zeros _) (.zeros _) [] [] [] [.ofControl .ready, .ofNote [7, 8, 9] (by decide)] []
    [[80, 73, 80, 69, 1, 0, 1],
      [0, 0, 0, 0, 0, 80, 73, 80, 69, 1, 0, 4, 0, 3, 0, 0, 0, 7, 8, 9]]
    smoothWrites_nil (by simp)
  refine (greeting ?_).2.1
  rw [(writeFrames_written _ smoothWrites_nil rfl).2]
  decide

end Runs

end WindowsKext.PipeTransport
