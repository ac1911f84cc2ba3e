import WindowsKext.DispatchChecks

/-! The reader of the C++ client over a whole stream. However the stream is split into reads, its
complete records are dispatched once and in order, and the rest stays in the buffer. -/

namespace WindowsKext

open ByteString LittleEndian FieldLayout

/-- A record as it stands in the stream, with any type and any payload. -/
structure FramedRecord where
  infoType : UInt8
  payload : Bytes
  small : payload.length < 2 ^ 32

namespace FramedRecord

def size (record : FramedRecord) : UInt32 := UInt32.ofNat record.payload.length

def bytes (record : FramedRecord) : Bytes :=
  record.infoType :: (bytesOfU32 record.size ++ record.payload)

def window (record : FramedRecord) : Window where
  buffer := record.payload
  start := 0
  length := record.payload.length

def calls (handlers : Handlers) (record : FramedRecord) : List DispatchCall :=
  (dispatchRecord handlers record.window record.infoType record.size).getD []

variable {handlers : Handlers} {record : FramedRecord}

@[simp] theorem length_bytes (record : FramedRecord) :
    record.bytes.length = recordHeaderSize + record.payload.length := by
  simp only [bytes, List.length_cons, List.length_append, length_bytesOfU32, recordHeaderSize]
  omega

theorem size_toNat (record : FramedRecord) : record.size.toNat = record.payload.length :=
  UInt32.toNat_ofNat_of_lt' record.small

theorem window_valid (record : FramedRecord) : record.window.Valid :=
  ⟨by simp [window]⟩

theorem window_content (record : FramedRecord) : record.window.content = record.payload := by
  simp [window, Window.content]

theorem dispatchRecord_calls (handlers : Handlers) (record : FramedRecord) :
    dispatchRecord handlers record.window record.infoType record.size =
      some (record.calls handlers) := by
  obtain ⟨calls, total⟩ := dispatchRecord_total handlers record.window_valid record.infoType
    record.size
  rw [FramedRecord.calls, total]
  rfl

end FramedRecord

def declaredSize (bytes : Bytes) : Nat := (u32OfBytes (field bytes 1 4)).toNat

/-- The beginning of a record that has not arrived completely. -/
def Incomplete (bytes : Bytes) : Prop :=
  bytes.length < recordHeaderSize ∨ bytes.length < recordHeaderSize + declaredSize bytes

theorem declaredSize_bytes (record : FramedRecord) (tail : Bytes) :
    declaredSize (record.bytes ++ tail) = record.payload.length := by
  have four : field (record.bytes ++ tail) 1 4 = bytesOfU32 record.size := by
    simp only [field, FramedRecord.bytes, List.cons_append, List.drop_succ_cons, List.drop_zero,
      List.append_assoc]
    exact List.take_left' (length_bytesOfU32 record.size)
  rw [declaredSize, four, u32OfBytes_bytesOfU32, record.size_toNat]

def firstRecord (stream : Bytes) : FramedRecord where
  infoType := byteAt stream 0
  payload := field stream 5 (declaredSize stream)
  small := by
    have bound := (u32OfBytes (field stream 1 4)).toNat_lt
    simp only [field, List.length_take, declaredSize] at bound ⊢
    omega

theorem bytesOfU32_u32OfBytes {bytes : Bytes} (four : bytes.length = 4) :
    bytesOfU32 (u32OfBytes bytes) = bytes := by
  have bound := decode_lt bytes
  have same := encode_decode bytes
  rw [four] at bound same
  rw [bytesOfU32, u32OfBytes, UInt32.toNat_ofNat_of_lt' bound, same]

theorem firstRecord_split {stream : Bytes} (complete : ¬ Incomplete stream) :
    stream = (firstRecord stream).bytes ++ stream.drop (5 + declaredSize stream) := by
  obtain ⟨header, payload⟩ := not_or.mp complete
  unfold recordHeaderSize at header payload
  have length : (firstRecord stream).payload.length = declaredSize stream := by
    simp only [firstRecord, field, List.length_take, List.length_drop]
    omega
  have size : bytesOfU32 (firstRecord stream).size = field stream 1 4 := by
    have four : (field stream 1 4).length = 4 := by
      simp only [field, List.length_take, List.length_drop]
      omega
    rw [FramedRecord.size, length, declaredSize, UInt32.ofNat_toNat, bytesOfU32_u32OfBytes four]
  cases stream with
  | nil => exact absurd header (by decide)
  | cons byte tail =>
      have header : (firstRecord (byte :: tail)).bytes =
          byte :: (tail.take 4 ++ (tail.drop 4).take (declaredSize (byte :: tail))) := by
        rw [FramedRecord.bytes, size]
        rfl
      have rest : (byte :: tail).drop (5 + declaredSize (byte :: tail)) =
          (tail.drop 4).drop (declaredSize (byte :: tail)) := by
        rw [List.drop_drop, Nat.add_comm 5, List.drop_succ_cons, Nat.add_comm 4]
      rw [header, rest, List.cons_append, List.append_assoc, List.take_append_drop,
        List.take_append_drop]

theorem exists_records (stream : Bytes) :
    ∃ (records : List FramedRecord) (rest : Bytes),
      stream = records.flatMap FramedRecord.bytes ++ rest ∧ Incomplete rest := by
  generalize length : stream.length = bound
  induction bound using Nat.strongRecOn generalizing stream with
  | ind bound ih =>
      by_cases incomplete : Incomplete stream
      · exact ⟨[], stream, rfl, incomplete⟩
      · have shorter : (stream.drop (5 + declaredSize stream)).length < bound := by
          have header := (not_or.mp incomplete).1
          unfold recordHeaderSize at header
          rw [List.length_drop]
          omega
        obtain ⟨records, rest, split, ends⟩ := ih _ shorter _ rfl
        refine ⟨firstRecord stream :: records, rest, ?_, ends⟩
        rw [List.flatMap_cons, List.append_assoc, ← split]
        exact firstRecord_split incomplete

section Loop

variable (handlers : Handlers)

theorem forwardRecord_noClient (record : Bytes) : forwardRecord noClient record = (false, []) :=
  rfl

theorem dispatchLoop_record (record : FramedRecord) (before tail : Bytes) (fuel : Nat) :
    dispatchLoop handlers (fun _ => noClient) (before ++ (record.bytes ++ tail)) (fuel + 1)
        before.length =
      (dispatchLoop handlers (fun _ => noClient) (before ++ (record.bytes ++ tail)) fuel
        (before.length + record.bytes.length)).map fun result =>
          (record.calls handlers ++ result.1, result.2) := by
  have available : (before ++ (record.bytes ++ tail)).length - before.length =
      recordHeaderSize + record.payload.length + tail.length := by
    rw [List.length_append, List.length_append, record.length_bytes]
    omega
  let header : Window :=
    { buffer := before ++ (record.bytes ++ tail)
      start := before.length
      length := recordHeaderSize + record.payload.length + tail.length }
  have headerValid : header.Valid := by
    constructor
    simp only [header, List.length_append, record.length_bytes]
    omega
  have headerContent : header.content = record.bytes ++ tail := by
    rw [Window.content, List.drop_left' rfl]
    refine List.take_of_length_le (Nat.le_of_eq ?_)
    rw [List.length_append, record.length_bytes]
  have size : header.readU32 1 = some record.size := by
    rw [Window.readU32_value headerValid (by simp only [header, recordHeaderSize]; omega),
      headerContent]
    have declared := declaredSize_bytes record tail
    rw [declaredSize, ← record.size_toNat] at declared
    exact congrArg some (UInt32.toNat_inj.mp declared)
  have infoType : header.byte 0 = some record.infoType := by
    rw [Window.byte_value headerValid (by simp only [header, recordHeaderSize]; omega),
      headerContent]
    rfl
  have payload : dispatchRecord handlers
      { buffer := before ++ (record.bytes ++ tail)
        start := before.length + recordHeaderSize
        length := record.payload.length } record.infoType record.size =
      some (record.calls handlers) := by
    rw [← record.dispatchRecord_calls handlers]
    refine dispatchRecord_congr handlers ⟨?_⟩ record.window_valid ?_ _ _
    · simp only [List.length_append, record.length_bytes]
      omega
    · rw [record.window_content, Window.content, ← List.drop_drop, List.drop_left' rfl]
      simp only [FramedRecord.bytes, recordHeaderSize, List.cons_append, List.drop_succ_cons,
        List.append_assoc]
      rw [List.drop_left' (length_bytesOfU32 record.size), List.take_left' rfl]
  have enough : ¬ recordHeaderSize + record.payload.length + tail.length < recordHeaderSize := by
    omega
  have complete : ¬ record.payload.length >
      recordHeaderSize + record.payload.length + tail.length - recordHeaderSize := by omega
  rw [dispatchLoop]
  simp only [available, enough, ↓reduceIte]
  rw [size]
  simp only [Option.bind_eq_bind, Option.bind_some, record.size_toNat, complete, ↓reduceIte,
    forwardRecord_noClient, Bool.false_eq_true]
  rw [infoType, Option.bind_some, payload, Option.bind_some, ← record.length_bytes]
  cases dispatchLoop handlers (fun _ => noClient) (before ++ (record.bytes ++ tail)) fuel
    (before.length + record.bytes.length) with
  | none => rfl
  | some result => rfl

theorem dispatchLoop_incomplete {rest : Bytes} (incomplete : Incomplete rest) (before : Bytes)
    (fuel : Nat) :
    dispatchLoop handlers (fun _ => noClient) (before ++ rest) fuel before.length =
      some ([], before.length) := by
  cases fuel with
  | zero => rfl
  | succ fuel =>
      have available : (before ++ rest).length - before.length = rest.length := by
        rw [List.length_append]
        omega
      rw [dispatchLoop]
      simp only [available]
      by_cases header : rest.length < recordHeaderSize
      · rw [if_pos header]
      · have short := incomplete.resolve_left header
        have valid : ({ buffer := before ++ rest, start := before.length, length := rest.length } :
            Window).Valid := ⟨by simp⟩
        have content : ({ buffer := before ++ rest, start := before.length, length := rest.length } :
            Window).content = rest := by
          simp [Window.content]
        have readable : 1 + 4 ≤ rest.length := Nat.not_lt.mp header
        rw [if_neg header, Window.readU32_value valid readable, content]
        simp only [Option.bind_eq_bind, Option.bind_some]
        refine if_pos ?_
        change declaredSize rest > rest.length - recordHeaderSize
        omega

theorem dispatchLoop_records {rest : Bytes} (incomplete : Incomplete rest)
    (records : List FramedRecord) (before : Bytes) {fuel : Nat} (enough : records.length ≤ fuel) :
    dispatchLoop handlers (fun _ => noClient)
        (before ++ (records.flatMap FramedRecord.bytes ++ rest)) fuel before.length =
      some (records.flatMap (FramedRecord.calls handlers),
        before.length + (records.flatMap FramedRecord.bytes).length) := by
  induction records generalizing before fuel with
  | nil => exact dispatchLoop_incomplete handlers incomplete before fuel
  | cons record records ih =>
      cases fuel with
      | zero => simp at enough
      | succ fuel =>
          have later := ih (before ++ record.bytes) (Nat.le_of_succ_le_succ enough)
          rw [List.append_assoc before, List.length_append] at later
          rw [List.flatMap_cons, List.append_assoc record.bytes, dispatchLoop_record, later]
          simp [Nat.add_assoc]

theorem length_records_le (records : List FramedRecord) :
    records.length ≤ (records.flatMap FramedRecord.bytes).length := by
  induction records with
  | nil => exact Nat.le_refl 0
  | cons record records ih =>
      rw [List.flatMap_cons, List.length_append, record.length_bytes, List.length_cons,
        recordHeaderSize]
      omega

theorem dispatch_records {rest : Bytes} (incomplete : Incomplete rest)
    (records : List FramedRecord) :
    dispatch handlers (fun _ => noClient) (records.flatMap FramedRecord.bytes ++ rest) =
      some (records.flatMap (FramedRecord.calls handlers),
        (records.flatMap FramedRecord.bytes).length) := by
  have enough : records.length ≤ (records.flatMap FramedRecord.bytes ++ rest).length := by
    have lengths := length_records_le records
    rw [List.length_append]
    omega
  have loop := dispatchLoop_records handlers incomplete records [] enough
  simpa [dispatch] using loop

def unclaimed (chunks : List Bytes) : List DeviceRead :=
  chunks.map fun chunk => .data chunk fun _ => noClient

theorem readerLoop_records (chunks : List Bytes) (nonempty : ∀ chunk ∈ chunks, chunk ≠ [])
    {buffer : Bytes} (incomplete : Incomplete buffer) :
    ∃ (records : List FramedRecord) (rest : Bytes),
      buffer ++ chunks.flatten = records.flatMap FramedRecord.bytes ++ rest ∧ Incomplete rest ∧
      readerLoop handlers (unclaimed chunks) buffer =
        some (records.flatMap (FramedRecord.calls handlers), rest) := by
  induction chunks generalizing buffer with
  | nil =>
      refine ⟨[], buffer, ?_, incomplete, rfl⟩
      simp
  | cons chunk chunks ih =>
      obtain ⟨records, rest, split, ends⟩ := exists_records (buffer ++ chunk)
      obtain ⟨later, last, laterSplit, laterEnds, run⟩ :=
        ih (fun other member => nonempty other (List.mem_cons_of_mem _ member)) ends
      refine ⟨records ++ later, last, ?_, laterEnds, ?_⟩
      · rw [List.flatten_cons, ← List.append_assoc, split, List.append_assoc, laterSplit,
          List.flatMap_append, List.append_assoc]
      · have arrived : chunk.isEmpty = false :=
          List.isEmpty_eq_false_iff.mpr (nonempty chunk List.mem_cons_self)
        have consumed := dispatch_records handlers ends records
        simp only [unclaimed] at run
        simp only [unclaimed, List.map_cons, readerLoop, arrived, Bool.false_eq_true, ↓reduceIte,
          split, consumed, Option.bind_eq_bind, Option.bind_some, List.drop_left, run,
          List.flatMap_append, Option.pure_def]

end Loop

/-- The C++ reader does not depend on how the stream is split into reads. The calls are those of
one `Dispatch` over the whole stream, record by record; each record, of whatever type and
content, takes exactly its declared size; and the buffer keeps the beginning of the last record.
No read leaves its record: `dispatchRecord` has a result for each. -/
theorem readerLoop_independent_of_chunking (handlers : Handlers) (chunks : List Bytes)
    (nonempty : ∀ chunk ∈ chunks, chunk ≠ []) :
    ∃ (records : List FramedRecord) (rest : Bytes),
      chunks.flatten = records.flatMap FramedRecord.bytes ++ rest ∧ Incomplete rest ∧
      (∀ record ∈ records, dispatchRecord handlers record.window record.infoType record.size =
        some (record.calls handlers)) ∧
      dispatch handlers (fun _ => noClient) chunks.flatten =
        some (records.flatMap (FramedRecord.calls handlers), chunks.flatten.length - rest.length) ∧
      readerLoop handlers (unclaimed chunks) [] =
        some (records.flatMap (FramedRecord.calls handlers), rest) := by
  have empty : Incomplete [] := .inl (by decide)
  obtain ⟨records, rest, split, ends, run⟩ := readerLoop_records handlers chunks nonempty empty
  rw [List.nil_append] at split
  refine ⟨records, rest, split, ends, fun record _ => record.dispatchRecord_calls handlers, ?_, run⟩
  rw [split, dispatch_records handlers ends, List.length_append, Nat.add_sub_cancel]

/-- An unknown record, a log line and the first byte of a third one. -/
def cutStream : List Bytes := [[9, 2, 0], [0, 0, 1, 2, 0, 2, 0, 0, 0], [4, 65, 1]]

theorem readerLoop_independent_of_chunking_cutStream :
    readerLoop Handlers.all (unclaimed cutStream) [] =
      some ([.onWarning "unknown InfoType 9, skipping 2 bytes", .onLog 4 [65]], [1]) ∧
    ∃ (records : List FramedRecord) (rest : Bytes),
      cutStream.flatten = records.flatMap FramedRecord.bytes ++ rest ∧ Incomplete rest ∧
      (∀ record ∈ records,
        dispatchRecord Handlers.all record.window record.infoType record.size =
          some (record.calls Handlers.all)) ∧
      dispatch Handlers.all (fun _ => noClient) cutStream.flatten =
        some (records.flatMap (FramedRecord.calls Handlers.all),
          cutStream.flatten.length - rest.length) ∧
      readerLoop Handlers.all (unclaimed cutStream) [] =
        some (records.flatMap (FramedRecord.calls Handlers.all), rest) :=
  ⟨rfl, readerLoop_independent_of_chunking Handlers.all cutStream (by decide)⟩

end WindowsKext
