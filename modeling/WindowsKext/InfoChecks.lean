import WindowsKext.RecvInfoFraming

/-! The bytes of each record: its type, its size and its payload. The size of a log line follows
the fragments that were kept. -/

namespace WindowsKext

open ByteString LittleEndian FieldLayout

namespace Info

def keeps (info : Info) (fragment : Bytes) : Bool :=
  decide (fragment.length ≤ info.vec.capacity - info.vec.bytes.length) ||
    decide (info.vec.capacity < maxCapacity)

/-- The fragments that are appended when one after another is written. -/
def keptFragments (info : Info) : List Bytes → List Bytes
  | [] => []
  | fragment :: rest =>
      (if info.keeps fragment then [fragment] else []) ++
        keptFragments (info.writeStr fragment) rest

/-- The form of a log record. `size` is the size field. -/
structure HasText (info : Info) (severity : UInt8) (size text : Bytes) : Prop where
  bytes : info.vec.bytes = InfoType.logLine.toU8 :: (size ++ severity :: text)
  four : size.length = 4

variable {info : Info} {severity : UInt8} {size text : Bytes}

theorem exists_of_length_four {bytes : Bytes} (four : bytes.length = 4) :
    ∃ first second third fourth, bytes = [first, second, third, fourth] := by
  rcases bytes with _ | ⟨first, _ | ⟨second, _ | ⟨third, _ | ⟨fourth, _ | ⟨fifth, rest⟩⟩⟩⟩⟩
  all_goals simp only [List.length_cons, List.length_nil] at four
  all_goals first | omega | exact ⟨first, second, third, fourth, rfl⟩

theorem set_header (first second third fourth : UInt8) (value : Nat) (rest : Bytes) :
    ((((InfoType.logLine.toU8 :: ([first, second, third, fourth] ++ rest)).set 1
      (UInt8.ofNat value)).set 2 (UInt8.ofNat (value >>> 8))).set 3
      (UInt8.ofNat (value >>> 16))).set 4 (UInt8.ofNat (value >>> 24)) =
      InfoType.logLine.toU8 :: (encode 4 value ++ rest) := by
  simp only [encode, ofNat_mod_byte, Nat.shiftRight_eq_div_pow, Nat.div_div_eq_div_mul]
  rfl

theorem updateSize_hasText (form : info.HasText severity size text) :
    info.updateSize.HasText severity (encode 4 (1 + text.length)) text := by
  refine ⟨?_, length_encode 4 _⟩
  obtain ⟨bytes, four⟩ := form
  have written : info.vec.bytes.length - 5 = 1 + text.length := by
    rw [bytes, List.length_cons, List.length_append, four, List.length_cons]
    omega
  obtain ⟨first, second, third, fourth, rfl⟩ := exists_of_length_four four
  have header := set_header first second third fourth (1 + text.length) (severity :: text)
  rw [← bytes] at header
  simp only [updateSize, written]
  exact header

theorem writeStr_hasText (form : info.HasText severity size text) (fragment : Bytes) :
    (info.writeStr fragment).HasText severity
      (if info.keeps fragment then encode 4 (1 + (text ++ fragment).length) else size)
      (text ++ if info.keeps fragment then fragment else []) := by
  have appended : ∀ vec : ByteVec, vec.bytes = info.vec.bytes →
      HasText { vec := vec.extendFromSlice fragment } severity size (text ++ fragment) := by
    intro vec same
    refine ⟨?_, form.four⟩
    simp [same, form.bytes]
  by_cases beyond : fragment.length > info.vec.capacity - info.vec.bytes.length
  · by_cases grows : info.vec.capacity < maxCapacity
    · have kept : info.keeps fragment = true := by
        simp [keeps, grows]
      simp only [writeStr, beyond, grows, kept, ↓reduceIte]
      exact updateSize_hasText (appended _ (ByteVec.reserve_bytes _ _))
    · have dropped : info.keeps fragment = false := by
        simp only [keeps, grows, decide_false, Bool.or_false, decide_eq_false_iff_not]
        omega
      simp only [writeStr, beyond, grows, dropped, ↓reduceIte, Bool.false_eq_true, List.append_nil]
      exact form
  · have kept : info.keeps fragment = true := by
      simp only [keeps, Bool.or_eq_true, decide_eq_true_eq]
      omega
    simp only [writeStr, beyond, kept, ↓reduceIte]
    exact updateSize_hasText (appended _ rfl)

/-- Whether the size field is the one of the text, once something was kept. -/
def sizeField (kept : List Bytes) (size text : Bytes) : Bytes :=
  if kept.isEmpty then size else encode 4 (1 + text.length)

theorem writeFmt_hasText (form : info.HasText severity size text) (fragments : List Bytes) :
    (info.writeFmt fragments).HasText severity
      (sizeField (info.keptFragments fragments) size
        (text ++ (info.keptFragments fragments).flatten))
      (text ++ (info.keptFragments fragments).flatten) := by
  induction fragments generalizing info size text with
  | nil =>
      simp only [keptFragments, List.flatten_nil, List.append_nil]
      exact form
  | cons fragment fragments ih =>
      have step := ih (writeStr_hasText form fragment)
      by_cases kept : info.keeps fragment
      · simp only [kept, ↓reduceIte, List.append_assoc] at step
        simp only [keptFragments, kept, ↓reduceIte, List.flatten_append, List.flatten_cons,
          List.flatten_nil, List.append_nil]
        have same : sizeField (keptFragments (info.writeStr fragment) fragments)
            (encode 4 (1 + (text ++ fragment).length))
            (text ++ (fragment ++ (keptFragments (info.writeStr fragment) fragments).flatten)) =
            encode 4 (1 + (text ++
              (fragment ++ (keptFragments (info.writeStr fragment) fragments).flatten)).length) := by
          unfold sizeField
          split
          · rename_i none
            rw [List.isEmpty_iff.mp none, List.flatten_nil, List.append_nil]
          · rfl
        rw [same] at step
        exact step
      · simp only [kept, ↓reduceIte, List.append_nil, Bool.false_eq_true] at step
        simp only [keptFragments, kept, ↓reduceIte, Bool.false_eq_true, List.nil_append]
        exact step

theorem keeps_of_small (small : info.vec.capacity < maxCapacity) (fragment : Bytes) :
    info.keeps fragment = true := by
  simp [keeps, small]

theorem writeStr_nil_capacity (info : Info) :
    (info.writeStr []).vec.capacity = info.vec.capacity := by
  simp [writeStr, updateSize, ByteVec.extendFromSlice, ByteVec.reserve]

theorem keptFragments_nonempty (small : info.vec.capacity < maxCapacity) {fragments : List Bytes}
    (located : fragments.flatten ≠ []) : (info.keptFragments fragments).flatten ≠ [] := by
  induction fragments generalizing info with
  | nil => exact absurd List.flatten_nil located
  | cons fragment fragments ih =>
      simp only [keptFragments, keeps_of_small small, ↓reduceIte, List.cons_append,
        List.nil_append, List.flatten_cons]
      cases fragment with
      | nil =>
          rw [List.nil_append]
          exact ih (by rw [writeStr_nil_capacity]; exact small) located
      | cons byte rest => simp

theorem writeFmt_append (info : Info) (first second : List Bytes) :
    (info.writeFmt first).writeFmt second = info.writeFmt (first ++ second) :=
  List.foldl_append.symm

end Info

/-- The text that arrives of a log call: what was kept of its location and its message. -/
def LogCall.text (call : LogCall) : Bytes :=
  ((logLine call.severity maxLogLineSize).keptFragments (call.location ++ call.message)).flatten

theorem LogCall.text_nonempty (call : LogCall) : call.text ≠ [] := by
  refine Info.keptFragments_nonempty ?_ ?_
  · cases call.severity <;> decide
  · intro nothing
    rw [List.flatten_append] at nothing
    exact call.located (List.append_eq_nil_iff.mp nothing).1

theorem LogCall.info_bytes (call : LogCall) :
    call.info.asBytes = InfoType.logLine.toU8 ::
      (encode 4 (1 + call.text.length) ++ call.severity.toU8 :: call.text) := by
  have fresh : (logLine call.severity maxLogLineSize).HasText call.severity.toU8 (bytesOfU32 0) [] :=
    ⟨rfl, rfl⟩
  have written := Info.writeFmt_hasText fresh (call.location ++ call.message)
  have kept : ((logLine call.severity maxLogLineSize).keptFragments
      (call.location ++ call.message)).isEmpty = false := by
    refine List.isEmpty_eq_false_iff.mpr fun none => call.text_nonempty ?_
    rw [LogCall.text, none, List.flatten_nil]
  rw [List.nil_append, Info.sizeField, kept, ← Info.writeFmt_append] at written
  exact written.bytes

section Fields

variable {n : Nat}

theorem ConnectionFields.push_bytes (fields : ConnectionFields n) (vec : ByteVec) :
    (fields.push vec).bytes = vec.bytes ++ (connectionInternal n).write fields := by
  simp only [ConnectionFields.push, ByteVec.pushU8_bytes, ByteVec.pushU16_bytes,
    ByteVec.pushU64_bytes, ByteVec.pushArray_bytes, List.append_assoc]
  rfl

theorem ConnectionEndFields.push_bytes (fields : ConnectionEndFields n) (vec : ByteVec) :
    (fields.push vec).bytes = vec.bytes ++ (connectionEnd n).write fields := by
  simp only [ConnectionEndFields.push, ByteVec.pushU8_bytes, ByteVec.pushU16_bytes,
    ByteVec.pushU64_bytes, ByteVec.pushArray_bytes, List.append_assoc]
  rfl

theorem BandwidthValue.push_bytes (vec : ByteVec) (value : BandwidthValue n) :
    (BandwidthValue.push vec value).bytes = vec.bytes ++ (bandwidthValue n).write value := by
  simp only [BandwidthValue.push, ByteVec.pushU16_bytes, ByteVec.pushU64_bytes,
    ByteVec.pushArray_bytes, List.append_assoc]
  rfl

theorem foldl_push_bytes (values : List (BandwidthValue n)) (vec : ByteVec) :
    (values.foldl BandwidthValue.push vec).bytes =
      vec.bytes ++ values.flatMap (bandwidthValue n).write := by
  induction values generalizing vec with
  | nil => simp
  | cons value values ih =>
      rw [List.foldl_cons, ih, BandwidthValue.push_bytes, List.append_assoc, List.flatMap_cons]

theorem length_flatMap_write (values : List (BandwidthValue n)) :
    (values.flatMap (bandwidthValue n).write).length = bandwidthValueSize n * values.length := by
  induction values with
  | nil => rfl
  | cons value values ih =>
      rw [List.flatMap_cons, List.length_append, ih, (bandwidthValue n).length_write,
        size_bandwidthValue, List.length_cons, Nat.mul_succ, Nat.add_comm]

end Fields

theorem Info.new_bytes (infoType : InfoType) (size : Nat) :
    (Info.new infoType size).vec.bytes = infoType.toU8 :: bytesOfU32 (UInt32.ofNat size) := by
  simp [Info.new, ByteVec.withCapacity]

namespace Record

def infoType : Record → InfoType
  | .connectionV4 _ _ => .connectionIpv4
  | .connectionV6 _ _ => .connectionIpv6
  | .connectionEndV4 _ => .connectionEndEventV4
  | .connectionEndV6 _ => .connectionEndEventV6
  | .bandwidthV4 _ _ => .bandwidthStatsV4
  | .bandwidthV6 _ _ => .bandwidthStatsV6
  | .logLine _ => .logLine

def connectionPayload {n : Nat} (fields : ConnectionFields n) (payload : Bytes) : Bytes :=
  (connectionInternal n).write fields ++ (bytesOfU32 (UInt32.ofNat payload.length) ++ payload)

def bandwidthPayload {n : Nat} (protocol : UInt8) (values : List (BandwidthValue n)) : Bytes :=
  protocol :: (bytesOfU32 (UInt32.ofNat values.length) ++ values.flatMap (bandwidthValue n).write)

def payload : Record → Bytes
  | .connectionV4 fields payload => connectionPayload fields payload
  | .connectionV6 fields payload => connectionPayload fields payload
  | .connectionEndV4 fields => (connectionEnd 4).write fields
  | .connectionEndV6 fields => (connectionEnd 16).write fields
  | .bandwidthV4 protocol values => bandwidthPayload protocol values
  | .bandwidthV6 protocol values => bandwidthPayload protocol values
  | .logLine call => call.severity.toU8 :: call.text

theorem length_connectionPayload {n : Nat} (fields : ConnectionFields n) (payload : Bytes) :
    (connectionPayload fields payload).length = connectionFieldsSize n + payload.length := by
  rw [connectionPayload, List.length_append, List.length_append, length_bytesOfU32,
    (connectionInternal n).length_write, ← size_connectionInternal, Nat.add_assoc]

theorem length_bandwidthPayload {n : Nat} (protocol : UInt8) (values : List (BandwidthValue n)) :
    (bandwidthPayload protocol values).length = 1 + 4 + bandwidthValueSize n * values.length := by
  rw [bandwidthPayload, List.length_cons, List.length_append, length_bytesOfU32,
    length_flatMap_write]
  omega

theorem asBytes_eq (record : Record) :
    record.info.asBytes = record.infoType.toU8 ::
      (bytesOfU32 (UInt32.ofNat record.payload.length) ++ record.payload) := by
  cases record with
  | connectionV4 fields payload =>
      simp only [info, connectionInfoV4, Info.asBytes, ByteVec.extendFromSlice_bytes,
        ByteVec.pushU32_bytes, ConnectionFields.push_bytes, Info.new_bytes, Record.payload,
        length_connectionPayload, List.append_assoc, List.cons_append]
      rfl
  | connectionV6 fields payload =>
      -- An empty payload is not pushed, which makes no difference.
      have pushed : ∀ vec : ByteVec, (if !payload.isEmpty then vec.extendFromSlice payload
          else vec).bytes = vec.bytes ++ payload := by
        intro vec
        cases payload with
        | nil => simp
        | cons byte rest => simp
      simp only [info, connectionInfoV6, Info.asBytes, pushed, ByteVec.pushU32_bytes,
        ConnectionFields.push_bytes, Info.new_bytes, Record.payload, length_connectionPayload,
        List.append_assoc, List.cons_append]
      rfl
  | connectionEndV4 fields =>
      simp only [info, connectionEndEventV4Info, connectionEndEventInfo, Info.asBytes,
        ConnectionEndFields.push_bytes, Info.new_bytes, Record.payload,
        (connectionEnd 4).length_write, size_connectionEnd, List.cons_append]
      rfl
  | connectionEndV6 fields =>
      simp only [info, connectionEndEventV6Info, connectionEndEventInfo, Info.asBytes,
        ConnectionEndFields.push_bytes, Info.new_bytes, Record.payload,
        (connectionEnd 16).length_write, size_connectionEnd, List.cons_append]
      rfl
  | bandwidthV4 protocol values =>
      simp only [info, bandwidthStatsArrayV4, bandwidthStatsArray, Info.asBytes, foldl_push_bytes,
        ByteVec.pushU8_bytes, ByteVec.pushU32_bytes, Info.new_bytes, Record.payload,
        length_bandwidthPayload, List.append_assoc, List.cons_append, List.nil_append]
      rfl
  | bandwidthV6 protocol values =>
      simp only [info, bandwidthStatsArrayV6, bandwidthStatsArray, Info.asBytes, foldl_push_bytes,
        ByteVec.pushU8_bytes, ByteVec.pushU32_bytes, Info.new_bytes, Record.payload,
        length_bandwidthPayload, List.append_assoc, List.cons_append, List.nil_append]
      rfl
  | logLine call =>
      have length : (Record.logLine call).payload.length = 1 + call.text.length := by
        rw [Record.payload, List.length_cons, Nat.add_comm]
      have size : bytesOfU32 (UInt32.ofNat (Record.logLine call).payload.length) =
          encode 4 (1 + call.text.length) := by
        rw [bytesOfU32, UInt32.toNat_ofNat', length]
        exact encode_mod 4 _
      rw [info, LogCall.info_bytes, size]
      rfl

theorem drop_asBytes (record : Record) : record.info.asBytes.drop 5 = record.payload := by
  rw [record.asBytes_eq, List.drop_succ_cons, List.drop_left' (length_bytesOfU32 _)]

end Record

end WindowsKext
