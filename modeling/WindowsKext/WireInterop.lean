import WindowsKext.InfoChecks
import WindowsKext.DispatchRuns

/-! What the two clients make of the records of the driver: the Go decoder on a stream and the C++
parser on a buffer recover every field of every record. -/

namespace WindowsKext

open ByteString LittleEndian FieldLayout

section GoReads

variable {Value : Type} {infoType : UInt8} {size : UInt32} {stream bytes tail : Bytes}
  {position : Nat}

theorem drop_next (here : stream.drop position = bytes ++ tail) :
    stream.drop (position + bytes.length) = tail := by
  rw [← List.drop_drop, here, List.drop_left]

theorem readFull_ok (infoType : UInt8) (size : UInt32) (here : stream.drop position = bytes ++ tail) :
    ReadHelper.readFull bytes.length (helperAt infoType size stream position) =
      (.ok bytes, helperAt infoType size stream (position + bytes.length)) := by
  have enough : bytes.length ≤ (bytes ++ tail).length := by
    rw [List.length_append]
    exact Nat.le_add_right _ _
  have next := drop_next here
  simp only [ReadHelper.readFull, helperAt, Reader.readFull, here, enough, ↓reduceIte,
    List.take_left, List.drop_left, next]

theorem checkOverRead_ok (within : position ≤ size.toNat) :
    ReadHelper.checkOverRead (helperAt infoType size stream position) =
      (.ok (), helperAt infoType size stream position) := by
  refine if_neg fun beyond => ?_
  have beyond : size.toNat < (UInt32.ofNat position).toNat := beyond
  rw [toNat_ofNat_of_le within] at beyond
  omega

theorem readData_ok (infoType : UInt8) (size : UInt32) (layout : Layout Value) {value : Value}
    (here : stream.drop position = layout.write value ++ tail)
    (within : position + layout.size ≤ size.toNat) :
    ReadHelper.readData layout (helperAt infoType size stream position) =
      (.ok value, helperAt infoType size stream (position + layout.size)) := by
  have read := readFull_ok infoType size here
  rw [layout.length_write] at read
  simp only [ReadHelper.readData, Recv.andThen, read, checkOverRead_ok within, Recv.pure,
    layout.read_write]

theorem readBytes_ok (infoType : UInt8) {asked : UInt32} (here : stream.drop position = bytes ++ tail)
    (ends : position + bytes.length = size.toNat) (nonempty : bytes ≠ [])
    (length : asked = 0 ∨ asked.toNat = bytes.length) :
    ReadHelper.readBytes asked (helperAt infoType size stream position) =
      (.ok bytes, helperAt infoType size stream size.toNat) := by
  have positive := List.length_pos_iff.mpr nonempty
  have bound := size.toNat_lt
  have place := toNat_ofNat_of_le (show position ≤ size.toNat by omega)
  have inside : ¬ UInt32.ofNat position ≥ size := by
    intro past
    have past : size.toNat ≤ (UInt32.ofNat position).toNat := past
    omega
  have rest : (size - UInt32.ofNat position).toNat = bytes.length := by
    rw [UInt32.toNat_sub_of_le _ _ (UInt32.le_of_lt (UInt32.not_le.mp inside)), place]
    omega
  have chosen : (if asked == 0 then size - UInt32.ofNat position else asked).toNat =
      bytes.length := by
    rcases length with rfl | length
    · exact rest
    · split
      · exact rest
      · exact length
  have fits : ¬ size < UInt32.ofNat position +
      (if asked == 0 then size - UInt32.ofNat position else asked) := by
    intro beyond
    have beyond : size.toNat < (UInt32.ofNat position +
      (if asked == 0 then size - UInt32.ofNat position else asked)).toNat := beyond
    rw [UInt32.toNat_add, chosen, place] at beyond
    omega
  have read := readFull_ok infoType size here
  rw [ends] at read
  rw [← read, ← chosen]
  exact (if_neg inside).trans (if_neg fits)

theorem readUntilTheEnd_done (infoType : UInt8) (size : UInt32) (stream : Bytes) :
    (helperAt infoType size stream size.toNat).readUntilTheEnd =
      helperAt infoType size stream size.toNat := by
  simp [ReadHelper.readUntilTheEnd, ReadHelper.readBytes, helperAt]

theorem recvBandwidthValues_ok {n : Nat} (infoType : UInt8) (parseError : GoError)
    (values : List (BandwidthValue n))
    (here : stream.drop position = values.flatMap (bandwidthValue n).write ++ tail)
    (within : position + bandwidthValueSize n * values.length ≤ size.toNat) :
    recvBandwidthValues parseError values.length (helperAt infoType size stream position) =
      (.ok values,
        helperAt infoType size stream (position + bandwidthValueSize n * values.length)) := by
  induction values generalizing position with
  | nil => rfl
  | cons value values ih =>
      rw [List.flatMap_cons, List.append_assoc] at here
      rw [List.length_cons, Nat.mul_succ] at within
      have next := drop_next here
      rw [(bandwidthValue n).length_write, size_bandwidthValue] at next
      have first := readData_ok infoType size (bandwidthValue n) here
        (by rw [size_bandwidthValue]; omega)
      rw [size_bandwidthValue] at first
      have later := ih next (by omega)
      have total : position + bandwidthValueSize n + bandwidthValueSize n * values.length =
          position + bandwidthValueSize n * (values.length + 1) := by
        rw [Nat.mul_succ]
        omega
      rw [total] at later
      simp only [List.length_cons, recvBandwidthValues, Recv.andThen, first, later, Recv.pure]

end GoReads

section GoBodies

variable {n : Nat} {following : Bytes} (parseError : GoError)

theorem recvConnection_ok (fixed payloadSize payloadError : GoErrors)
    (make : ConnectionFields n → Bytes → GoInfo) (infoType : UInt8) (fields : ConnectionFields n)
    (payload : Bytes) (small : (Record.connectionPayload fields payload).length < 2 ^ 32) :
    recvConnection parseError fixed payloadSize payloadError make
        (helperAt infoType (UInt32.ofNat (Record.connectionPayload fields payload).length)
          (Record.connectionPayload fields payload ++ following) 0) =
      (.ok (make fields payload),
        helperAt infoType (UInt32.ofNat (Record.connectionPayload fields payload).length)
          (Record.connectionPayload fields payload ++ following)
          (Record.connectionPayload fields payload).length) := by
  generalize declared : UInt32.ofNat (Record.connectionPayload fields payload).length = size
  generalize whole : Record.connectionPayload fields payload ++ following = stream
  have length := Record.length_connectionPayload fields payload
  have total : size.toNat = connectionFieldsSize n + payload.length := by
    rw [← declared, UInt32.toNat_ofNat_of_lt' small, length]
  have inner : (UInt32.ofNat payload.length).toNat = payload.length :=
    UInt32.toNat_ofNat_of_lt' (show payload.length < 2 ^ 32 by omega)
  have fieldsSize := size_connectionInternal n
  have first : stream.drop 0 = (connectionInternal n).write fields ++
      (bytesOfU32 (UInt32.ofNat payload.length) ++ (payload ++ following)) := by
    rw [← whole, Record.connectionPayload, List.append_assoc, List.append_assoc]
    rfl
  have second := drop_next first
  rw [(connectionInternal n).length_write, Nat.zero_add] at second
  have third := drop_next second
  rw [length_bytesOfU32, fieldsSize] at third
  have readFields := readData_ok infoType size (connectionInternal n) first (by omega)
  have readLength := readData_ok infoType size Layout.u32 second
    (show (connectionInternal n).size + 4 ≤ size.toNat by omega)
  have position : (connectionInternal n).size + Layout.u32.size = connectionFieldsSize n :=
    fieldsSize
  rw [Nat.zero_add] at readFields
  rw [position] at readLength
  rw [length]
  by_cases nonempty : payload = []
  · subst nonempty
    simp only [recvConnection, Recv.andThen, readFields, readLength]
    rfl
  · have positive : UInt32.ofNat payload.length > 0 := by
      change 0 < (UInt32.ofNat payload.length).toNat
      rw [inner]
      exact List.length_pos_iff.mpr nonempty
    have readPayload := readBytes_ok infoType third total.symm nonempty (.inr inner)
    rw [total] at readPayload
    simp only [recvConnection, Recv.andThen, readFields, readLength, positive, ↓reduceIte,
      readPayload, Recv.pure]

theorem recvConnectionEnd_ok (make : ConnectionEndFields n → GoInfo) (infoType : UInt8)
    (fields : ConnectionEndFields n) (small : ((connectionEnd n).write fields).length < 2 ^ 32) :
    recvConnectionEnd parseError make
        (helperAt infoType (UInt32.ofNat ((connectionEnd n).write fields).length)
          ((connectionEnd n).write fields ++ following) 0) =
      (.ok (make fields),
        helperAt infoType (UInt32.ofNat ((connectionEnd n).write fields).length)
          ((connectionEnd n).write fields ++ following)
          ((connectionEnd n).write fields).length) := by
  have total := UInt32.toNat_ofNat_of_lt' small
  have length := (connectionEnd n).length_write fields
  have here : ((connectionEnd n).write fields ++ following).drop 0 =
      (connectionEnd n).write fields ++ following := List.drop_zero
  have read := readData_ok infoType (UInt32.ofNat ((connectionEnd n).write fields).length)
    (connectionEnd n) here (by omega)
  rw [Nat.zero_add] at read
  rw [length] at read ⊢
  simp only [recvConnectionEnd, Recv.andThen, read, Recv.pure]

theorem recvLogLine_ok (infoType severity : UInt8) {text : Bytes} (nonempty : text ≠ [])
    (small : (severity :: text).length < 2 ^ 32) :
    recvLogLine parseError (helperAt infoType (UInt32.ofNat (severity :: text).length)
        (severity :: text ++ following) 0) =
      (.ok (.logLine severity text), helperAt infoType (UInt32.ofNat (severity :: text).length)
        (severity :: text ++ following) (severity :: text).length) := by
  have total := UInt32.toNat_ofNat_of_lt' small
  generalize declared : UInt32.ofNat (severity :: text).length = size at *
  rw [List.length_cons] at total
  have first : (severity :: text ++ following).drop 0 =
      Layout.u8.write severity ++ (text ++ following) := rfl
  have readSeverity := readData_ok infoType size Layout.u8 first
    (show 0 + 1 ≤ size.toNat by omega)
  have second : (severity :: text ++ following).drop (0 + Layout.u8.size) = text ++ following := rfl
  have readText := readBytes_ok infoType second
    (show 0 + 1 + text.length = size.toNat by omega) nonempty (.inl rfl)
  simp only [recvLogLine, Recv.andThen, readSeverity, readText, Recv.pure, total, List.length_cons]

theorem recvBandwidth_ok (make : UInt8 → List (BandwidthValue n) → GoInfo) (infoType protocol : UInt8)
    (values : List (BandwidthValue n))
    (small : (Record.bandwidthPayload protocol values).length < 2 ^ 32)
    (wide : 1 ≤ bandwidthValueSize n) :
    recvBandwidth parseError make
        (helperAt infoType (UInt32.ofNat (Record.bandwidthPayload protocol values).length)
          (Record.bandwidthPayload protocol values ++ following) 0) =
      (.ok (make protocol values),
        helperAt infoType (UInt32.ofNat (Record.bandwidthPayload protocol values).length)
          (Record.bandwidthPayload protocol values ++ following)
          (Record.bandwidthPayload protocol values).length) := by
  have total := UInt32.toNat_ofNat_of_lt' small
  have length := Record.length_bandwidthPayload protocol values
  have few : values.length ≤ bandwidthValueSize n * values.length :=
    Nat.le_mul_of_pos_left _ wide
  have count : (UInt32.ofNat values.length).toNat = values.length :=
    UInt32.toNat_ofNat_of_lt' (show values.length < 2 ^ 32 by omega)
  generalize declared : UInt32.ofNat (Record.bandwidthPayload protocol values).length = size at *
  have first : (Record.bandwidthPayload protocol values ++ following).drop 0 =
      Layout.u8.write protocol ++ (bytesOfU32 (UInt32.ofNat values.length) ++
        (values.flatMap (bandwidthValue n).write ++ following)) := by
    simp [Record.bandwidthPayload, Layout.u8]
  have second : (Record.bandwidthPayload protocol values ++ following).drop (0 + Layout.u8.size) =
      bytesOfU32 (UInt32.ofNat values.length) ++
        (values.flatMap (bandwidthValue n).write ++ following) := drop_next first
  have third := drop_next second
  rw [length_bytesOfU32] at third
  have readProtocol := readData_ok infoType size Layout.u8 first
    (show 0 + 1 ≤ size.toNat by omega)
  have readCount := readData_ok infoType size Layout.u32 second
    (show 0 + 1 + 4 ≤ size.toNat by omega)
  have readValues := recvBandwidthValues_ok infoType parseError values third
    (show 0 + 1 + 4 + _ ≤ size.toNat by omega)
  have position : 0 + Layout.u8.size + 4 + bandwidthValueSize n * values.length =
      (Record.bandwidthPayload protocol values).length := by
    rw [length]
    rfl
  have four : Layout.u32.size = 4 := rfl
  rw [four] at readCount
  rw [position] at readValues
  simp only [recvBandwidth, Recv.andThen, readProtocol, readCount, count, readValues, Recv.pure]

end GoBodies

def Record.goInfo : Record → GoInfo
  | .connectionV4 fields payload => .connectionV4 fields payload
  | .connectionV6 fields payload => .connectionV6 fields payload
  | .connectionEndV4 fields => .connectionEndV4 fields
  | .connectionEndV6 fields => .connectionEndV6 fields
  | .bandwidthV4 protocol values => .bandwidthStatsV4 protocol values
  | .bandwidthV6 protocol values => .bandwidthStatsV6 protocol values
  | .logLine call => .logLine call.severity.toU8 call.text

theorem recvBody_record (record : Record) (following : Bytes)
    (small : record.payload.length < 2 ^ 32) :
    recvBody record.infoType.toU8 (helperAt record.infoType.toU8
        (UInt32.ofNat record.payload.length) (record.payload ++ following) 0) =
      (.ok record.goInfo, helperAt record.infoType.toU8 (UInt32.ofNat record.payload.length)
        (record.payload ++ following) record.payload.length) := by
  cases record with
  | connectionV4 fields payload => exact recvConnection_ok _ _ _ _ _ _ fields payload small
  | connectionV6 fields payload => exact recvConnection_ok _ _ _ _ _ _ fields payload small
  | connectionEndV4 fields => exact recvConnectionEnd_ok _ _ _ fields small
  | connectionEndV6 fields => exact recvConnectionEnd_ok _ _ _ fields small
  | bandwidthV4 protocol values => exact recvBandwidth_ok _ _ _ protocol values small (by decide)
  | bandwidthV6 protocol values => exact recvBandwidth_ok _ _ _ protocol values small (by decide)
  | logLine call => exact recvLogLine_ok _ _ _ call.text_nonempty small

theorem recvInfo_record (record : Record) (following : Bytes)
    (small : record.payload.length < 2 ^ 32) :
    recvInfo { bytes := record.info.asBytes ++ following, exhausted := false } =
      (.ok record.goInfo, { bytes := following, exhausted := false }) := by
  have bytes : ({ bytes := record.info.asBytes ++ following, exhausted := false } : Reader) =
      framed record.infoType.toU8 (UInt32.ofNat record.payload.length) record.payload
        following := by
    rw [record.asBytes_eq, framed, List.cons_append, List.append_assoc]
  have done := readUntilTheEnd_done record.infoType.toU8 (UInt32.ofNat record.payload.length)
    (record.payload ++ following)
  rw [UInt32.toNat_ofNat_of_lt' small] at done
  rw [bytes, recvInfo_framed, recvBody_record record following small, done, helperAt,
    List.drop_left]

/-- `RecvInfo` called a number of times on the same reader. -/
def recvInfos : Nat → Reader → List (Except GoErrors GoInfo) × Reader
  | 0, reader => ([], reader)
  | count + 1, reader =>
      let (result, reader) := recvInfo reader
      let (results, reader) := recvInfos count reader
      (result :: results, reader)

theorem recvInfos_records (records : List Record) (following : Bytes)
    (small : ∀ record ∈ records, record.payload.length < 2 ^ 32) :
    recvInfos records.length
        { bytes := records.flatMap (fun record => record.info.asBytes) ++ following,
          exhausted := false } =
      (records.map fun record => .ok record.goInfo, { bytes := following, exhausted := false }) := by
  induction records with
  | nil => rfl
  | cons record records ih =>
      have first := recvInfo_record record
        (records.flatMap (fun record => record.info.asBytes) ++ following)
        (small record List.mem_cons_self)
      have later := ih fun other member => small other (List.mem_cons_of_mem _ member)
      simp only [List.length_cons, List.flatMap_cons, List.append_assoc, recvInfos, first, later,
        List.map_cons]

section Calls

variable {n : Nat} (v6 : Bool)

def ClientConnection.ofFields (fields : ConnectionFields n) (payload : Bytes) :
    ClientConnection where
  ipv6 := v6
  id := fields.id
  processId := fields.processId
  direction := fields.direction
  protocol := fields.protocol
  localIp := paddedAddress fields.localIp.toList
  remoteIp := paddedAddress fields.remoteIp.toList
  localPort := fields.localPort
  remotePort := fields.remotePort
  payloadLayer := fields.payloadLayer
  payloadSize := UInt32.ofNat payload.length
  payload := payload

def ClientConnectionEnd.ofFields (fields : ConnectionEndFields n) : ClientConnectionEnd where
  ipv6 := v6
  processId := fields.processId
  direction := fields.direction
  protocol := fields.protocol
  localIp := paddedAddress fields.localIp.toList
  remoteIp := paddedAddress fields.remoteIp.toList
  localPort := fields.localPort
  remotePort := fields.remotePort

def BandwidthEntry.ofValue (value : BandwidthValue n) : BandwidthEntry where
  ipv6 := v6
  localIp := paddedAddress value.localIp.toList
  localPort := value.localPort
  remoteIp := paddedAddress value.remoteIp.toList
  remotePort := value.remotePort
  transmittedBytes := value.transmittedBytes
  receivedBytes := value.receivedBytes

theorem dispatchConnection_record (fields : ConnectionFields n) (payload : Bytes)
    (width : addrLen v6 = n) (small : (Record.connectionPayload fields payload).length < 2 ^ 32)
    {p : Window} (valid : p.Valid) (content : p.content = Record.connectionPayload fields payload) :
    dispatchConnection Handlers.all p v6 =
      some [.onConnection (ClientConnection.ofFields v6 fields payload)] := by
  have length := Record.length_connectionPayload fields payload
  have whole := valid.length_content
  rw [content, length] at whole
  have inner : (UInt32.ofNat payload.length).toNat = payload.length :=
    UInt32.toNat_ofNat_of_lt' (show payload.length < 2 ^ 32 by omega)
  have family : n = 4 ∨ n = 16 := by
    rw [← width]
    cases v6 <;> decide
  have rest : p.length - connectionFieldsSize n = payload.length := by omega
  rw [dispatchConnection_value Handlers.all valid v6 (by rw [width]; omega)]
  simp only [width, content, rest]
  rcases family with rfl | rfl
  all_goals
    simp [Record.connectionPayload, connectionInternal, Layout.struct, Layout.pair, Layout.u64,
      Layout.u8, Layout.u16, Layout.array, field_here, field_later, byteAt_later, field_cons_later,
      byteAt_cons_later, byteAt_cons_zero, inner, connectionFieldsSize, field_whole,
      ClientConnection.ofFields, Handlers.connection, Handlers.all]

theorem dispatchConnectionEnd_record (fields : ConnectionEndFields n) (width : addrLen v6 = n)
    {p : Window} (valid : p.Valid) (content : p.content = (connectionEnd n).write fields) :
    dispatchConnectionEnd Handlers.all p v6 =
      some [.onConnectionEnd (ClientConnectionEnd.ofFields v6 fields)] := by
  have whole := valid.length_content
  rw [content, (connectionEnd n).length_write, size_connectionEnd] at whole
  have family : n = 4 ∨ n = 16 := by
    rw [← width]
    cases v6 <;> decide
  -- The last field has nothing behind it.
  have port : field (bytesOfU16 fields.remotePort) 0 2 = bytesOfU16 fields.remotePort :=
    field_whole _
  rw [dispatchConnectionEnd_value Handlers.all valid v6 (by rw [width]; omega)]
  simp only [width, content]
  rcases family with rfl | rfl
  all_goals
    simp [connectionEnd, Layout.struct, Layout.pair, Layout.u64, Layout.u8, Layout.u16,
      Layout.array, field_here, field_later, byteAt_later, field_cons_later, byteAt_cons_later,
      byteAt_cons_zero, port, ClientConnectionEnd.ofFields, Handlers.connectionEnd, Handlers.all]

theorem bandwidthEntryAt_write (value : BandwidthValue n) (width : addrLen v6 = n)
    (before rest : Bytes) :
    bandwidthEntryAt v6 (before ++ ((bandwidthValue n).write value ++ rest)) before.length =
      BandwidthEntry.ofValue v6 value := by
  have family : n = 4 ∨ n = 16 := by
    rw [← width]
    cases v6 <;> decide
  have skip : ∀ offset count, field (before ++ ((bandwidthValue n).write value ++ rest))
      (before.length + offset) count = field ((bandwidthValue n).write value ++ rest) offset count := by
    intro offset count
    rw [field_later (Nat.le_add_right _ _), Nat.add_sub_cancel_left]
  have start := skip 0
  simp only [Nat.add_zero] at start
  simp only [bandwidthEntryAt, width, Nat.add_assoc, skip, start]
  rcases family with rfl | rfl
  all_goals
    simp [bandwidthValue, Layout.struct, Layout.pair, Layout.u64, Layout.u16, Layout.array,
      field_here, field_later, BandwidthEntry.ofValue]

theorem bandwidthEntries_values (values : List (BandwidthValue n)) (width : addrLen v6 = n)
    (before : Bytes) :
    ((List.range values.length).map fun index =>
        bandwidthEntryAt v6 (before ++ values.flatMap (bandwidthValue n).write)
          (before.length + bandwidthEntrySize v6 * index)) =
      values.map (BandwidthEntry.ofValue v6) := by
  induction values generalizing before with
  | nil => rfl
  | cons value values ih =>
      have later := ih (before ++ (bandwidthValue n).write value)
      have size : ((bandwidthValue n).write value).length = bandwidthEntrySize v6 := by
        rw [(bandwidthValue n).length_write, size_bandwidthValue, bandwidthEntrySize, width,
          bandwidthValueSize]
        omega
      rw [List.append_assoc, List.length_append, size] at later
      rw [List.length_cons, List.range_succ_eq_map, List.map_cons, List.map_map, List.map_cons,
        List.flatMap_cons, Nat.mul_zero, Nat.add_zero, bandwidthEntryAt_write v6 value width,
        ← later]
      congr 1
      apply List.map_congr_left
      intro index _
      rw [Function.comp_apply, Nat.mul_succ, Nat.add_assoc, Nat.add_comm (bandwidthEntrySize v6)]

theorem dispatchBandwidth_record (protocol : UInt8) (values : List (BandwidthValue n))
    (width : addrLen v6 = n) (small : (Record.bandwidthPayload protocol values).length < 2 ^ 32)
    {p : Window} (valid : p.Valid) (content : p.content = Record.bandwidthPayload protocol values) :
    dispatchBandwidth Handlers.all p v6 =
      some [.onBandwidth
        { protocol := protocol, entries := values.map (BandwidthEntry.ofValue v6) }] := by
  have length := Record.length_bandwidthPayload protocol values
  have whole := valid.length_content
  have size : bandwidthValueSize n = bandwidthEntrySize v6 := by
    rw [bandwidthEntrySize, width, bandwidthValueSize]
    omega
  have few : values.length ≤ bandwidthValueSize n * values.length :=
    Nat.le_mul_of_pos_left _ (by unfold bandwidthValueSize; omega)
  have count : (UInt32.ofNat values.length).toNat = values.length :=
    UInt32.toNat_ofNat_of_lt' (show values.length < 2 ^ 32 by omega)
  rw [content, length, size] at whole
  have counted : u32OfBytes (field (Record.bandwidthPayload protocol values) 1 4) =
      UInt32.ofNat values.length := by
    rw [Record.bandwidthPayload, field_cons_later (Nat.le_refl 1), field_here (length_bytesOfU32 _),
      u32OfBytes_bytesOfU32]
  have entries := bandwidthEntries_values v6 values width
    (protocol :: bytesOfU32 (UInt32.ofNat values.length))
  have start : (protocol :: bytesOfU32 (UInt32.ofNat values.length)).length = 5 := by
    rw [List.length_cons, length_bytesOfU32]
  rw [start, List.cons_append] at entries
  rw [dispatchBandwidth_value Handlers.all valid v6 (by omega)]
  simp only [content, counted, count]
  rw [if_neg (by omega)]
  simp only [Handlers.bandwidth, Handlers.all, ↓reduceIte]
  rw [← entries]
  rfl

theorem dispatchLogLine_record (severity : UInt8) (text : Bytes) {p : Window} (valid : p.Valid)
    (content : p.content = severity :: text) :
    dispatchLogLine Handlers.all p = some [.onLog severity text] := by
  have whole := valid.length_content
  rw [content, List.length_cons] at whole
  have line : field (severity :: text) 1 (p.length - 1) = text := by
    rw [field_cons_later (Nat.le_refl 1), ← whole]
    exact field_whole text
  rw [dispatchLogLine_value Handlers.all valid (by omega), content, line]
  rfl

end Calls

namespace Record

def call : Record → DispatchCall
  | .connectionV4 fields payload => .onConnection (ClientConnection.ofFields false fields payload)
  | .connectionV6 fields payload => .onConnection (ClientConnection.ofFields true fields payload)
  | .connectionEndV4 fields => .onConnectionEnd (ClientConnectionEnd.ofFields false fields)
  | .connectionEndV6 fields => .onConnectionEnd (ClientConnectionEnd.ofFields true fields)
  | .bandwidthV4 protocol values =>
      .onBandwidth { protocol := protocol, entries := values.map (BandwidthEntry.ofValue false) }
  | .bandwidthV6 protocol values =>
      .onBandwidth { protocol := protocol, entries := values.map (BandwidthEntry.ofValue true) }
  | .logLine call => .onLog call.severity.toU8 call.text

def toFramed (record : Record) (small : record.payload.length < 2 ^ 32) : FramedRecord where
  infoType := record.infoType.toU8
  payload := record.payload
  small := small

variable {record : Record} (small : record.payload.length < 2 ^ 32)

theorem toFramed_bytes : (record.toFramed small).bytes = record.info.asBytes :=
  record.asBytes_eq.symm

theorem dispatchRecord_toFramed :
    dispatchRecord Handlers.all (record.toFramed small).window (record.toFramed small).infoType
      (record.toFramed small).size = some [record.call] := by
  have valid := (record.toFramed small).window_valid
  have content := (record.toFramed small).window_content
  cases record with
  | connectionV4 fields payload =>
      exact dispatchConnection_record false fields payload rfl small valid content
  | connectionV6 fields payload =>
      exact dispatchConnection_record true fields payload rfl small valid content
  | connectionEndV4 fields => exact dispatchConnectionEnd_record false fields rfl valid content
  | connectionEndV6 fields => exact dispatchConnectionEnd_record true fields rfl valid content
  | bandwidthV4 protocol values =>
      exact dispatchBandwidth_record false protocol values rfl small valid content
  | bandwidthV6 protocol values =>
      exact dispatchBandwidth_record true protocol values rfl small valid content
  | logLine call => exact dispatchLogLine_record call.severity.toU8 call.text valid content

theorem toFramed_calls : (record.toFramed small).calls Handlers.all = [record.call] := by
  rw [FramedRecord.calls, dispatchRecord_toFramed small]
  rfl

theorem declaredSize_asBytes (small : record.payload.length < 2 ^ 32) :
    declaredSize record.info.asBytes = (record.info.asBytes.drop recordHeaderSize).length := by
  have declared := declaredSize_bytes (record.toFramed small) []
  rw [List.append_nil, toFramed_bytes] at declared
  rw [declared, recordHeaderSize, drop_asBytes]
  rfl

end Record

theorem exists_framed (records : List Record)
    (small : ∀ record ∈ records, record.payload.length < 2 ^ 32) :
    ∃ framed : List FramedRecord,
      framed.flatMap FramedRecord.bytes = records.flatMap (fun record => record.info.asBytes) ∧
      framed.flatMap (FramedRecord.calls Handlers.all) = records.map Record.call := by
  induction records with
  | nil => exact ⟨[], rfl, rfl⟩
  | cons record records ih =>
      have first := small record List.mem_cons_self
      obtain ⟨framed, bytes, calls⟩ :=
        ih fun other member => small other (List.mem_cons_of_mem _ member)
      refine ⟨record.toFramed first :: framed, ?_, ?_⟩
      · rw [List.flatMap_cons, List.flatMap_cons, bytes, Record.toFramed_bytes]
      · rw [List.flatMap_cons, List.map_cons, calls, Record.toFramed_calls]
        rfl

/-- Whatever the driver encodes, both clients recover: the declared sizes are those of the
payloads, `RecvInfo` on the stream and `Dispatch` on the buffer yield the records in order with
all their fields, and nothing is left over. -/
theorem records_recovered_by_clients (records : List Record)
    (small : ∀ record ∈ records, (record.info.asBytes.drop recordHeaderSize).length < 2 ^ 32) :
    (∀ record ∈ records,
      declaredSize record.info.asBytes = (record.info.asBytes.drop recordHeaderSize).length) ∧
    recvInfos records.length
        { bytes := records.flatMap (fun record => record.info.asBytes), exhausted := false } =
      (records.map fun record => .ok record.goInfo, { bytes := [], exhausted := false }) ∧
    dispatch Handlers.all (fun _ => noClient)
        (records.flatMap fun record => record.info.asBytes) =
      some (records.map Record.call,
        (records.flatMap fun record => record.info.asBytes).length) := by
  have payloads : ∀ record ∈ records, record.payload.length < 2 ^ 32 := by
    intro record member
    rw [← record.drop_asBytes]
    exact small record member
  refine ⟨fun record member => Record.declaredSize_asBytes (payloads record member), ?_, ?_⟩
  · have received := recvInfos_records records [] payloads
    rwa [List.append_nil] at received
  · obtain ⟨framed, bytes, calls⟩ := exists_framed records payloads
    have empty : Incomplete [] := .inl (by decide)
    have dispatched := dispatch_records Handlers.all empty framed
    rwa [List.append_nil, bytes, calls] at dispatched

/-- A warning, an empty and a nonempty IPv4 request, and the bandwidth of one IPv6 connection. -/
def sampleRecords : List Record :=
  let warning : LogCall :=
    { severity := .warning
      location := [[108], [58], [57], [32]]
      located := by decide
      message := [[104, 105]] }
  let request : ConnectionFields 4 :=
    { id := 1
      processId := 4660
      direction := 0
      protocol := 17
      localIp := #v[10, 0, 0, 1]
      remoteIp := #v[1, 1, 1, 1]
      localPort := 50000
      remotePort := 53
      payloadLayer := 0 }
  let bandwidth : BandwidthValue 16 :=
    { localIp := Vector.replicate 16 1
      localPort := 443
      remoteIp := Vector.replicate 16 2
      remotePort := 50001
      transmittedBytes := 300
      receivedBytes := 70000 }
  [.logLine warning, .connectionV4 request [], .connectionV4 request [7, 8, 9],
    .bandwidthV6 6 [bandwidth]]

theorem records_recovered_by_clients_sample :
    (∀ record ∈ sampleRecords,
      declaredSize record.info.asBytes = (record.info.asBytes.drop recordHeaderSize).length) ∧
    recvInfos sampleRecords.length
        { bytes := sampleRecords.flatMap (fun record => record.info.asBytes), exhausted := false } =
      (sampleRecords.map fun record => .ok record.goInfo, { bytes := [], exhausted := false }) ∧
    dispatch Handlers.all (fun _ => noClient)
        (sampleRecords.flatMap fun record => record.info.asBytes) =
      some (sampleRecords.map Record.call,
        (sampleRecords.flatMap fun record => record.info.asBytes).length) :=
  records_recovered_by_clients sampleRecords (by decide)

end WindowsKext
