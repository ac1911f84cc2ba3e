import WindowsKext.DispatchCore
import WindowsKext.Library.Layout

/-! What `Dispatch` makes of one record: every read stays within the record, and the calls are a
function of its bytes. -/

namespace WindowsKext

open ByteString LittleEndian FieldLayout

namespace Window

variable {window : Window} {offset count : Nat}

def content (window : Window) : Bytes := (window.buffer.drop window.start).take window.length

structure Valid (window : Window) : Prop where
  inside : window.start + window.length ≤ window.buffer.length

theorem Valid.length_content (valid : window.Valid) : window.content.length = window.length := by
  have inside := valid.inside
  rw [content, List.length_take, List.length_drop]
  omega

theorem byteAt_content (within : offset < window.length) :
    byteAt window.content offset = byteAt window.buffer (window.start + offset) := by
  rw [content, byteAt_take, if_pos within, byteAt_drop]

theorem byte_value (valid : window.Valid) (within : offset < window.length) :
    window.byte offset = some (byteAt window.content offset) := by
  have bound : window.start + offset < window.buffer.length := by
    have inside := valid.inside
    omega
  rw [byteAt_content within, byte, if_pos within]
  simp [byteAt, bound]

theorem copy_value (valid : window.Valid) (within : offset + count ≤ window.length) :
    window.copy offset count = some ((window.content.drop offset).take count) := by
  have inside := valid.inside
  rw [copy, if_pos ⟨within, by omega⟩, content, List.drop_take, List.drop_drop, List.take_take,
    Nat.min_eq_left (by omega)]

theorem take_drop_range (bytes : Bytes) (offset count : Nat)
    (within : offset + count ≤ bytes.length) :
    (bytes.drop offset).take count =
      (List.range count).map fun index => byteAt bytes (offset + index) := by
  apply ext_byteAt
  · rw [List.length_take, List.length_drop, List.length_map, List.length_range]
    omega
  · intro index bound
    rw [List.length_take] at bound
    have small : index < count := by omega
    rw [byteAt_take, if_pos small, byteAt_drop]
    simp [byteAt, small]

theorem readU16_value (valid : window.Valid) (within : offset + 2 ≤ window.length) :
    window.readU16 offset = some (u16OfBytes ((window.content.drop offset).take 2)) := by
  rw [take_drop_range _ _ _ (by rw [valid.length_content]; exact within), readU16,
    byte_value valid (by omega), byte_value valid (by omega)]
  exact congrArg some (u16OfBytes_pair _ _)

theorem readU32_value (valid : window.Valid) (within : offset + 4 ≤ window.length) :
    window.readU32 offset = some (u32OfBytes ((window.content.drop offset).take 4)) := by
  rw [take_drop_range _ _ _ (by rw [valid.length_content]; exact within), readU32,
    byte_value valid (by omega), byte_value valid (by omega), byte_value valid (by omega),
    byte_value valid (by omega)]
  exact congrArg some (u32OfBytes_quad _ _ _ _)

theorem readU64_value (valid : window.Valid) (within : offset + 8 ≤ window.length) :
    window.readU64 offset = some (u64OfBytes ((window.content.drop offset).take 8)) := by
  have bytes := take_drop_range window.content offset 8
    (by rw [valid.length_content]; exact within)
  have length : ((window.content.drop offset).take 8).length = 8 := by
    rw [List.length_take, List.length_drop, valid.length_content]
    omega
  have folded : u64OfBytes ((window.content.drop offset).take 8) =
      ((window.content.drop offset).take 8).foldr shiftIn 0 := by
    rw [u64OfBytes, ← foldr_shiftIn (Nat.le_of_eq length), UInt64.ofNat_toNat]
  rw [folded, bytes]
  simp only [readU64, List.foldlM_cons, List.foldlM_nil]
  rw [byte_value valid (by omega), byte_value valid (by omega), byte_value valid (by omega),
    byte_value valid (by omega), byte_value valid (by omega), byte_value valid (by omega),
    byte_value valid (by omega), byte_value valid (by omega)]
  rfl

end Window

section Values

variable (handlers : Handlers) {p : Window} (valid : p.Valid) (v6 : Bool)

include valid

theorem dispatchLogLine_value (long : 1 ≤ p.length) :
    dispatchLogLine handlers p =
      some (handlers.log (byteAt p.content 0) (field p.content 1 (p.length - 1))) := by
  rw [dispatchLogLine, if_neg (by omega), Window.byte_value valid (by omega),
    Window.copy_value valid (by omega)]
  rfl

theorem connectionPayload_value (payloadSize : UInt32) {o : Nat} (within : o ≤ p.length) :
    connectionPayload handlers p payloadSize o =
      some (field p.content o (min payloadSize.toNat (p.length - o)),
        if o < p.length ∧ p.length - o < payloadSize.toNat then
          handlers.warning ("Connection payload truncated: record holds " ++
            toString (p.length - o) ++ " of " ++ toString payloadSize.toNat ++ " bytes")
        else []) := by
  by_cases more : o < p.length
  · by_cases fits : payloadSize.toNat < p.length - o
    · have whole : ¬ p.length - o < payloadSize.toNat := by omega
      simp only [connectionPayload, more, fits, whole, ↓reduceIte, and_false, Nat.lt_irrefl]
      rw [Window.copy_value valid (by omega), Nat.min_eq_left (by omega)]
      rfl
    · simp only [connectionPayload, more, fits, ↓reduceIte, true_and]
      rw [Window.copy_value valid (by omega), Nat.min_eq_right (by omega)]
      rfl
  · have nothing : p.length - o = 0 := by omega
    simp [connectionPayload, more, nothing, field]

theorem dispatchConnection_value (long : connectionFieldsSize (addrLen v6) ≤ p.length) :
    dispatchConnection handlers p v6 =
      let n := addrLen v6
      let payloadSize := u32OfBytes (field p.content (18 + n + n + 2 + 2 + 1) 4)
      let rest := p.length - connectionFieldsSize n
      some ((if connectionFieldsSize n < p.length ∧ rest < payloadSize.toNat then
          handlers.warning ("Connection payload truncated: record holds " ++ toString rest ++
            " of " ++ toString payloadSize.toNat ++ " bytes")
        else []) ++ handlers.connection
          { ipv6 := v6
            id := u64OfBytes (field p.content 0 8)
            processId := u64OfBytes (field p.content 8 8)
            direction := byteAt p.content 16
            protocol := byteAt p.content 17
            localIp := paddedAddress (field p.content 18 n)
            remoteIp := paddedAddress (field p.content (18 + n) n)
            localPort := u16OfBytes (field p.content (18 + n + n) 2)
            remotePort := u16OfBytes (field p.content (18 + n + n + 2) 2)
            payloadLayer := byteAt p.content (18 + n + n + 2 + 2)
            payloadSize := payloadSize
            payload := field p.content (connectionFieldsSize n) (min payloadSize.toNat rest) }) := by
  have size : connectionFieldsSize (addrLen v6) = 27 + addrLen v6 + addrLen v6 := by
    unfold connectionFieldsSize
    omega
  have fixed : ¬ p.length < 8 + 8 + 1 + 1 + addrLen v6 * 2 + 2 + 2 + 1 + 4 := by omega
  simp only [dispatchConnection, fixed, ↓reduceIte, Option.bind_eq_bind]
  rw [Window.readU64_value valid (by omega), Window.readU64_value valid (by omega),
    Window.byte_value valid (by omega), Window.byte_value valid (by omega),
    Window.copy_value valid (by omega), Window.copy_value valid (by omega),
    Window.readU16_value valid (by omega), Window.readU16_value valid (by omega),
    Window.byte_value valid (by omega), Window.readU32_value valid (by omega)]
  simp only [Option.bind_some]
  rw [connectionPayload_value handlers valid _ (by omega)]
  rfl

theorem dispatchConnectionEnd_value (long : connectionEndFieldsSize (addrLen v6) ≤ p.length) :
    dispatchConnectionEnd handlers p v6 =
      let n := addrLen v6
      some (handlers.connectionEnd
        { ipv6 := v6
          processId := u64OfBytes (field p.content 0 8)
          direction := byteAt p.content 8
          protocol := byteAt p.content 9
          localIp := paddedAddress (field p.content 10 n)
          remoteIp := paddedAddress (field p.content (10 + n) n)
          localPort := u16OfBytes (field p.content (10 + n + n) 2)
          remotePort := u16OfBytes (field p.content (10 + n + n + 2) 2) }) := by
  have size : connectionEndFieldsSize (addrLen v6) = 14 + addrLen v6 + addrLen v6 := by
    unfold connectionEndFieldsSize
    omega
  have fixed : ¬ p.length < 8 + 1 + 1 + addrLen v6 * 2 + 2 + 2 := by omega
  simp only [dispatchConnectionEnd, fixed, ↓reduceIte, Option.bind_eq_bind]
  rw [Window.readU64_value valid (by omega), Window.byte_value valid (by omega),
    Window.byte_value valid (by omega), Window.copy_value valid (by omega),
    Window.copy_value valid (by omega), Window.readU16_value valid (by omega),
    Window.readU16_value valid (by omega)]
  rfl

def bandwidthEntryAt (v6 : Bool) (bytes : Bytes) (o : Nat) : BandwidthEntry :=
  let n := addrLen v6
  { ipv6 := v6
    localIp := paddedAddress (field bytes o n)
    localPort := u16OfBytes (field bytes (o + n) 2)
    remoteIp := paddedAddress (field bytes (o + n + 2) n)
    remotePort := u16OfBytes (field bytes (o + n + 2 + n) 2)
    transmittedBytes := u64OfBytes (field bytes (o + n + 2 + n + 2) 8)
    receivedBytes := u64OfBytes (field bytes (o + n + 2 + n + 2 + 8) 8) }

theorem readBandwidthEntry_value {o : Nat} (within : o + bandwidthEntrySize v6 ≤ p.length) :
    readBandwidthEntry p v6 o = some (bandwidthEntryAt v6 p.content o) := by
  unfold bandwidthEntrySize at within
  simp only [readBandwidthEntry, Option.bind_eq_bind]
  rw [Window.copy_value valid (by omega), Window.readU16_value valid (by omega),
    Window.copy_value valid (by omega), Window.readU16_value valid (by omega),
    Window.readU64_value valid (by omega), Window.readU64_value valid (by omega)]
  rfl

theorem readBandwidthEntries_value (count : Nat) {o : Nat}
    (within : o + bandwidthEntrySize v6 * count ≤ p.length) :
    readBandwidthEntries p v6 count o =
      some ((List.range count).map fun index =>
        bandwidthEntryAt v6 p.content (o + bandwidthEntrySize v6 * index)) := by
  induction count generalizing o with
  | zero => rfl
  | succ count ih =>
      rw [Nat.mul_succ] at within
      rw [readBandwidthEntries, readBandwidthEntry_value valid v6 (by omega), ih (by omega)]
      simp only [Option.bind_eq_bind, Option.bind_some, Option.pure_def, List.range_succ_eq_map,
        List.map_cons, List.map_map, Nat.mul_zero, Nat.add_zero]
      congr 3
      funext index
      simp only [Function.comp_apply]
      rw [Nat.mul_succ, Nat.add_assoc, Nat.add_comm (bandwidthEntrySize v6)]

theorem dispatchBandwidth_value (long : 5 ≤ p.length) :
    dispatchBandwidth handlers p v6 =
      let count := (u32OfBytes (field p.content 1 4)).toNat
      if p.length < 5 + bandwidthEntrySize v6 * count then
        some (handlers.warning "Bandwidth record truncated: count exceeds payload")
      else
        some (handlers.bandwidth
          { protocol := byteAt p.content 0
            entries := (List.range count).map fun index =>
              bandwidthEntryAt v6 p.content (5 + bandwidthEntrySize v6 * index) }) := by
  have fixed : ¬ p.length < 5 := by omega
  simp only [dispatchBandwidth, fixed, ↓reduceIte, Option.bind_eq_bind]
  rw [Window.byte_value valid (by omega), Window.readU32_value valid (by omega)]
  simp only [Option.bind_some, field]
  by_cases beyond : p.length <
      5 + bandwidthEntrySize v6 * (u32OfBytes ((p.content.drop 1).take 4)).toNat
  · simp only [beyond, ↓reduceIte]
  · simp only [beyond, ↓reduceIte]
    rw [readBandwidthEntries_value valid v6 _ (by omega)]
    rfl

theorem dispatchRecord_total (infoType : UInt8) (size : UInt32) :
    ∃ calls, dispatchRecord handlers p infoType size = some calls := by
  have connection : ∀ v6, ∃ calls, dispatchConnection handlers p v6 = some calls := by
    intro v6
    by_cases long : connectionFieldsSize (addrLen v6) ≤ p.length
    · exact ⟨_, dispatchConnection_value handlers valid v6 long⟩
    · refine ⟨_, if_pos ?_⟩
      unfold connectionFieldsSize at long
      omega
  have connectionEnd : ∀ v6, ∃ calls, dispatchConnectionEnd handlers p v6 = some calls := by
    intro v6
    by_cases long : connectionEndFieldsSize (addrLen v6) ≤ p.length
    · exact ⟨_, dispatchConnectionEnd_value handlers valid v6 long⟩
    · refine ⟨_, if_pos ?_⟩
      unfold connectionEndFieldsSize at long
      omega
  have bandwidth : ∀ v6, ∃ calls, dispatchBandwidth handlers p v6 = some calls := by
    intro v6
    by_cases long : 5 ≤ p.length
    · rw [dispatchBandwidth_value handlers valid v6 long]
      simp only
      split <;> exact ⟨_, rfl⟩
    · exact ⟨_, if_pos (by omega)⟩
  unfold dispatchRecord
  split
  · by_cases long : 1 ≤ p.length
    · exact ⟨_, dispatchLogLine_value handlers valid long⟩
    · exact ⟨_, if_pos (by omega)⟩
  · exact connection false
  · exact connection true
  · exact connectionEnd false
  · exact connectionEnd true
  · exact bandwidth false
  · exact bandwidth true
  · exact ⟨_, rfl⟩

/-- The calls depend on the bytes of the record only, not on where it lies in the buffer. -/
theorem dispatchRecord_congr {q : Window} (other : q.Valid) (same : p.content = q.content)
    (infoType : UInt8) (size : UInt32) :
    dispatchRecord handlers p infoType size = dispatchRecord handlers q infoType size := by
  have length : p.length = q.length := by
    rw [← valid.length_content, same, other.length_content]
  have connection : ∀ v6, dispatchConnection handlers p v6 = dispatchConnection handlers q v6 := by
    intro v6
    by_cases long : connectionFieldsSize (addrLen v6) ≤ p.length
    · rw [dispatchConnection_value handlers valid v6 long,
        dispatchConnection_value handlers other v6 (by omega), same, length]
    · have short : ∀ r : Window, r.length < connectionFieldsSize (addrLen v6) →
          dispatchConnection handlers r v6 =
            some (handlers.warning "Connection record too short") := by
        intro r short
        refine if_pos ?_
        unfold connectionFieldsSize at short
        omega
      rw [short p (by omega), short q (by omega)]
  have connectionEnd : ∀ v6,
      dispatchConnectionEnd handlers p v6 = dispatchConnectionEnd handlers q v6 := by
    intro v6
    by_cases long : connectionEndFieldsSize (addrLen v6) ≤ p.length
    · rw [dispatchConnectionEnd_value handlers valid v6 long,
        dispatchConnectionEnd_value handlers other v6 (by omega), same]
    · have short : ∀ r : Window, r.length < connectionEndFieldsSize (addrLen v6) →
          dispatchConnectionEnd handlers r v6 =
            some (handlers.warning "ConnectionEnd record too short") := by
        intro r short
        refine if_pos ?_
        unfold connectionEndFieldsSize at short
        omega
      rw [short p (by omega), short q (by omega)]
  have bandwidth : ∀ v6, dispatchBandwidth handlers p v6 = dispatchBandwidth handlers q v6 := by
    intro v6
    by_cases long : 5 ≤ p.length
    · rw [dispatchBandwidth_value handlers valid v6 long,
        dispatchBandwidth_value handlers other v6 (by omega), same, length]
    · have short : ∀ r : Window, r.length < 5 → dispatchBandwidth handlers r v6 =
          some (handlers.warning "Bandwidth record too short") := fun r short => if_pos short
      rw [short p (by omega), short q (by omega)]
  unfold dispatchRecord
  split
  · by_cases long : 1 ≤ p.length
    · rw [dispatchLogLine_value handlers valid long,
        dispatchLogLine_value handlers other (by omega), same, length]
    · have short : ∀ r : Window, r.length < 1 → dispatchLogLine handlers r =
          some (handlers.warning "LogLine record too short") := fun r short => if_pos short
      rw [short p (by omega), short q (by omega)]
  · exact connection false
  · exact connection true
  · exact connectionEnd false
  · exact connectionEnd true
  · exact bandwidth false
  · exact bandwidth true
  · rfl

end Values

end WindowsKext
