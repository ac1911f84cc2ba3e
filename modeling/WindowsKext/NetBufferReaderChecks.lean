import WindowsKext.NetBufferReaderCore
import WindowsKext.PacketMetadataFailures

/-! The reader against the bytes of its packet, for every pattern of results from NDIS. -/

namespace WindowsKext

open ByteString

/-- A copy in the scratch storage covers the bytes that were asked for. Memory behind a native
pointer also covers the reported span, as far as the packet goes. A failed read may leave anything in
the scratch storage. -/
def SpanRead.Truthful {N : Nat} (packet : Bytes) (length : Nat) (read : SpanRead N) : Prop :=
  match read.pointer with
  | .null => True
  | .scratch => ∀ offset, offset < length → read.storage[offset]? = packet[offset]?
  | .native memory => ∀ offset, offset < packet.length →
      offset < length ∨ offset < read.nativeSpan → packet[offset]? = some (memory offset)

/-- The cache points to the leading bytes of the packet, as many as it says. -/
structure PacketPrefix.Sound {N : Nat} (packet : Bytes) (cache : PacketPrefix N) : Prop where
  within : cache.length ≤ packet.length
  bytes : ∀ offset, offset < cache.length → packet[offset]? = some (cache.pointed offset)

section Cache

variable {N : Nat} {packet : Bytes} {cache : PacketPrefix N} {length : Nat}

theorem PacketPrefix.Sound.new (storage : Vector UInt8 N) (small : N ≤ 128) :
    (PacketPrefix.new storage small).Sound packet := by
  refine ⟨Nat.zero_le _, ?_⟩
  intro offset inside
  cases inside

theorem PacketPrefix.Sound.leading (sound : cache.Sound packet) (cached : length ≤ cache.length) :
    cache.leading length = packet.take length := by
  have within := sound.within
  refine List.ext_getElem? fun offset => ?_
  rw [PacketPrefix.leading, List.getElem?_map, List.getElem?_take]
  by_cases inside : offset < length
  · rw [List.getElem?_range inside, if_pos inside, sound.bytes offset (by omega)]
    rfl
  · rw [List.getElem?_eq_none (by rw [List.length_range]; omega), if_neg inside]
    rfl

theorem PacketPrefix.Sound.cachedByte (sound : cache.Sound packet) {offset : Nat} {byte : UInt8}
    (cached : cache.cachedByte offset = some byte) :
    offset < cache.length ∧ packet[offset]? = some byte := by
  unfold PacketPrefix.cachedByte at cached
  split at cached
  · cases cached
  · rename_i inside
    rw [← cached]
    exact ⟨Nat.lt_of_not_le inside, sound.bytes offset (Nat.lt_of_not_le inside)⟩

theorem readRetrying_truthful {σ : Type} {read : Nat → Vector UInt8 N → σ → SpanRead N × σ}
    (truthful : ∀ storage state, (read length storage state).1.Truthful packet length)
    (storage : Vector UInt8 N) (state : σ) :
    (readRetrying read length storage state).1.Truthful packet length := by
  unfold readRetrying
  dsimp only
  split
  · exact truthful _ _
  · exact truthful _ _

/-- A read of the cache keeps it sound. A slice is the start of the packet, and a failed read leaves
no scratch bytes. -/
structure CacheRead {N : Nat} (packet : Bytes) (length : Nat) (before : PacketPrefix N)
    (result : Option Bytes) (after : PacketPrefix N) : Prop where
  sound : after.Sound packet
  slice : ∀ bytes, result = some bytes →
    length ≤ packet.length ∧ length ≤ N ∧ bytes = packet.take length
  forgets : result = none → length ≤ packet.length → length ≤ N → before.native = none →
    after.length = 0

theorem CacheRead.of_cached {before after : PacketPrefix N} (sound : after.Sound packet)
    (cached : length ≤ after.length) :
    CacheRead packet length before (some (after.leading length)) after := by
  refine ⟨sound, ?_, ?_⟩
  · intro bytes ok
    cases ok
    exact ⟨Nat.le_trans cached sound.within, Nat.le_trans cached after.inside, sound.leading cached⟩
  · intro failed
    cases failed

theorem PacketPrefix.Sound.expand (sound : cache.Sound packet) {σ : Type}
    {read : Nat → Vector UInt8 N → σ → SpanRead N × σ} (fits : length ≤ N)
    (shorter : length ≤ packet.length) (longer : length > cache.length) (state : σ)
    (result : (readRetrying read length cache.storage state).1.Truthful packet length) :
    CacheRead packet length cache (cache.readWithSpan packet.length length read state).1
      (cache.readWithSpan packet.length length read state).2.1 := by
  have within : ¬ (length > N ∨ length > packet.length) := by omega
  have nonzero : ¬ length = 0 := by omega
  simp only [PacketPrefix.readWithSpan, within, nonzero, longer, ↓reduceDIte, ↓reduceIte]
  generalize readRetrying read length cache.storage state = outcome at result ⊢
  obtain ⟨⟨pointer, span, storage⟩, next⟩ := outcome
  cases pointer with
  | null =>
      dsimp only
      cases native : cache.native with
      | none =>
          refine ⟨⟨Nat.zero_le _, ?_⟩, ?_, ?_⟩
          · intro offset inside
            cases inside
          · intro bytes ok
            cases ok
          · intro _ _ _ _
            rfl
      | some memory =>
          -- NDIS writes into the scratch storage only, so the borrowed bytes stay.
          refine ⟨⟨sound.within, ?_⟩, ?_, ?_⟩
          · intro offset inside
            rw [sound.bytes offset inside, PacketPrefix.pointed, PacketPrefix.pointed, native]
          · intro bytes ok
            cases ok
          · intro _ _ _ scratch
            rw [native] at scratch
            cases scratch
  | scratch =>
      refine CacheRead.of_cached ⟨shorter, ?_⟩ (Nat.le_refl _)
      intro offset inside
      have copied := result offset inside
      dsimp only at copied inside
      rw [PacketPrefix.pointed, copied, List.getElem?_eq_getElem (by omega)]
      rfl
  | native memory =>
      refine CacheRead.of_cached ⟨?_, ?_⟩ (Nat.le_max_left _ _)
      · dsimp only
        omega
      · intro offset inside
        dsimp only at inside
        exact result offset (by omega) (by dsimp only; omega)

theorem PacketPrefix.Sound.readWithSpan (sound : cache.Sound packet) {σ : Type}
    {read : Nat → Vector UInt8 N → σ → SpanRead N × σ}
    (truthful : length ≤ N → length ≤ packet.length → ∀ storage state,
      (read length storage state).1.Truthful packet length) (state : σ) :
    CacheRead packet length cache (cache.readWithSpan packet.length length read state).1
      (cache.readWithSpan packet.length length read state).2.1 := by
  by_cases within : length ≤ N ∧ length ≤ packet.length
  · obtain ⟨fits, shorter⟩ := within
    by_cases longer : length > cache.length
    · exact sound.expand fits shorter longer state
        (readRetrying_truthful (truthful fits shorter) _ _)
    · have cached := @CacheRead.of_cached _ _ length cache cache sound (Nat.le_of_not_lt longer)
      have accepted : ¬ (length > N ∨ length > packet.length) := by omega
      simp only [PacketPrefix.readWithSpan, accepted, longer, ↓reduceDIte, ↓reduceIte]
      split
      · rename_i empty
        rw [empty] at cached ⊢
        exact cached
      · exact cached
  · have beyond : length > N ∨ length > packet.length := by omega
    simp only [PacketPrefix.readWithSpan, beyond, ↓reduceDIte]
    refine ⟨sound, ?_, ?_⟩
    · intro bytes ok
      cases ok
    · intro _ shorter fits
      exact absurd ⟨fits, shorter⟩ within

end Cache

/-- What NDIS promises for a net buffer with these bytes: whatever it returns for a length that fits
into the scratch storage is truthful. Every call may fail. -/
structure NdisTruthful {N : Nat} (packet : Bytes) (nb : NativeNetBuffer)
    (ndis : NdisGetDataBuffer N) : Prop where
  dataLength : nb.dataLength.toNat = packet.length
  read : ∀ calls (length : UInt32) storage, length.toNat ≤ N → length.toNat ≤ packet.length →
    SpanRead.Truthful packet length.toNat
      { pointer := (ndis calls length storage).1
        nativeSpan := NetBufferReader.nativeSpan nb length.toNat
        storage := (ndis calls length storage).2 }

structure NetBufferReader.Reads {N : Nat} (packet : Bytes) (reader : NetBufferReader N) : Prop where
  truthful : NdisTruthful packet reader.nb reader.ndisGetDataBuffer
  dataLength : reader.dataLength = packet.length
  sound : reader.packetPrefix.Sound packet

inductive ReaderCall where
  | readPrefix (length : Nat)
  | readByte (offset : Nat)

def NetBufferReader.call {N : Nat} (reader : NetBufferReader N) : ReaderCall → NetBufferReader N
  | .readPrefix length => (reader.readPrefix length).2
  | .readByte offset => (reader.readByte offset).2

section Reader

variable {N : Nat} {packet : Bytes} {reader : NetBufferReader N}

namespace NetBufferReader.Reads

theorem getDataBuffer (reads : reader.Reads packet) {length : Nat} (fits : length ≤ N)
    (shorter : length ≤ packet.length) (storage : Vector UInt8 N) (calls : Nat) :
    (reader.getDataBuffer length storage calls).1.Truthful packet length := by
  have small := reader.packetPrefix.small
  have lossless : (UInt32.ofNat length).toNat = length :=
    UInt32.toNat_ofNat_of_lt' (Nat.lt_of_le_of_lt (Nat.le_trans fits small) (by decide))
  have truthful := reads.truthful.read calls (UInt32.ofNat length) storage
  rw [lossless] at truthful
  have answer := truthful fits shorter
  unfold NetBufferReader.getDataBuffer
  generalize reader.ndisGetDataBuffer calls (UInt32.ofNat length) storage = result at answer ⊢
  obtain ⟨pointer, written⟩ := result
  cases pointer with
  | null => trivial
  | scratch => exact answer
  | native memory => exact answer

theorem readPrefix (reads : reader.Reads packet) (length : Nat) :
    CacheRead packet length reader.packetPrefix (reader.readPrefix length).1
        (reader.readPrefix length).2.packetPrefix ∧
      (reader.readPrefix length).2.Reads packet := by
  have read : CacheRead packet length reader.packetPrefix
      (reader.packetPrefix.readWithSpan packet.length length reader.getDataBuffer reader.calls).1
      (reader.packetPrefix.readWithSpan packet.length length reader.getDataBuffer
        reader.calls).2.1 :=
    reads.sound.readWithSpan (fun fits shorter => reads.getDataBuffer fits shorter) _
  rw [← reads.dataLength] at read
  exact ⟨read, reads.truthful, reads.dataLength, read.sound⟩

theorem readByte (reads : reader.Reads packet) (offset : Nat) :
    (∀ byte, (reader.readByte offset).1 = some byte →
      offset < packet.length ∧ offset < N ∧ packet[offset]? = some byte) ∧
      (reader.readByte offset).2.Reads packet := by
  unfold NetBufferReader.readByte
  cases cached : reader.packetPrefix.cachedByte offset with
  | some stored =>
      refine ⟨?_, reads⟩
      intro byte ok
      cases ok
      have found := reads.sound.cachedByte cached
      have within := reads.sound.within
      have inside := reader.packetPrefix.inside
      exact ⟨by omega, by omega, found.2⟩
  | none =>
      dsimp only
      split
      · obtain ⟨read, after⟩ := reads.readPrefix (offset + 1)
        refine ⟨?_, after⟩
        intro byte ok
        obtain ⟨bytes, ok, found⟩ := Option.bind_eq_some_iff.mp ok
        obtain ⟨shorter, fits, rfl⟩ := read.slice bytes ok
        rw [List.getElem?_take_of_lt (Nat.lt_succ_self _)] at found
        exact ⟨shorter, fits, found⟩
      · refine ⟨?_, reads⟩
        intro byte ok
        cases ok

theorem call (reads : reader.Reads packet) (request : ReaderCall) :
    (reader.call request).Reads packet := by
  cases request with
  | readPrefix length => exact (reads.readPrefix length).2
  | readByte offset => exact (reads.readByte offset).2

theorem run (reads : reader.Reads packet) (requests : List ReaderCall) :
    (requests.foldl NetBufferReader.call reader).Reads packet := by
  induction requests generalizing reader with
  | nil => exact reads
  | cons request rest ih => exact ih (reads.call request)

end NetBufferReader.Reads

/-- Nothing of an earlier read is left, so the next request asks NDIS again. -/
structure NetBufferReader.Forgot (packet : Bytes) (reader : NetBufferReader N) : Prop where
  cachedByte : ∀ offset, reader.packetPrefix.cachedByte offset = none
  asksAgain : ∀ length, 0 < length → length ≤ min packet.length N →
    reader.calls < (reader.readPrefix length).2.calls

theorem readRetrying_calls (reader : NetBufferReader N) (length : Nat) (storage : Vector UInt8 N)
    (calls : Nat) : calls < (readRetrying reader.getDataBuffer length storage calls).2 := by
  unfold readRetrying
  dsimp only
  split
  · exact Nat.lt_succ_of_lt (Nat.lt_succ_self calls)
  · exact Nat.lt_succ_self calls

theorem PacketPrefix.readWithSpan_state {σ : Type} {cache : PacketPrefix N} {dataLength length : Nat}
    (read : Nat → Vector UInt8 N → σ → SpanRead N × σ) (state : σ) (fits : length ≤ N)
    (shorter : length ≤ dataLength) (longer : length > cache.length) :
    (cache.readWithSpan dataLength length read state).2.2 =
      (readRetrying read length cache.storage state).2 := by
  have within : ¬ (length > N ∨ length > dataLength) := by omega
  have nonzero : ¬ length = 0 := by omega
  simp only [PacketPrefix.readWithSpan, within, nonzero, longer, ↓reduceDIte, ↓reduceIte]
  split
  · split <;> rfl
  · rfl
  · rfl

namespace NetBufferReader.Reads

theorem forgot (reads : reader.Reads packet) (empty : reader.packetPrefix.length = 0) :
    reader.Forgot packet := by
  constructor
  · intro offset
    rw [PacketPrefix.cachedByte, empty, if_pos (Nat.zero_le _)]
  · intro length positive within
    have state := PacketPrefix.readWithSpan_state reader.getDataBuffer reader.calls
      (show length ≤ N by omega) (show length ≤ reader.dataLength by rw [reads.dataLength]; omega)
      (show length > reader.packetPrefix.length by omega)
    exact Nat.lt_of_lt_of_eq (readRetrying_calls reader length _ _) state.symm

theorem readPrefix_forgot (reads : reader.Reads packet) {length : Nat}
    (within : length ≤ min packet.length N) (scratch : reader.packetPrefix.native = none)
    (failed : (reader.readPrefix length).1 = none) :
    (reader.readPrefix length).2.Forgot packet := by
  obtain ⟨read, after⟩ := reads.readPrefix length
  exact after.forgot (read.forgets failed (by omega) (by omega) scratch)

theorem readByte_forgot (reads : reader.Reads packet) {offset : Nat}
    (within : offset < min packet.length N) (scratch : reader.packetPrefix.native = none)
    (failed : (reader.readByte offset).1 = none) :
    (reader.readByte offset).2.Forgot packet := by
  have small := reader.packetPrefix.small
  unfold NetBufferReader.readByte at failed ⊢
  cases cached : reader.packetPrefix.cachedByte offset with
  | some stored =>
      rw [cached] at failed
      cases failed
  | none =>
      have inRange : offset + 1 < 18446744073709551616 := by omega
      rw [cached] at failed
      simp only [inRange, ↓reduceIte] at failed ⊢
      refine reads.readPrefix_forgot (by omega) scratch ?_
      cases result : (reader.readPrefix (offset + 1)).1 with
      | none => rfl
      | some bytes =>
          -- A slice of this length has the byte.
          have slice := ((reads.readPrefix (offset + 1)).1.slice bytes result).2.2
          rw [result, Option.bind_some, slice, List.getElem?_take_of_lt (Nat.lt_succ_self _),
            List.getElem?_eq_none_iff] at failed
          omega

end NetBufferReader.Reads

end Reader

structure ReaderExact {N : Nat} (packet : Bytes) (reader : NetBufferReader N) : Prop where
  readPrefix : ∀ length bytes, (reader.readPrefix length).1 = some bytes →
    length ≤ min packet.length N ∧ bytes = packet.take length
  readByte : ∀ offset byte, (reader.readByte offset).1 = some byte →
    offset < min packet.length N ∧ packet[offset]? = some byte
  prefixForgot : ∀ length, length ≤ min packet.length N → reader.packetPrefix.native = none →
    (reader.readPrefix length).1 = none → (reader.readPrefix length).2.Forgot packet
  byteForgot : ∀ offset, offset < min packet.length N → reader.packetPrefix.native = none →
    (reader.readByte offset).1 = none → (reader.readByte offset).2.Forgot packet

section Contract

variable {N : Nat} {packet : Bytes} {reader : NetBufferReader N}

theorem NetBufferReader.Reads.readerExact (reads : reader.Reads packet) :
    ReaderExact packet reader := by
  refine ⟨?_, ?_, ?_, ?_⟩
  · intro length bytes ok
    obtain ⟨shorter, fits, same⟩ := (reads.readPrefix length).1.slice bytes ok
    exact ⟨Nat.le_min.mpr ⟨shorter, fits⟩, same⟩
  · intro offset byte ok
    obtain ⟨shorter, fits, same⟩ := (reads.readByte offset).1 byte ok
    exact ⟨Nat.lt_min.mpr ⟨shorter, fits⟩, same⟩
  · exact fun _ within scratch failed => reads.readPrefix_forgot within scratch failed
  · exact fun _ within scratch failed => reads.readByte_forgot within scratch failed

theorem NetBufferReader.Reads.delivers (reads : reader.Reads packet) :
    Delivers (packet.take N) fun source : Option (NetBufferReader N) =>
      ∃ requests : List ReaderCall, source = some (requests.foldl NetBufferReader.call reader) := by
  refine ⟨?_, ?_, ?_, ?_, ?_⟩
  · rintro source ⟨requests, rfl⟩
    have length := (reads.run requests).dataLength
    rw [List.length_take, Nat.min_comm, ← length]
    rfl
  · rintro source length ⟨requests, rfl⟩
    refine ⟨requests ++ [.readPrefix length], ?_⟩
    rw [List.foldl_append]
    rfl
  · rintro source length bytes ⟨requests, rfl⟩ ok
    obtain ⟨within, same⟩ := (reads.run requests).readerExact.readPrefix length bytes ok
    rw [List.length_take, List.take_take, Nat.min_eq_left (Nat.le_trans within (Nat.min_le_right _ _)),
      Nat.min_comm]
    exact ⟨within, same⟩
  · rintro source offset ⟨requests, rfl⟩
    refine ⟨requests ++ [.readByte offset], ?_⟩
    rw [List.foldl_append]
    rfl
  · rintro source offset byte ⟨requests, rfl⟩ ok
    obtain ⟨within, same⟩ := (reads.run requests).readerExact.readByte offset byte ok
    rw [List.getElem?_take_of_lt (Nat.lt_of_lt_of_le within (Nat.min_le_right _ _))]
    exact same

theorem reader_reads {nb : NativeNetBuffer} {ndis : NdisGetDataBuffer N} {storage : Vector UInt8 N}
    {small : N ≤ 128} (truthful : NdisTruthful packet nb ndis)
    (opened : NetBufferReader.reader (some (some nb)) ndis storage small = some reader) :
    reader.Reads packet := by
  cases opened
  exact ⟨truthful, truthful.dataLength, .new storage small⟩

end Contract

/-- After any calls, a reader returns the leading bytes of its packet or an error. -/
theorem netBufferReader_exact {N : Nat} (packet : Bytes) (nb : NativeNetBuffer)
    (ndis : NdisGetDataBuffer N) (truthful : NdisTruthful packet nb ndis)
    (storage : Vector UInt8 N) (small : N ≤ 128) (reader : NetBufferReader N)
    (opened : NetBufferReader.reader (some (some nb)) ndis storage small = some reader) :
    (∀ requests : List ReaderCall,
      ReaderExact packet (requests.foldl NetBufferReader.call reader)) ∧
      Delivers (packet.take N) fun source : Option (NetBufferReader N) =>
        ∃ requests : List ReaderCall,
          source = some (requests.foldl NetBufferReader.call reader) := by
  have reads := reader_reads truthful opened
  exact ⟨fun requests => (reads.run requests).readerExact, reads.delivers⟩

def splitPacket : Bytes := [0x45, 0, 0, 6, 1, 2]

/-- Two bytes of the packet are in the current MDL. -/
def splitNetBuffer : NativeNetBuffer where
  dataLength := 6
  currentMdlByteCount := some 16
  currentMdlOffset := 14

/-- Longer prefixes are copied, and the second and the third call fail. -/
def splitNdis : NdisGetDataBuffer 8 := fun calls length storage =>
  if calls = 1 ∨ calls = 2 ∨ 6 < length.toNat then (.null, Vector.replicate 8 0xff)
  else if length.toNat ≤ 2 then (.native (byteAt splitPacket), storage)
  else (.scratch, Vector.ofFn fun index =>
    if index.val < length.toNat then byteAt splitPacket index.val else storage[index])

theorem splitNdis_truthful : NdisTruthful splitPacket splitNetBuffer splitNdis := by
  refine ⟨rfl, ?_⟩
  intro calls length storage fits shorter
  have present (offset : Nat) (inside : offset < splitPacket.length) :
      splitPacket[offset]? = some (byteAt splitPacket offset) := by
    rw [byteAt, List.getD_eq_getElem?_getD, List.getElem?_eq_getElem inside]
    rfl
  by_cases fails : calls = 1 ∨ calls = 2 ∨ 6 < length.toNat
  · rw [splitNdis, if_pos fails]
    trivial
  · by_cases mapped : length.toNat ≤ 2
    · rw [splitNdis, if_neg fails, if_pos mapped]
      intro offset inside _
      exact present offset inside
    · rw [splitNdis, if_neg fails, if_neg mapped]
      intro offset inside
      dsimp only
      rw [Vector.getElem?_ofFn, dif_pos (by omega), if_pos inside]
      exact (present offset (by omega)).symm

def splitReader : NetBufferReader 8 where
  nb := splitNetBuffer
  dataLength := 6
  packetPrefix := .new (Vector.replicate 8 0) (by decide)
  ndisGetDataBuffer := splitNdis
  calls := 0

theorem netBufferReader_exact_splitReader :
    (splitReader.readPrefix 4).1 = some [0x45, 0, 0, 6] ∧
      ((splitReader.readPrefix 4).2.readPrefix 6).1 = none ∧
      ∀ requests : List ReaderCall,
        ReaderExact splitPacket (requests.foldl NetBufferReader.call splitReader) :=
  ⟨by decide +kernel, by decide +kernel,
    (netBufferReader_exact splitPacket splitNetBuffer splitNdis splitNdis_truthful
      (Vector.replicate 8 0) (by decide) splitReader rfl).1⟩

end WindowsKext
