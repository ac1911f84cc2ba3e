import WindowsKext.PacketMetadataReference

/-! The inspector over a source whose reads may fail. Failed reads become errors or missing
metadata, never a key, a fragment or a reset that the packet does not have. -/

namespace WindowsKext

open ByteString

/-- Reading a prefix keeps the states of a source that satisfy a predicate. -/
def KeepsReads {S : Type} [PacketData S] (Reads : S → Prop) : Prop :=
  ∀ source length, Reads source → Reads (PacketData.readPrefix source length).2

/-- The states of a source over a packet. Every read returns nothing or the bytes of the packet,
and a later read may fail where an earlier one did not. -/
structure Delivers {S : Type} [PacketData S] (packet : Bytes) (Reads : S → Prop) : Prop where
  len : ∀ source, Reads source → PacketData.len source = packet.length
  keeps : KeepsReads Reads
  readPrefix : ∀ source length bytes, Reads source →
    (PacketData.readPrefix source length).1 = some bytes →
      length ≤ packet.length ∧ bytes = packet.take length
  keepsByte : ∀ source offset, Reads source → Reads (PacketData.readByte source offset).2
  readByte : ∀ source offset byte, Reads source →
    (PacketData.readByte source offset).1 = some byte → packet[offset]? = some byte

section Walk

variable {S : Type} [PacketData S] {Reads : S → Prop}

theorem walkIpv6Loop_keeps (keeps : KeepsReads Reads) (stopAtFragment : Bool) (remaining : Nat)
    (headers : Ipv6Headers) {source : S} (reads : Reads source) :
    Reads (walkIpv6Loop stopAtFragment false remaining headers source).2 := by
  induction remaining generalizing headers source with
  | zero =>
      unfold walkIpv6Loop
      split <;> exact reads
  | succ remaining ih =>
      obtain ⟨protocol, offset, isFragment, active, resolved⟩ := headers
      cases protocol with
      | ipv6Frag =>
          simp only [walkIpv6Loop]
          split
          · have next := keeps source (offset + 4) reads
            generalize PacketData.readPrefix source (offset + 4) = result at next ⊢
            obtain ⟨_ | read, after⟩ := result
            · exact next
            · dsimp only
              split
              · split
                · exact next
                · exact ih _ next
              · exact ih _ next
          · exact reads
      | hopByHop | ipv6Route | ipv6Opts =>
          have next := keeps source (offset + 2) reads
          simp only [walkIpv6Loop]
          generalize PacketData.readPrefix source (offset + 2) = result at next ⊢
          obtain ⟨_ | read, after⟩ := result
          · exact next
          · simp only [Bool.false_and, Bool.false_eq_true, ↓reduceIte]
            split
            · exact ih _ next
            · exact next
      | _ => exact reads

theorem walkIpv6HeadersReader_keeps (keeps : KeepsReads Reads) (stopAtFragment : Bool)
    {source : S} (reads : Reads source) :
    Reads (walkIpv6HeadersReader source stopAtFragment false).2 := by
  have next := keeps source ipv6BaseLen reads
  unfold walkIpv6HeadersReader
  generalize PacketData.readPrefix source ipv6BaseLen = result at next ⊢
  obtain ⟨_ | read, after⟩ := result
  · exact next
  · exact walkIpv6Loop_keeps keeps _ _ _ next

variable {packet : Bytes}

theorem walkIpv6Loop_isFragment {headers : Ipv6Headers} (found : headers.isFragment = true)
    (packet : Bytes) (stopAtFragment : Bool) (remaining : Nat) :
    (walkIpv6Loop stopAtFragment false remaining headers packet).1.isFragment = true := by
  simp [walkIpv6Loop_eq, reportChain, found]

/-- What a walk with failed reads may report, given the walk over the whole packet. -/
structure WalkSound (partialWalk fullWalk : Ipv6Headers) : Prop where
  resolved : partialWalk.resolved = true → partialWalk = fullWalk
  fragment : partialWalk.isFragment = true → fullWalk.isFragment = true

theorem walkSound_of_failure {headers : Ipv6Headers} (fresh : headers.resolved = false)
    (packet : Bytes) (stopAtFragment : Bool) (remaining : Nat) :
    WalkSound headers (walkIpv6Loop stopAtFragment false remaining headers packet).1 where
  resolved resolved := by
    rw [fresh] at resolved
    cases resolved
  fragment found := walkIpv6Loop_isFragment found packet stopAtFragment remaining

theorem Delivers.walkIpv6Loop (delivers : Delivers packet Reads) (stopAtFragment : Bool)
    (remaining : Nat) (headers : Ipv6Headers) (fresh : headers.resolved = false) {source : S}
    (reads : Reads source) :
    WalkSound (walkIpv6Loop stopAtFragment false remaining headers source).1
      (walkIpv6Loop stopAtFragment false remaining headers packet).1 := by
  induction remaining generalizing headers source with
  | zero =>
      have same : (WindowsKext.walkIpv6Loop stopAtFragment false 0 headers source).1 =
          (WindowsKext.walkIpv6Loop stopAtFragment false 0 headers packet).1 := by
        unfold WindowsKext.walkIpv6Loop
        split <;> rfl
      rw [same]
      exact ⟨fun _ => rfl, id⟩
  | succ remaining ih =>
      have failure := walkSound_of_failure fresh packet stopAtFragment (remaining + 1)
      obtain ⟨protocol, offset, isFragment, active, resolved⟩ := headers
      cases protocol with
      | ipv6Frag =>
          have next := delivers.keeps source (offset + 4) reads
          have bytes := delivers.readPrefix source (offset + 4)
          revert failure
          simp only [WindowsKext.walkIpv6Loop, delivers.len source reads, readPrefix_bytes,
            len_bytes]
          by_cases complete : offset + 8 ≤ packet.length
          · have readable : offset + 4 ≤ packet.length := by omega
            generalize PacketData.readPrefix source (offset + 4) = result at next bytes ⊢
            obtain ⟨_ | read, after⟩ := result
            · simp only [complete, readable, ↓reduceIte]
              exact id
            · obtain ⟨-, rfl⟩ := bytes read reads rfl
              simp only [complete, readable, ↓reduceIte]
              intro failure
              split
              · split
                · exact ⟨fun _ => rfl, id⟩
                · exact ih _ (by exact fresh) next
              · exact ih _ (by exact fresh) next
          · simp only [complete, ↓reduceIte]
            exact id
      | hopByHop | ipv6Route | ipv6Opts =>
          have next := delivers.keeps source (offset + 2) reads
          have bytes := delivers.readPrefix source (offset + 2)
          revert failure
          simp only [WindowsKext.walkIpv6Loop, readPrefix_bytes]
          generalize PacketData.readPrefix source (offset + 2) = result at next bytes ⊢
          obtain ⟨_ | read, after⟩ := result
          · exact id
          · obtain ⟨readable, rfl⟩ := bytes read reads rfl
            simp only [readable, ↓reduceIte, delivers.len after next, len_bytes, Bool.false_and,
              Bool.false_eq_true]
            intro failure
            split
            · exact ih _ (by exact fresh) next
            · rename_i past
              simp only [past, ↓reduceIte] at failure
              exact failure
      | _ => exact ⟨fun _ => rfl, id⟩

/-- A resolved walk over a failing source is the walk over the packet, and a fragment it finds is
in the packet. -/
theorem Delivers.walkIpv6HeadersReader (delivers : Delivers packet Reads) (stopAtFragment : Bool)
    {source : S} (reads : Reads source) :
    WalkSound (walkIpv6HeadersReader source stopAtFragment false).1
      (walkIpv6HeadersReader packet stopAtFragment false).1 := by
  have next := delivers.keeps source ipv6BaseLen reads
  have bytes := delivers.readPrefix source ipv6BaseLen
  unfold WindowsKext.walkIpv6HeadersReader
  rw [readPrefix_bytes]
  generalize PacketData.readPrefix source ipv6BaseLen = result at next bytes ⊢
  obtain ⟨_ | read, after⟩ := result
  · refine ⟨?_, ?_⟩
    · intro resolved
      cases resolved
    · intro found
      cases found
  · obtain ⟨readable, rfl⟩ := bytes read reads rfl
    simp only [readable, ↓reduceIte]
    exact delivers.walkIpv6Loop stopAtFragment _ _ rfl next

end Walk

/-- The Fragment header of a packet has an offset, or more fragments follow. An IPv6 chain is
followed up to its first such header. -/
def IsNonAtomicFragment (packet : Bytes) (ipv6 : Bool) : Prop :=
  if ipv6 then
    ipv6BaseLen ≤ packet.length ∧
      ∃ header ∈ (packetChain packet true).headers, isNonAtomicFragment packet header = true
  else
    ipv4BaseLen ≤ packet.length ∧
      (Ipv4Packet.fragOffset packet ≠ 0 ∨ Ipv4Packet.moreFrags packet = true)

theorem isNonAtomicFragment_iff (packet : Bytes) (ipv6 : Bool) :
    IsNonAtomicFragment packet ipv6 ↔ (fullHeader packet ipv6 true).isFragment = true := by
  unfold fullHeader IsNonAtomicFragment
  cases ipv6 with
  | true =>
      have length : PacketInspector.baseLength true = ipv6BaseLen := rfl
      rw [length]
      by_cases base : ipv6BaseLen ≤ packet.length
      · rw [if_pos rfl, if_neg (Nat.not_lt.mpr base), if_pos rfl, walkIpv6HeadersReader_eq base]
        simp [walkedHeader, reportChain, baseHeaders, base]
      · rw [if_pos rfl, if_pos (Nat.lt_of_not_le base)]
        simp [HeaderInspection.unreadable, base]
  | false =>
      have length : PacketInspector.baseLength false = ipv4BaseLen := rfl
      rw [length]
      by_cases base : ipv4BaseLen ≤ packet.length
      · rw [if_neg (by decide), if_neg (Nat.not_lt.mpr base), if_neg (by decide)]
        simp [PacketInspector.parseBaseHeader, base]
      · rw [if_neg (by decide), if_pos (Nat.lt_of_not_le base)]
        simp [HeaderInspection.unreadable, base]

/-- A cached header without an error is the header of the packet, and one that is marked as a
fragment belongs to a fragment. -/
structure TrustedHeader (packet : Bytes) (ipv6 permitFragments : Bool)
    (header : HeaderInspection) : Prop where
  exact : header.error = none → header = fullHeader packet ipv6 permitFragments
  fragment : header.error = some .fragmentRequiresReassembly → IsNonAtomicFragment packet ipv6

theorem trustedHeader_unreadable (packet : Bytes) (ipv6 permitFragments : Bool) :
    TrustedHeader packet ipv6 permitFragments .unreadable where
  exact readable := by cases readable
  fragment failed := by cases failed

theorem trustedHeader_full (packet : Bytes) (ipv6 permitFragments : Bool) :
    TrustedHeader packet ipv6 permitFragments (fullHeader packet ipv6 permitFragments) where
  exact _ := rfl
  fragment failed := by
    cases permitFragments with
    | true =>
        exact (isNonAtomicFragment_iff packet ipv6).mpr
          ((fullHeader_fragment packet ipv6).mp failed)
    | false =>
        unfold fullHeader at failed
        split at failed
        · cases failed
        · split at failed
          · simp only [walkedHeader, Bool.false_and, Bool.false_eq_true, ↓reduceIte] at failed
            split at failed <;> cases failed
          · cases failed

/-- An inspector whose caches hold nothing that failed reads made up. -/
structure Trusts {S : Type} [PacketData S] (packet : Bytes) (Reads : S → Prop)
    (inspector : PacketInspector S) : Prop where
  reads : Reads inspector.reader
  header : ∀ header, inspector.header = some header →
    TrustedHeader packet inspector.ipv6 inspector.permitFragments header
  reset : inspector.tcpReset = some true → resetOf packet (inspector.headerOf packet) = true

/-- An inspector after an accessor. Its reads go on, and its caches are still to be trusted. -/
structure Continues {S : Type} [PacketData S] (packet : Bytes) (Reads : S → Prop)
    (inspector after : PacketInspector S) : Prop where
  trusts : Trusts packet Reads after
  ipv6 : after.ipv6 = inspector.ipv6
  direction : after.direction = inspector.direction
  permitFragments : after.permitFragments = inspector.permitFragments

structure SoundKey (packet : Bytes) (ipv6 : Bool) (direction : Direction) (permitFragments : Bool)
    (result : Except PacketMetadataError Key) : Prop where
  exact : ∀ key, result = .ok key →
    keyOf packet ipv6 direction (fullHeader packet ipv6 permitFragments) = .ok key
  fragment : result = .error .fragmentRequiresReassembly → IsNonAtomicFragment packet ipv6

section Accessors

variable {S : Type} [PacketData S] {packet : Bytes} {Reads : S → Prop}
  {inspector after : PacketInspector S}

theorem Continues.trans {last : PacketInspector S} (first : Continues packet Reads inspector after)
    (second : Continues packet Reads after last) : Continues packet Reads inspector last where
  trusts := second.trusts
  ipv6 := second.ipv6.trans first.ipv6
  direction := second.direction.trans first.direction
  permitFragments := second.permitFragments.trans first.permitFragments

theorem Trusts.continues (trusts : Trusts packet Reads inspector) :
    Continues packet Reads inspector inspector :=
  ⟨trusts, rfl, rfl, rfl⟩

theorem Trusts.withReader (trusts : Trusts packet Reads inspector) {reader : S}
    (reads : Reads reader) :
    Continues packet Reads inspector { inspector with reader := reader } :=
  ⟨⟨reads, trusts.header, trusts.reset⟩, rfl, rfl, rfl⟩

theorem Trusts.withHeader (trusts : Trusts packet Reads inspector) {header : HeaderInspection}
    (trusted : TrustedHeader packet inspector.ipv6 inspector.permitFragments header) :
    Continues packet Reads inspector { inspector with header := some header } := by
  refine ⟨⟨trusts.reads, ?_, trusts.reset⟩, rfl, rfl, rfl⟩
  intro cached same
  cases same
  exact trusted

def ReadsBase (packet : Bytes) (ipv6 : Bool) (read : Option Bytes) : Prop :=
  ∀ bytes, read = some bytes → ∃ count, PacketInspector.baseLength ipv6 ≤ count ∧
    count ≤ packet.length ∧ bytes = packet.take count

theorem Delivers.readInitial (delivers : Delivers packet Reads) (inspector : PacketInspector S)
    (reads : Reads inspector.reader) :
    ReadsBase packet inspector.ipv6 inspector.readInitial.1 ∧
      ∃ reader, Reads reader ∧ inspector.readInitial.2 = { inspector with reader := reader } := by
  unfold PacketInspector.readInitial
  dsimp only
  split
  · rename_i base
    refine ⟨?_, _, delivers.keeps _ _ reads, rfl⟩
    intro bytes read
    obtain ⟨inside, rfl⟩ := delivers.readPrefix _ _ _ reads read
    exact ⟨_, base, inside, rfl⟩
  · refine ⟨?_, _, reads, rfl⟩
    intro bytes read
    cases read

theorem Delivers.readBase (delivers : Delivers packet Reads) (inspector : PacketInspector S)
    (reads : Reads inspector.reader) :
    ReadsBase packet inspector.ipv6 inspector.readBase.1 ∧
      ∃ reader, Reads reader ∧ inspector.readBase.2 = { inspector with reader := reader } := by
  refine ⟨?_, _, delivers.keeps _ _ reads, rfl⟩
  intro bytes read
  obtain ⟨inside, rfl⟩ := delivers.readPrefix _ _ _ reads read
  exact ⟨_, Nat.le_refl _, inside, rfl⟩

/-- The header that a base read resolves to is to be trusted, whatever the walk could read. -/
theorem Delivers.resolveIpv6Header (delivers : Delivers packet Reads)
    (inspector : PacketInspector S) (reads : Reads inspector.reader)
    (base : PacketInspector.baseLength inspector.ipv6 ≤ packet.length) :
    TrustedHeader packet inspector.ipv6 inspector.permitFragments
        (inspector.resolveIpv6Header (PacketInspector.parseBaseHeader packet inspector.ipv6
          inspector.permitFragments)).1 ∧
      ∃ reader, Reads reader ∧
        (inspector.resolveIpv6Header (PacketInspector.parseBaseHeader packet inspector.ipv6
          inspector.permitFragments)).2 = { inspector with reader := reader } := by
  obtain ⟨source, ipv6, direction, permitFragments, header, tcpReset⟩ := inspector
  cases ipv6 with
  | false =>
      have trusted := trustedHeader_full packet false permitFragments
      rw [fullHeader_of_plain base permitFragments rfl] at trusted
      exact ⟨trusted, source, reads, rfl⟩
  | true =>
      have complete : ipv6BaseLen ≤ packet.length := base
      have walk := delivers.walkIpv6HeadersReader permitFragments reads
      have kept := walkIpv6HeadersReader_keeps delivers.keeps permitFragments reads
      have full (permits : Bool) : fullHeader packet true permits =
          walkedHeader permits (WindowsKext.walkIpv6HeadersReader packet permits false).1 := by
        rw [fullHeader, if_neg (Nat.not_lt.mpr base), if_pos rfl]
      unfold PacketInspector.resolveIpv6Header
      split
      · refine ⟨⟨?_, ?_⟩, _, kept, rfl⟩
        · intro readable
          have resolved : (WindowsKext.walkIpv6HeadersReader source permitFragments
              false).1.resolved = true := by
            dsimp only at readable
            split at readable
            · cases readable
            · simpa using readable
          dsimp only
          rw [walk.resolved resolved, walkIpv6HeadersReader_offset, full]
          rfl
        · intro failed
          have fragment : (permitFragments && (WindowsKext.walkIpv6HeadersReader source
              permitFragments false).1.isFragment) = true := by
            dsimp only at failed
            split at failed
            · assumption
            · split at failed <;> cases failed
          obtain ⟨rfl, found⟩ := Bool.and_eq_true _ _ ▸ fragment
          refine (isNonAtomicFragment_iff packet true).mpr ?_
          rw [full]
          exact walk.fragment found
      · rename_i plain
        have upper : (true && (PacketInspector.parseBaseHeader packet true
            permitFragments).protocol.isExtension) = false := by
          simpa [PacketInspector.parseBaseHeader] using plain
        have trusted := trustedHeader_full packet true permitFragments
        rw [fullHeader_of_plain base permitFragments upper] at trusted
        exact ⟨trusted, source, reads, rfl⟩

theorem Delivers.cacheHeader (delivers : Delivers packet Reads)
    (trusts : Trusts packet Reads inspector) {read : Option Bytes}
    (base : ReadsBase packet inspector.ipv6 read) :
    let resolved := inspector.resolveIpv6Header ((read.map fun bytes =>
      PacketInspector.parseBaseHeader bytes inspector.ipv6 inspector.permitFragments).getD
        .unreadable)
    TrustedHeader packet inspector.ipv6 inspector.permitFragments resolved.1 ∧
      Continues packet Reads inspector { resolved.2 with header := some resolved.1 } := by
  cases read with
  | none =>
      simp only [Option.map_none, Option.getD_none, resolve_unreadable]
      have trusted := trustedHeader_unreadable packet inspector.ipv6 inspector.permitFragments
      exact ⟨trusted, trusts.withHeader trusted⟩
  | some bytes =>
      obtain ⟨count, long, inside, rfl⟩ := base bytes rfl
      simp only [Option.map_some, Option.getD_some, parseBaseHeader_take long]
      obtain ⟨trusted, reader, reads, resolved⟩ :=
        delivers.resolveIpv6Header inspector trusts.reads (Nat.le_trans long inside)
      rw [resolved]
      have continued := trusts.withReader reads
      exact ⟨trusted, continued.trans (continued.trusts.withHeader trusted)⟩

theorem Delivers.cacheBase (delivers : Delivers packet Reads)
    (trusts : Trusts packet Reads inspector) :
    let resolved := inspector.readBase.2.resolveIpv6Header ((inspector.readBase.1.map fun bytes =>
      PacketInspector.parseBaseHeader bytes inspector.readBase.2.ipv6
        inspector.readBase.2.permitFragments).getD .unreadable)
    TrustedHeader packet inspector.ipv6 inspector.permitFragments resolved.1 ∧
      Continues packet Reads inspector { resolved.2 with header := some resolved.1 } := by
  obtain ⟨base, reader, reads, same⟩ := delivers.readBase inspector trusts.reads
  rw [same]
  have continued := trusts.withReader reads
  obtain ⟨trusted, cached⟩ := delivers.cacheHeader continued.trusts base
  exact ⟨trusted, continued.trans cached⟩

theorem Delivers.getHeader (delivers : Delivers packet Reads)
    (trusts : Trusts packet Reads inspector) :
    TrustedHeader packet inspector.ipv6 inspector.permitFragments inspector.getHeader.1 ∧
      Continues packet Reads inspector inspector.getHeader.2 := by
  unfold PacketInspector.getHeader
  cases cached : inspector.header with
  | some header => exact ⟨trusts.header header cached, trusts.continues⟩
  | none =>
      simp only [PacketInspector.readHeader]
      obtain ⟨base, reader, reads, same⟩ := delivers.readInitial inspector trusts.reads
      generalize inspector.readInitial = initial at base same ⊢
      obtain ⟨read, first⟩ := initial
      obtain rfl : first = { inspector with reader := reader } := same
      have continued := trusts.withReader reads
      cases read with
      | some bytes =>
          obtain ⟨trusted, kept⟩ := delivers.cacheHeader continued.trusts base
          exact ⟨trusted, continued.trans kept⟩
      | none =>
          obtain ⟨trusted, kept⟩ := delivers.cacheBase continued.trusts
          exact ⟨trusted, continued.trans kept⟩

theorem soundKey_error {ipv6 : Bool} {direction : Direction} {permitFragments : Bool}
    {error : PacketMetadataError}
    (fragment : error = .fragmentRequiresReassembly → IsNonAtomicFragment packet ipv6) :
    SoundKey packet ipv6 direction permitFragments (.error error) where
  exact key same := by cases same
  fragment same := fragment (Except.error.inj same)

theorem soundKey_ok {ipv6 : Bool} {direction : Direction} {permitFragments : Bool} {key : Key}
    (parsed : keyOf packet ipv6 direction (fullHeader packet ipv6 permitFragments) = .ok key) :
    SoundKey packet ipv6 direction permitFragments (.ok key) where
  exact found same := by
    cases same
    exact parsed
  fragment same := by cases same

theorem Delivers.readKeyFromHeader (delivers : Delivers packet Reads)
    (trusts : Trusts packet Reads inspector) :
    SoundKey packet inspector.ipv6 inspector.direction inspector.permitFragments
        inspector.readKeyFromHeader.1 ∧
      Continues packet Reads inspector inspector.readKeyFromHeader.2 := by
  obtain ⟨trusted, continued⟩ := delivers.getHeader trusts
  unfold PacketInspector.readKeyFromHeader
  generalize inspector.getHeader = got at trusted continued ⊢
  obtain ⟨header, got⟩ := got
  dsimp only at trusted continued ⊢
  cases failed : header.error with
  | some error =>
      refine ⟨soundKey_error ?_, continued⟩
      rintro rfl
      exact trusted.fragment failed
  | none =>
      obtain ⟨source, ipv6, direction, permitFragments, cached, tcpReset⟩ := got
      obtain ⟨gotTrusts, rfl, rfl, rfl⟩ := continued
      have exact := trusted.exact failed
      have goesOn {reader : S} (reads : Reads reader) : Continues packet Reads inspector
          ⟨reader, inspector.ipv6, inspector.direction, inspector.permitFragments, cached,
            tcpReset⟩ :=
        ⟨(gotTrusts.withReader reads).trusts, rfl, rfl, rfl⟩
      generalize lengthEq : (if inspector.ipv6 = true then ipv6BaseLen else ipv4BaseLen + 4) =
        length
      have base : PacketInspector.baseLength inspector.ipv6 ≤ length := by
        rw [← lengthEq]
        cases inspector.ipv6 <;> decide
      have kept := delivers.keeps source length gotTrusts.reads
      have bytes := delivers.readPrefix source length
      dsimp only at gotTrusts ⊢
      generalize PacketData.readPrefix source length = result at kept bytes ⊢
      obtain ⟨_ | read, reader⟩ := result
      · exact ⟨soundKey_error (by simp), goesOn kept⟩
      obtain ⟨readable, rfl⟩ := bytes read gotTrusts.reads rfl
      have parsed : keyOf packet inspector.ipv6 inspector.direction
          (fullHeader packet inspector.ipv6 inspector.permitFragments) =
            .ok (PacketInspector.parseKey packet inspector.ipv6 inspector.direction header) := by
        rw [← exact]
        simp only [keyOf, failed, lengthEq]
        rw [if_neg (Nat.not_lt.mpr readable)]
      dsimp only at kept ⊢
      simp only [keyAddresses_take base, List.length_take, Nat.min_eq_left readable,
        delivers.len reader kept]
      cases transport : (header.protocol == .tcp || header.protocol == .udp) with
      | false =>
          simp only [Bool.false_eq_true, ↓reduceIte]
          refine ⟨soundKey_ok ?_, goesOn kept⟩
          rw [parsed, PacketInspector.parseKey, getPorts_of_other _ transport]
      | true =>
          simp only [↓reduceIte]
          split
          · rename_i inside
            refine ⟨soundKey_ok ?_, goesOn kept⟩
            have ports : slice (packet.take length) header.transportOffset
                (header.transportOffset + 4) =
                  slice packet header.transportOffset (header.transportOffset + 4) := by
              rw [slice, slice, List.take_take, Nat.min_eq_left inside]
            rw [parsed, PacketInspector.parseKey, ports,
              getPorts_slice (Nat.le_refl _) (Nat.le_trans inside readable)]
          · split
            · refine ⟨soundKey_ok ?_, goesOn kept⟩
              rw [parsed, PacketInspector.parseKey,
                getPorts_of_short (by rw [List.length_drop]; omega)]
            · have nextKept := delivers.keeps reader (header.transportOffset + 4) kept
              have nextBytes := delivers.readPrefix reader (header.transportOffset + 4)
              generalize PacketData.readPrefix reader (header.transportOffset + 4) = result
                at nextKept nextBytes ⊢
              obtain ⟨_ | read, next⟩ := result
              · exact ⟨soundKey_error (by simp), goesOn nextKept⟩
              · obtain ⟨present, rfl⟩ := nextBytes read kept rfl
                refine ⟨soundKey_ok ?_, goesOn nextKept⟩
                have ports : getPorts (slice packet header.transportOffset
                    (header.transportOffset + 4)) header.protocol =
                      getPorts (packet.drop header.transportOffset) header.protocol :=
                  getPorts_slice (Nat.le_refl _) present
                rw [slice] at ports
                rw [parsed, PacketInspector.parseKey, ports]

theorem Delivers.keyFromInitial (delivers : Delivers packet Reads)
    (trusts : Trusts packet Reads inspector) {count : Nat}
    (base : PacketInspector.baseLength inspector.ipv6 ≤ count) (inside : count ≤ packet.length) :
    SoundKey packet inspector.ipv6 inspector.direction inspector.permitFragments
        (inspector.keyFromInitial (packet.take count)).1 ∧
      Continues packet Reads inspector (inspector.keyFromInitial (packet.take count)).2 := by
  have complete := Nat.le_trans base inside
  unfold PacketInspector.keyFromInitial
  rw [parseBaseHeader_take base]
  have offset := parseBaseHeader_offset packet inspector.ipv6 inspector.permitFragments
  cases extension : (inspector.ipv6 && (PacketInspector.parseBaseHeader packet inspector.ipv6
      inspector.permitFragments).protocol.isExtension) with
  | true =>
      have family : inspector.ipv6 = true := (Bool.and_eq_true _ _ ▸ extension).1
      have readable : (PacketInspector.parseBaseHeader packet inspector.ipv6
          inspector.permitFragments).error = none := by
        rw [family]
        rfl
      simp only [readable, extension, Bool.not_true, Bool.false_and, Bool.false_eq_true,
        ↓reduceIte]
      obtain ⟨trusted, reader, reads, resolved⟩ := delivers.resolveIpv6Header { inspector with
        header := some (PacketInspector.parseBaseHeader packet inspector.ipv6
          inspector.permitFragments) } trusts.reads complete
      rw [resolved]
      have continued := (trusts.withReader reads).trans
        ((trusts.withReader reads).trusts.withHeader trusted)
      obtain ⟨sound, kept⟩ := delivers.readKeyFromHeader continued.trusts
      exact ⟨sound, continued.trans kept⟩
  | false =>
      have full := fullHeader_of_plain complete inspector.permitFragments extension
      have trusted := trustedHeader_full packet inspector.ipv6 inspector.permitFragments
      rw [full] at trusted
      have continued := trusts.withHeader trusted
      generalize PacketInspector.parseBaseHeader packet inspector.ipv6
        inspector.permitFragments = header at *
      cases failed : header.error with
      | some error =>
          simp only [failed]
          refine ⟨soundKey_error ?_, continued⟩
          rintro rfl
          exact trusted.fragment failed
      | none =>
          simp only [failed, extension, Bool.not_false, Bool.true_and, decide_eq_true_eq,
            List.length_take, Nat.min_eq_left inside, Bool.false_eq_true, ↓reduceIte]
          generalize keyEndEq : (if (header.protocol == .tcp || header.protocol == .udp) = true then
              header.transportOffset + 4
            else if inspector.ipv6 = true then ipv6BaseLen else ipv4BaseLen + 4) = keyEnd
          by_cases early : keyEnd ≤ count
          · have ports (transport : (header.protocol == .tcp || header.protocol == .udp) = true) :
                header.transportOffset + 4 ≤ count := by
              rw [if_pos transport] at keyEndEq
              omega
            have whole : ipv4BaseLen ≤ PacketInspector.baseLength inspector.ipv6 := by
              cases inspector.ipv6 <;> decide
            rw [if_pos early]
            refine ⟨soundKey_ok ?_, continued⟩
            rw [parseKey_take base inside ports, full]
            refine keyOf_of_early failed (Nat.le_trans whole offset) ?_ keyEndEq.symm
              (Nat.le_trans early inside)
            intro family
            rwa [family] at offset
          · rw [if_neg early]
            obtain ⟨sound, kept⟩ := delivers.readKeyFromHeader continued.trusts
            exact ⟨sound, continued.trans kept⟩

/-- A key is the key of the packet or an error, whichever reads failed. -/
theorem Delivers.key (delivers : Delivers packet Reads) (trusts : Trusts packet Reads inspector) :
    SoundKey packet inspector.ipv6 inspector.direction inspector.permitFragments inspector.key.1 ∧
      Continues packet Reads inspector inspector.key.2 := by
  unfold PacketInspector.key
  cases cached : inspector.header with
  | some header => exact delivers.readKeyFromHeader trusts
  | none =>
      obtain ⟨base, reader, reads, same⟩ := delivers.readInitial inspector trusts.reads
      generalize inspector.readInitial = initial at base same ⊢
      obtain ⟨read, first⟩ := initial
      obtain rfl : first = { inspector with reader := reader } := same
      have continued := trusts.withReader reads
      cases read with
      | some bytes =>
          obtain ⟨count, long, inside, rfl⟩ := base bytes rfl
          obtain ⟨sound, kept⟩ := delivers.keyFromInitial continued.trusts long inside
          exact ⟨sound, continued.trans kept⟩
      | none =>
          obtain ⟨trusted, cachedHeader⟩ := delivers.cacheBase continued.trusts
          obtain ⟨sound, kept⟩ := delivers.readKeyFromHeader cachedHeader.trusts
          rw [cachedHeader.ipv6, cachedHeader.direction, cachedHeader.permitFragments] at sound
          exact ⟨sound, continued.trans (cachedHeader.trans kept)⟩

theorem Trusts.retry (trusts : Trusts packet Reads inspector) :
    Trusts packet Reads { inspector with
      permitFragments := false
      header := none
      tcpReset := none } where
  reads := trusts.reads
  header header cached := by cases cached
  reset cached := by cases cached

theorem Delivers.isTcpReset (delivers : Delivers packet Reads)
    (trusts : Trusts packet Reads inspector) :
    (inspector.isTcpReset.1 = true → resetOf packet (inspector.headerOf packet) = true) ∧
      Continues packet Reads inspector inspector.isTcpReset.2 := by
  unfold PacketInspector.isTcpReset
  cases cached : inspector.tcpReset with
  | some reset =>
      refine ⟨?_, trusts.continues⟩
      rintro rfl
      exact trusts.reset cached
  | none =>
      obtain ⟨trusted, continued⟩ := delivers.getHeader trusts
      generalize inspector.getHeader = got at trusted continued ⊢
      obtain ⟨header, got⟩ := got
      dsimp only at trusted continued ⊢
      split
      · rename_i flagged
        have readable : header.error = none := by
          simp only [Bool.and_eq_true, Option.isNone_iff_eq_none] at flagged
          exact flagged.1.1
        have found : ((PacketData.readByte got.reader (header.transportOffset +
              tcpFlagsOffset)).1.map fun flags => flags &&& tcpRstFlag != 0).getD false = true →
            resetOf packet (inspector.headerOf packet) = true := by
          intro set
          cases byte : (PacketData.readByte got.reader (header.transportOffset +
              tcpFlagsOffset)).1 with
          | none =>
              rw [byte] at set
              cases set
          | some flags =>
              rw [byte] at set
              have inside := delivers.readByte _ _ _ continued.trusts.reads byte
              rw [PacketInspector.headerOf, ← trusted.exact readable, resetOf, flagged, inside,
                Bool.true_and]
              exact set
        refine ⟨found, ?_⟩
        refine ⟨⟨delivers.keepsByte _ _ continued.trusts.reads, continued.trusts.header, ?_⟩,
          continued.ipv6, continued.direction, continued.permitFragments⟩
        intro set
        rw [PacketInspector.headerOf, continued.ipv6, continued.permitFragments]
        exact found (Option.some.inj set)
      · refine ⟨?_, ?_⟩
        · intro set
          cases set
        · refine ⟨⟨continued.trusts.reads, continued.trusts.header, ?_⟩, continued.ipv6,
            continued.direction, continued.permitFragments⟩
          intro set
          cases set

theorem KeepsReads.window (keeps : KeepsReads Reads) :
    KeepsReads fun window : PacketWindow S => Reads window.reader := by
  intro window length reads
  have read : PacketData.readPrefix window length =
      if window.start + length > window.stop then (none, window)
      else
        ((PacketData.readPrefix window.reader (window.start + length)).1.bind fun bytes =>
            if window.start + length ≤ bytes.length then
              some (slice bytes window.start (window.start + length)) else none,
          { window with
            reader := (PacketData.readPrefix window.reader (window.start + length)).2 }) := rfl
  rw [read]
  split
  · exact reads
  · exact keeps _ _ reads

theorem readQuotedTransport_keeps (keeps : KeepsReads Reads) (ipv6 : Bool) (key : Key)
    {quote : PacketWindow S} (reads : Reads quote.reader) (protocol : IpProtocol) (offset : Nat) :
    Reads (PacketInspector.readQuotedTransport ipv6 key quote protocol offset).2.reader := by
  unfold PacketInspector.readQuotedTransport
  split
  · exact reads
  · rename_i length supported
    have kept := keeps.window quote (offset + length) reads
    generalize PacketData.readPrefix quote (offset + length) = result at kept ⊢
    obtain ⟨_ | read, after⟩ := result
    · exact kept
    · exact kept

theorem readIcmpError_keeps (keeps : KeepsReads Reads) (reads : Reads inspector.reader) (key : Key)
    (quoteOffset packetEnd : Nat) :
    ∃ reader, Reads reader ∧ (inspector.readIcmpError key quoteOffset packetEnd).2 =
      { inspector with reader := reader } := by
  refine ⟨_, ?_, rfl⟩
  have kept := keeps.window ⟨inspector.reader, quoteOffset,
    min (PacketData.len inspector.reader) packetEnd⟩ (PacketInspector.baseLength inspector.ipv6)
    reads
  dsimp only at kept ⊢
  generalize PacketData.readPrefix (PacketWindow.mk inspector.reader quoteOffset
    (min (PacketData.len inspector.reader) packetEnd))
    (PacketInspector.baseLength inspector.ipv6) = result at kept ⊢
  obtain ⟨_ | quoted, quote⟩ := result
  · exact kept
  · dsimp only at kept ⊢
    split
    · split
      · exact kept
      · have walked := walkIpv6HeadersReader_keeps keeps.window false
          (show Reads (PacketWindow.mk quote.reader quote.start
            (min quote.stop (quoteOffset + Ipv6Packet.totalLen quoted))).reader from kept)
        split
        · exact walked
        · exact readQuotedTransport_keeps keeps _ _ walked _ _
    · split
      · exact kept
      · exact readQuotedTransport_keeps keeps _ _ (by exact kept) _ _

theorem readIcmpMessage_keeps (keeps : KeepsReads Reads) (reads : Reads inspector.reader)
    (key : Key) (message : Bytes) (offset : Nat) :
    ∃ reader, Reads reader ∧ (inspector.readIcmpMessage key message offset).2 =
      { inspector with reader := reader } := by
  unfold PacketInspector.readIcmpMessage
  dsimp only
  split
  · exact readIcmpError_keeps keeps reads key _ _
  · exact ⟨_, reads, rfl⟩

theorem Delivers.icmpMetadata (delivers : Delivers packet Reads)
    (trusts : Trusts packet Reads inspector) (key : Key) :
    Continues packet Reads inspector (inspector.icmpMetadata key).2 := by
  obtain ⟨trusted, continued⟩ := delivers.getHeader trusts
  unfold PacketInspector.icmpMetadata PacketInspector.readIcmpMetadata
  generalize inspector.getHeader = got at trusted continued ⊢
  obtain ⟨header, got⟩ := got
  dsimp only at continued ⊢
  generalize (header.error.isSome || header.protocol !=
    (if got.ipv6 = true then IpProtocol.icmpv6 else .icmp)) = skipped
  cases skipped with
  | true => exact continued
  | false =>
    rw [if_neg (by decide)]
    have kept := delivers.keeps got.reader (header.transportOffset + icmpHeaderLen)
      continued.trusts.reads
    generalize PacketData.readPrefix got.reader (header.transportOffset + icmpHeaderLen) = result
      at kept ⊢
    obtain ⟨_ | read, reader⟩ := result
    · exact continued.trans (continued.trusts.withReader kept)
    · obtain ⟨last, lastReads, same⟩ := readIcmpMessage_keeps delivers.keeps
        (show Reads { got with reader := reader }.reader from kept) key read header.transportOffset
      dsimp only
      rw [same]
      exact continued.trans (continued.trusts.withReader lastReads)

end Accessors

inductive ProbeCall where
  | accessor (accessor : Accessor)
  | retryKey

namespace PacketInspector

variable {S : Type} [PacketData S]

def probe (inspector : PacketInspector S) :
    ProbeCall → (Bool × AccessorResult) × PacketInspector S
  | .accessor accessor =>
      ((inspector.permitFragments, (inspector.call accessor).1), (inspector.call accessor).2)
  | .retryKey => ((false, .key inspector.retryKey.1), inspector.retryKey.2)

def probeAll (inspector : PacketInspector S) : List ProbeCall → List (Bool × AccessorResult)
  | [] => []
  | call :: rest => (inspector.probe call).1 :: (inspector.probe call).2.probeAll rest

end PacketInspector

def portsAt (packet : Bytes) (offset : Nat) : Direction → UInt16 × UInt16
  | .outbound => (portAt packet offset, portAt packet (offset + 2))
  | .inbound => (portAt packet (offset + 2), portAt packet offset)

/-- What a call may return for a packet, by the frozen parser with the same fragment setting. -/
structure SoundResult (smoltcp : Smoltcp) (packet : Bytes) (ipv6 : Bool) (direction : Direction)
    (permitFragments : Bool) (result : AccessorResult) : Prop where
  key : ∀ key, result = .key (.ok key) →
    (Original.inspectPacket smoltcp packet ipv6 direction permitFragments).metadata.map
      PacketMetadata.key = .ok key
  ports : ∀ key, result = .key (.ok key) → key.protocol = .tcp ∨ key.protocol = .udp →
    (fullHeader packet ipv6 permitFragments).transportOffset + 4 ≤ packet.length →
      (key.localPort, key.remotePort) =
        portsAt packet (fullHeader packet ipv6 permitFragments).transportOffset direction
  fragment : result = .key (.error .fragmentRequiresReassembly) → IsNonAtomicFragment packet ipv6
  reset : result = .isTcpReset true →
    (Original.inspectPacket smoltcp packet ipv6 direction permitFragments).isTcpReset = true

section Probes

variable {S : Type} [PacketData S] {smoltcp : Smoltcp} {packet : Bytes} {Reads : S → Prop}
  {inspector : PacketInspector S}

theorem keyOf_ports {ipv6 : Bool} {direction : Direction} {header : HeaderInspection} {key : Key}
    (parsed : keyOf packet ipv6 direction header = .ok key)
    (transport : key.protocol = .tcp ∨ key.protocol = .udp)
    (inside : header.transportOffset + 4 ≤ packet.length) :
    (key.localPort, key.remotePort) = portsAt packet header.transportOffset direction := by
  have parsedKey : PacketInspector.parseKey packet ipv6 direction header = key := by
    unfold keyOf at parsed
    split at parsed
    · cases parsed
    · generalize (if ipv6 = true then ipv6BaseLen else ipv4BaseLen + 4) = length at parsed
      split at parsed
      · cases parsed
      · exact Except.ok.inj parsed
  subst parsedKey
  have transports : header.protocol = .tcp ∨ header.protocol = .udp := by
    cases direction <;> exact transport
  have ports : getPorts (packet.drop header.transportOffset) header.protocol =
      (portAt packet header.transportOffset, portAt packet (header.transportOffset + 2)) := by
    have long : 4 ≤ packet.length - header.transportOffset := by omega
    have kept : ¬ (!(header.protocol == .tcp || header.protocol == .udp) ||
        (packet.drop header.transportOffset).length < 4) = true := by
      rcases transports with tcp | udp
      · simp [tcp, long]
      · simp [udp, long]
    unfold getPorts
    rw [if_neg kept]
    simp only [portAt, wordAt, byteAt_drop, Nat.add_assoc, Nat.add_zero, Nat.zero_add]
  simp only [PacketInspector.parseKey, ports]
  cases direction <;> rfl

theorem soundResult_key (lengths : smoltcp.ChecksLengths) {ipv6 : Bool} {direction : Direction}
    {permitFragments : Bool} {result : Except PacketMetadataError Key}
    (sound : SoundKey packet ipv6 direction permitFragments result) :
    SoundResult smoltcp packet ipv6 direction permitFragments (.key result) where
  key key same := by
    have agrees := ((inspects_new (serves_bytes packet) ipv6 direction permitFragments).agrees
      lengths).key
    exact agrees.trans (sound.exact key (AccessorResult.key.inj same))
  ports key same := keyOf_ports (sound.exact key (AccessorResult.key.inj same))
  fragment same := sound.fragment (AccessorResult.key.inj same)
  reset same := by cases same

theorem soundResult_of_other {ipv6 : Bool} {direction : Direction} {permitFragments : Bool}
    {result : AccessorResult} (noKey : ∀ key, result ≠ .key key)
    (noReset : result ≠ .isTcpReset true) :
    SoundResult smoltcp packet ipv6 direction permitFragments result where
  key _ same := absurd same (noKey _)
  ports _ same := absurd same (noKey _)
  fragment same := absurd same (noKey _)
  reset same := absurd same noReset

theorem Delivers.probe (lengths : smoltcp.ChecksLengths) (delivers : Delivers packet Reads)
    (trusts : Trusts packet Reads inspector) (call : ProbeCall) :
    SoundResult smoltcp packet inspector.ipv6 inspector.direction (inspector.probe call).1.1
        (inspector.probe call).1.2 ∧
      Trusts packet Reads (inspector.probe call).2 ∧
      (inspector.probe call).2.ipv6 = inspector.ipv6 ∧
      (inspector.probe call).2.direction = inspector.direction := by
  cases call with
  | retryKey =>
      obtain ⟨sound, kept⟩ := delivers.key trusts.retry
      exact ⟨soundResult_key lengths sound, kept.trusts, kept.ipv6, kept.direction⟩
  | accessor accessor =>
      cases accessor with
      | key =>
          obtain ⟨sound, kept⟩ := delivers.key trusts
          exact ⟨soundResult_key lengths sound, kept.trusts, kept.ipv6, kept.direction⟩
      | isFragment =>
          obtain ⟨trusted, kept⟩ := delivers.getHeader trusts
          exact ⟨soundResult_of_other (by simp [PacketInspector.probe, PacketInspector.call])
            (by simp [PacketInspector.probe, PacketInspector.call]), kept.trusts, kept.ipv6,
            kept.direction⟩
      | icmpMetadata key =>
          have kept := delivers.icmpMetadata trusts key
          exact ⟨soundResult_of_other (by simp [PacketInspector.probe, PacketInspector.call])
            (by simp [PacketInspector.probe, PacketInspector.call]), kept.trusts, kept.ipv6,
            kept.direction⟩
      | isTcpReset =>
          obtain ⟨sound, kept⟩ := delivers.isTcpReset trusts
          have agrees := ((inspects_new (serves_bytes packet) inspector.ipv6 inspector.direction
            inspector.permitFragments).agrees lengths).reset
          refine ⟨⟨?_, ?_, ?_, ?_⟩, kept.trusts, kept.ipv6, kept.direction⟩
          · rintro key ⟨⟩
          · rintro key ⟨⟩
          · rintro ⟨⟩
          · intro same
            exact agrees.trans (sound (AccessorResult.isTcpReset.inj same))

theorem Delivers.probeAll (lengths : smoltcp.ChecksLengths) (delivers : Delivers packet Reads)
    (trusts : Trusts packet Reads inspector) (calls : List ProbeCall) :
    ∀ permits result, (permits, result) ∈ inspector.probeAll calls →
      SoundResult smoltcp packet inspector.ipv6 inspector.direction permits result := by
  induction calls generalizing inspector with
  | nil =>
      intro permits result member
      cases member
  | cons call rest ih =>
      obtain ⟨sound, kept, ipv6, direction⟩ := delivers.probe lengths trusts call
      intro permits result member
      rcases List.mem_cons.mp member with first | later
      · rw [← first] at sound
        exact sound
      · have found := ih kept permits result later
        rwa [ipv6, direction] at found

/-- Over a source whose reads may fail at any time, every sequence of calls returns only keys,
fragment errors and resets that the packet has. -/
theorem failedReads_sound (smoltcp : Smoltcp) (lengths : smoltcp.ChecksLengths) (packet : Bytes)
    (Reads : S → Prop) (delivers : Delivers packet Reads) (source : S) (reads : Reads source)
    (ipv6 : Bool) (direction : Direction) (permitFragments : Bool) (calls : List ProbeCall) :
    ∀ permits result,
      (permits, result) ∈
          (PacketInspector.new source ipv6 direction permitFragments).probeAll calls →
        SoundResult smoltcp packet ipv6 direction permits result := by
  refine delivers.probeAll lengths ?_ calls
  refine ⟨reads, ?_, ?_⟩
  · intro header cached
    cases cached
  · intro cached
    cases cached

end Probes

/-- A source over a packet. The next reads succeed as the list says, and all reads after them. -/
structure FlakySource where
  packet : Bytes
  outcomes : List Bool

instance : PacketData FlakySource where
  len source := source.packet.length
  readPrefix source length :=
    (if source.outcomes.headD true && length ≤ source.packet.length then
      some (source.packet.take length) else none,
      { source with outcomes := source.outcomes.tail })

theorem delivers_flakySource (packet : Bytes) :
    Delivers packet fun source : FlakySource => source.packet = packet := by
  have read (source : FlakySource) (length : Nat) (bytes : Bytes) (reads : source.packet = packet)
      (found : (PacketData.readPrefix source length).1 = some bytes) :
      length ≤ packet.length ∧ bytes = packet.take length := by
    subst reads
    have value : (PacketData.readPrefix source length).1 =
        if source.outcomes.headD true && length ≤ source.packet.length then
          some (source.packet.take length) else none := rfl
    rw [value] at found
    split at found
    · rename_i readable
      simp only [Bool.and_eq_true, decide_eq_true_eq] at readable
      exact ⟨readable.2, (Option.some.inj found).symm⟩
    · cases found
  refine ⟨?_, ?_, read, ?_, ?_⟩
  · intro source reads
    exact congrArg List.length reads
  · intro source length reads
    exact reads
  · intro source offset reads
    exact reads
  · intro source offset byte reads found
    have value : (PacketData.readByte source offset).1 =
        (PacketData.readPrefix source (offset + 1)).1.bind fun bytes => bytes[offset]? := rfl
    rw [value] at found
    obtain ⟨bytes, prefixed, inside⟩ := Option.bind_eq_some_iff.mp found
    obtain ⟨-, rfl⟩ := read source (offset + 1) bytes reads prefixed
    simpa using inside

/-- A TCP reset from 10.0.0.1 to 1.1.1.1 whose header has four bytes of options, so that the ports
are not in the first read. -/
def resetSegment : Bytes :=
  [0x46, 0, 0, 44, 0, 0, 0, 0, 64, 6, 0, 0, 10, 0, 0, 1, 1, 1, 1, 1, 1, 1, 1, 0] ++
    [0xc3, 0x50, 0, 80, 0, 0, 0, 1, 0, 0, 0, 0, 0x50, 4, 0, 0, 0, 0, 0, 0]

def resetSegmentKey : Key where
  protocol := .tcp
  localAddress := .ipv4 (Ipv4Address.new 10 0 0 1)
  localPort := 50000
  remoteAddress := .ipv4 (Ipv4Address.new 1 1 1 1)
  remotePort := 80

/-- The ports cannot be read by the first call, and the retry reads them. -/
theorem failedReads_sound_resetSegment :
    (PacketInspector.new (FlakySource.mk resetSegment [true, true, false]) false .outbound
          true).probeAll [.accessor .key, .retryKey, .accessor .isTcpReset] =
        [(true, .key (.error .unreadablePacket)), (false, .key (.ok resetSegmentKey)),
          (false, .isTcpReset true)] ∧
      ∀ permits result, (permits, result) ∈
          (PacketInspector.new (FlakySource.mk resetSegment [true, true, false]) false .outbound
            true).probeAll [.accessor .key, .retryKey, .accessor .isTcpReset] →
        SoundResult Smoltcp.documented resetSegment false .outbound permits result := by
  refine ⟨rfl, ?_⟩
  exact failedReads_sound Smoltcp.documented Smoltcp.documented_checksLengths resetSegment
    (fun source => source.packet = resetSegment) (delivers_flakySource resetSegment) _ rfl false
    .outbound true _

end WindowsKext
