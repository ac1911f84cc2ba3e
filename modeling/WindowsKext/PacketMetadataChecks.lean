import WindowsKext.Ipv6HeaderChain
import WindowsKext.PacketMetadataCore

/-! The inspector over a source that serves a byte string. Every accessor returns a value that is
fixed by the bytes, in whatever order the accessors are called. -/

namespace WindowsKext

open ByteString

/-- A source that reads every prefix of a byte string and keeps its state. -/
structure Serves {S : Type} [PacketData S] (source : S) (packet : Bytes) : Prop where
  len : PacketData.len source = packet.length
  readPrefix : ∀ length, PacketData.readPrefix source length =
    (if length ≤ packet.length then some (packet.take length) else none, source)
  readByte : ∀ offset, PacketData.readByte source offset = (packet[offset]?, source)

theorem len_bytes (packet : Bytes) : PacketData.len packet = packet.length := rfl

theorem serves_bytes (packet : Bytes) : Serves packet packet where
  len := rfl
  readPrefix _ := rfl
  readByte offset := by
    have read : PacketData.readByte packet offset =
        ((PacketData.readPrefix packet (offset + 1)).1.bind fun bytes => bytes[offset]?,
          packet) := rfl
    rw [read, readPrefix_bytes]
    split
    · simp
    · rename_i past
      simp only [Option.bind_none]
      rw [List.getElem?_eq_none (by omega)]

section Sources

variable {S : Type} [PacketData S] {source : S} {packet : Bytes}

theorem take_slice {start stop length : Nat} (inside : start + length ≤ stop) :
    (slice packet start stop).take length = slice packet start (start + length) := by
  unfold slice
  rw [List.take_drop, List.take_take, Nat.min_eq_left inside]

theorem Serves.window (serves : Serves source packet) {start stop : Nat} (ordered : start ≤ stop)
    (inside : stop ≤ packet.length) :
    Serves (PacketWindow.mk source start stop) (slice packet start stop) := by
  have size : (slice packet start stop).length = stop - start := by
    rw [length_slice, Nat.min_eq_left inside]
  have read (length : Nat) :
      PacketData.readPrefix (PacketWindow.mk source start stop) length =
        (if length ≤ (slice packet start stop).length then
          some ((slice packet start stop).take length) else none,
          PacketWindow.mk source start stop) := by
    change (if start + length > stop then (none, PacketWindow.mk source start stop) else _) = _
    by_cases past : start + length > stop
    · rw [if_pos past, if_neg (by omega)]
    · have readable : start + length ≤ packet.length := by omega
      rw [if_neg past, if_pos (by omega), serves.readPrefix, if_pos readable,
        take_slice (by omega)]
      simp only [Option.bind_some, List.length_take, Nat.min_eq_left readable, Nat.le_refl,
        ↓reduceIte, slice, List.take_take, Nat.min_self]
  refine ⟨size.symm, read, ?_⟩
  intro offset
  have byte : PacketData.readByte (PacketWindow.mk source start stop) offset =
      ((PacketData.readPrefix (PacketWindow.mk source start stop) (offset + 1)).1.bind
        fun bytes => bytes[offset]?,
        (PacketData.readPrefix (PacketWindow.mk source start stop) (offset + 1)).2) := rfl
  rw [byte, read]
  by_cases bound : offset + 1 ≤ (slice packet start stop).length
  · rw [if_pos bound]
    simp
  · rw [if_neg bound, List.getElem?_eq_none (by omega)]
    rfl

/-- The walk depends on its source only through the bytes it serves. -/
theorem Serves.walkIpv6Loop (serves : Serves source packet)
    (stopAtFragment inspectRoutingHeader : Bool) (remaining : Nat) (headers : Ipv6Headers) :
    walkIpv6Loop stopAtFragment inspectRoutingHeader remaining headers source =
      ((walkIpv6Loop stopAtFragment inspectRoutingHeader remaining headers packet).1, source) := by
  induction remaining generalizing headers with
  | zero =>
      unfold WindowsKext.walkIpv6Loop
      split <;> rfl
  | succ remaining ih =>
      obtain ⟨protocol, offset, isFragment, active, resolved⟩ := headers
      cases protocol with
      | ipv6Frag =>
          simp only [WindowsKext.walkIpv6Loop, serves.len, serves.readPrefix, readPrefix_bytes,
            len_bytes]
          by_cases complete : offset + 8 ≤ packet.length
          · have readable : offset + 4 ≤ packet.length := by omega
            simp only [complete, readable, ↓reduceIte, ih]
            split
            · split <;> rfl
            · rfl
          · simp only [complete, ↓reduceIte]
      | hopByHop | ipv6Route | ipv6Opts =>
          simp only [WindowsKext.walkIpv6Loop, serves.readPrefix, readPrefix_bytes]
          by_cases readable : offset + 2 ≤ packet.length
          · simp only [readable, ↓reduceIte, serves.len, len_bytes]
            split
            · cases inspectRoutingHeader <;>
                simp only [Bool.false_and, Bool.true_and, beq_iff_eq, reduceCtorEq, ↓reduceIte,
                  Bool.false_eq_true, serves.readPrefix, ih]
            · rfl
          · simp only [readable, ↓reduceIte]
      | _ => rfl

theorem Serves.walkIpv6HeadersReader (serves : Serves source packet)
    (stopAtFragment inspectRoutingHeader : Bool) :
    walkIpv6HeadersReader source stopAtFragment inspectRoutingHeader =
      ((walkIpv6HeadersReader packet stopAtFragment inspectRoutingHeader).1, source) := by
  unfold WindowsKext.walkIpv6HeadersReader
  rw [serves.readPrefix, readPrefix_bytes]
  by_cases readable : ipv6BaseLen ≤ packet.length
  · simp only [readable, ↓reduceIte, serves.walkIpv6Loop]
  · simp only [readable, ↓reduceIte]

/-- Every header is at most 2048 bytes long, whatever a source reads. -/
theorem walkIpv6Loop_offset_le (stopAtFragment inspectRoutingHeader : Bool) (remaining : Nat)
    (headers : Ipv6Headers) (source : S) :
    (walkIpv6Loop stopAtFragment inspectRoutingHeader remaining headers source).1.transportOffset ≤
      headers.transportOffset + remaining * 2048 := by
  induction remaining generalizing headers source with
  | zero =>
      unfold walkIpv6Loop
      split <;> exact Nat.le_add_right _ _
  | succ remaining ih =>
      obtain ⟨protocol, offset, isFragment, active, resolved⟩ := headers
      have next (headers : Ipv6Headers) (after : S)
          (near : headers.transportOffset ≤ offset + 2048) :
          (walkIpv6Loop stopAtFragment inspectRoutingHeader remaining headers
            after).1.transportOffset ≤ offset + (remaining + 1) * 2048 := by
        have rest := ih headers after
        omega
      cases protocol with
      | ipv6Frag =>
          simp only [walkIpv6Loop]
          split
          · generalize PacketData.readPrefix source (offset + 4) = result
            obtain ⟨_ | read, after⟩ := result
            · exact Nat.le_add_right _ _
            · dsimp only
              split
              · split
                · dsimp only
                  omega
                · exact next _ _ (Nat.add_le_add_left (by decide) _)
              · exact next _ _ (Nat.add_le_add_left (by decide) _)
          · exact Nat.le_add_right _ _
      | hopByHop | ipv6Route | ipv6Opts =>
          simp only [walkIpv6Loop]
          generalize PacketData.readPrefix source (offset + 2) = result
          obtain ⟨_ | read, after⟩ := result
          · exact Nat.le_add_right _ _
          · have byte := (byteAt read (offset + 1)).toNat_lt
            dsimp only
            split
            · refine next _ _ ?_
              dsimp only
              omega
            · exact Nat.le_add_right _ _
      | _ =>
          simp only [walkIpv6Loop]
          exact Nat.le_add_right _ _

theorem walkIpv6HeadersReader_offset_le (source : S) (stopAtFragment inspectRoutingHeader : Bool) :
    (walkIpv6HeadersReader source stopAtFragment inspectRoutingHeader).1.transportOffset ≤ 16424 := by
  unfold walkIpv6HeadersReader
  generalize PacketData.readPrefix source ipv6BaseLen = result
  obtain ⟨_ | read, after⟩ := result
  · exact (by decide : ipv6BaseLen ≤ 16424)
  · have limit : ipv6BaseLen + maxIpv6ExtHeaders * 2048 ≤ 16424 := by decide
    exact Nat.le_trans (walkIpv6Loop_offset_le _ _ _ _ _) limit

theorem walkIpv6HeadersReader_offset (source : S) (stopAtFragment inspectRoutingHeader : Bool) :
    (walkIpv6HeadersReader source stopAtFragment inspectRoutingHeader).1.transportOffset % 65536 =
      (walkIpv6HeadersReader source stopAtFragment inspectRoutingHeader).1.transportOffset :=
  Nat.mod_eq_of_lt (Nat.lt_of_le_of_lt (walkIpv6HeadersReader_offset_le source _ _) (by decide))

end Sources

section Header

variable {packet : Bytes}

def walkedHeader (permitFragments : Bool) (headers : Ipv6Headers) : HeaderInspection :=
  { protocol := headers.protocol
    transportOffset := headers.transportOffset
    isFragment := headers.isFragment
    validTcpFlags := true
    error :=
      if permitFragments && headers.isFragment then some .fragmentRequiresReassembly
      else if !headers.resolved then some .unresolvedIpv6Headers
      else none }

def fullHeader (packet : Bytes) (ipv6 permitFragments : Bool) : HeaderInspection :=
  if packet.length < PacketInspector.baseLength ipv6 then .unreadable
  else if ipv6 then walkedHeader permitFragments (walkIpv6HeadersReader packet permitFragments false).1
  else PacketInspector.parseBaseHeader packet false permitFragments

theorem parseBaseHeader_take {ipv6 : Bool} {count : Nat}
    (base : PacketInspector.baseLength ipv6 ≤ count) (permitFragments : Bool) :
    PacketInspector.parseBaseHeader (packet.take count) ipv6 permitFragments =
      PacketInspector.parseBaseHeader packet ipv6 permitFragments := by
  have byte (index : Nat) (inside : index < count) :
      byteAt (packet.take count) index = byteAt packet index := by
    rw [byteAt_take, if_pos inside]
  cases ipv6 with
  | true =>
      have inside : 40 ≤ count := base
      simp only [PacketInspector.parseBaseHeader, ↓reduceIte, byte 6 (by omega)]
  | false =>
      have inside : 20 ≤ count := base
      have offset : Ipv4Packet.fragOffset (packet.take count) = Ipv4Packet.fragOffset packet := by
        rw [Ipv4Packet.fragOffset, Ipv4Packet.fragOffset, wordAt_take (by omega)]
      have more : Ipv4Packet.moreFrags (packet.take count) = Ipv4Packet.moreFrags packet := by
        rw [Ipv4Packet.moreFrags, Ipv4Packet.moreFrags, byte 6 (by omega)]
      have length : Ipv4Packet.headerLen (packet.take count) = Ipv4Packet.headerLen packet := by
        rw [Ipv4Packet.headerLen, Ipv4Packet.headerLen, byte 0 (by omega)]
      unfold PacketInspector.parseBaseHeader
      rw [offset, more, length, byte 9 (by omega)]
      rfl

theorem fullHeader_of_plain {ipv6 : Bool} (base : PacketInspector.baseLength ipv6 ≤ packet.length)
    (permitFragments : Bool) (plain : (ipv6 && (PacketInspector.parseBaseHeader packet ipv6
      permitFragments).protocol.isExtension) = false) :
    fullHeader packet ipv6 permitFragments =
      PacketInspector.parseBaseHeader packet ipv6 permitFragments := by
  unfold fullHeader
  rw [if_neg (by omega)]
  cases ipv6 with
  | false => rfl
  | true =>
      have upper : (Ipv6Packet.nextHeader packet).isExtension = false := plain
      have chain : packetChain packet permitFragments =
          { headers := []
            protocol := Ipv6Packet.nextHeader packet
            offset := ipv6BaseLen
            stopped := false } := by
        simp [packetChain, maxIpv6ExtHeaders, headerChain, upper]
      rw [if_pos rfl, walkIpv6HeadersReader_eq base, chain]
      simp only [walkedHeader, reportChain, baseHeaders, upper, PacketInspector.parseBaseHeader,
        List.any_nil, Bool.or_self, Bool.and_false, Bool.not_false, Bool.and_self, Bool.or_true,
        Bool.false_eq_true, Bool.not_true, ↓reduceIte]
      rfl

end Header

section Ports

variable {packet : Bytes} {protocol : IpProtocol}

theorem getPorts_of_other (transport : Bytes)
    (other : (protocol == .tcp || protocol == .udp) = false) :
    getPorts transport protocol = (0, 0) := by
  simp [getPorts, other]

theorem getPorts_of_short {transport : Bytes} (short : transport.length < 4) :
    getPorts transport protocol = (0, 0) := by
  simp [getPorts, short]

theorem getPorts_slice {offset stop : Nat} (long : offset + 4 ≤ stop)
    (inside : stop ≤ packet.length) :
    getPorts (slice packet offset stop) protocol = getPorts (packet.drop offset) protocol := by
  have sliceLong : ¬ (slice packet offset stop).length < 4 := by
    rw [length_slice]
    omega
  have dropLong : ¬ (packet.drop offset).length < 4 := by
    rw [List.length_drop]
    omega
  have byte (index : Nat) (bound : index < 4) :
      byteAt (slice packet offset stop) index = byteAt (packet.drop offset) index := by
    rw [byteAt_slice, byteAt_drop, if_pos (by omega)]
  simp only [getPorts, sliceLong, dropLong, portAt, wordAt, byte 0 (by omega), byte 1 (by omega),
    byte 2 (by omega), byte 3 (by omega), Nat.zero_add]

theorem keyAddresses_take {ipv6 : Bool} {count : Nat}
    (base : PacketInspector.baseLength ipv6 ≤ count) :
    PacketInspector.keyAddresses (packet.take count) ipv6 =
      PacketInspector.keyAddresses packet ipv6 := by
  have byte (index : Nat) (inside : index < count) :
      byteAt (packet.take count) index = byteAt packet index := by
    rw [byteAt_take, if_pos inside]
  cases ipv6 with
  | true =>
      have inside : 40 ≤ count := base
      have address (offset : Nat) (bound : offset ≤ 24) :
          ipv6AddressAt (packet.take count) offset = ipv6AddressAt packet offset := by
        refine congrArg Ipv6Address.mk (congrArg Vector.ofFn (funext fun index => ?_))
        exact byte _ (by omega)
      simp only [PacketInspector.keyAddresses, ↓reduceIte, address 8 (by omega),
        address 24 (by omega)]
  | false =>
      have inside : 20 ≤ count := base
      have address (offset : Nat) (bound : offset ≤ 16) :
          ipv4AddressAt (packet.take count) offset = ipv4AddressAt packet offset := by
        refine congrArg Ipv4Address.mk (congrArg Vector.ofFn (funext fun index => ?_))
        exact byte _ (by omega)
      simp only [PacketInspector.keyAddresses, Bool.false_eq_true, ↓reduceIte,
        address 12 (by omega), address 16 (by omega)]

end Ports

def keyOf (packet : Bytes) (ipv6 : Bool) (direction : Direction) (header : HeaderInspection) :
    Except PacketMetadataError Key :=
  match header.error with
  | some error => .error error
  | none =>
      if packet.length < (if ipv6 then ipv6BaseLen else ipv4BaseLen + 4) then
        .error .unreadablePacket
      else .ok (PacketInspector.parseKey packet ipv6 direction header)

def resetOf (packet : Bytes) (header : HeaderInspection) : Bool :=
  header.error.isNone && header.protocol == .tcp && header.validTcpFlags &&
    (packet[header.transportOffset + tcpFlagsOffset]?.map fun flags =>
      flags &&& tcpRstFlag != 0).getD false

theorem fullHeader_fragment (packet : Bytes) (ipv6 : Bool) :
    (fullHeader packet ipv6 true).error = some .fragmentRequiresReassembly ↔
      (fullHeader packet ipv6 true).isFragment = true := by
  unfold fullHeader
  split
  · simp [HeaderInspection.unreadable]
  · split
    · unfold walkedHeader
      generalize (walkIpv6HeadersReader packet true false).1 = headers
      cases headers.isFragment <;> cases headers.resolved <;> simp
    · simp only [PacketInspector.parseBaseHeader, Bool.false_eq_true, ↓reduceIte, Bool.true_and]
      cases Ipv4Packet.fragOffset packet != 0 || Ipv4Packet.moreFrags packet <;> simp

theorem fullHeader_of_unfragmented {packet : Bytes} {ipv6 : Bool}
    (unfragmented : (fullHeader packet ipv6 true).isFragment = false) :
    fullHeader packet ipv6 false = fullHeader packet ipv6 true := by
  unfold fullHeader at unfragmented ⊢
  split
  · rfl
  · rename_i base
    rw [if_neg base] at unfragmented
    cases ipv6 with
    | true =>
        simp only [↓reduceIte] at unfragmented ⊢
        have complete : ipv6BaseLen ≤ packet.length := by
          simpa [PacketInspector.baseLength] using base
        rw [walkIpv6HeadersReader_eq complete] at unfragmented ⊢
        rw [walkIpv6HeadersReader_eq complete]
        have chain : packetChain packet false = packetChain packet true :=
          headerChain_of_unfragmented
            (by simpa [walkedHeader, reportChain, baseHeaders, packetChain] using unfragmented)
        rw [chain]
        simp only [walkedHeader] at unfragmented ⊢
        simp [unfragmented]
    | false =>
        simp only [Bool.false_eq_true, ↓reduceIte, PacketInspector.parseBaseHeader]
          at unfragmented ⊢
        rw [unfragmented]
        rfl

def PacketInspector.headerOf {S : Type} (inspector : PacketInspector S) (packet : Bytes) :
    HeaderInspection :=
  fullHeader packet inspector.ipv6 inspector.permitFragments

structure Inspects {S : Type} [PacketData S] (packet : Bytes) (inspector : PacketInspector S) :
    Prop where
  serves : Serves inspector.reader packet
  header : inspector.header = none ∨ inspector.header = some (inspector.headerOf packet)
  reset : inspector.tcpReset = none ∨
    inspector.tcpReset = some (resetOf packet (inspector.headerOf packet))

section Accessors

variable {S : Type} [PacketData S] {packet : Bytes} {inspector : PacketInspector S}

theorem inspects_new {source : S} (serves : Serves source packet) (ipv6 : Bool)
    (direction : Direction) (permitFragments : Bool) :
    Inspects packet (PacketInspector.new source ipv6 direction permitFragments) :=
  ⟨serves, .inl rfl, .inl rfl⟩

theorem Inspects.cached (inspects : Inspects packet inspector) :
    Inspects packet { inspector with header := some (inspector.headerOf packet) } :=
  ⟨inspects.serves, .inr rfl, inspects.reset⟩

theorem Inspects.readInitial (inspects : Inspects packet inspector) :
    inspector.readInitial =
      (if PacketInspector.baseLength inspector.ipv6 ≤ packet.length then
        some (packet.take (min packet.length (PacketInspector.baseLength inspector.ipv6 + 4)))
        else none, inspector) := by
  unfold PacketInspector.readInitial
  simp only [inspects.serves.len, inspects.serves.readPrefix]
  by_cases base : PacketInspector.baseLength inspector.ipv6 ≤ packet.length
  · rw [if_pos (by omega), if_pos (by omega), if_pos base]
  · rw [if_neg (by omega), if_neg base]

theorem Inspects.readBase (inspects : Inspects packet inspector) :
    inspector.readBase =
      (if PacketInspector.baseLength inspector.ipv6 ≤ packet.length then
        some (packet.take (PacketInspector.baseLength inspector.ipv6)) else none, inspector) := by
  unfold PacketInspector.readBase
  simp only [inspects.serves.readPrefix]

theorem Serves.resolveIpv6Header (inspector : PacketInspector S)
    (serves : Serves inspector.reader packet)
    (base : PacketInspector.baseLength inspector.ipv6 ≤ packet.length) :
    inspector.resolveIpv6Header (PacketInspector.parseBaseHeader packet inspector.ipv6
        inspector.permitFragments) = (inspector.headerOf packet, inspector) := by
  unfold PacketInspector.resolveIpv6Header PacketInspector.headerOf
  split
  · rename_i extension
    simp only [Bool.and_eq_true] at extension
    have family : inspector.ipv6 = true := extension.1.1
    have full : fullHeader packet inspector.ipv6 inspector.permitFragments =
        walkedHeader inspector.permitFragments
          (WindowsKext.walkIpv6HeadersReader packet inspector.permitFragments false).1 := by
      rw [fullHeader, if_neg (by omega), if_pos family]
    have flags : (PacketInspector.parseBaseHeader packet inspector.ipv6
        inspector.permitFragments).validTcpFlags = true := by
      rw [family]
      rfl
    rw [family] at base
    simp only [serves.walkIpv6HeadersReader, flags, full,
      walkIpv6HeadersReader_offset]
    rfl
  · rename_i plain
    rw [fullHeader_of_plain base]
    cases family : inspector.ipv6 with
    | false => rfl
    | true =>
        rw [family] at plain
        simpa [PacketInspector.parseBaseHeader] using plain

theorem resolve_unreadable (inspector : PacketInspector S) :
    inspector.resolveIpv6Header .unreadable = (.unreadable, inspector) := by
  simp [PacketInspector.resolveIpv6Header, HeaderInspection.unreadable]

omit [PacketData S] in
theorem headerOf_of_short
    (short : ¬ PacketInspector.baseLength inspector.ipv6 ≤ packet.length) :
    inspector.headerOf packet = .unreadable := by
  rw [PacketInspector.headerOf, fullHeader, if_pos (by omega)]

theorem Inspects.getHeader (inspects : Inspects packet inspector) :
    inspector.getHeader =
      (inspector.headerOf packet,
        { inspector with header := some (inspector.headerOf packet) }) := by
  unfold PacketInspector.getHeader
  rcases inspects.header with fresh | cached
  · simp only [fresh, PacketInspector.readHeader, inspects.readInitial]
    by_cases base : PacketInspector.baseLength inspector.ipv6 ≤ packet.length
    · simp only [base, ↓reduceIte, Option.map_some, Option.getD_some]
      rw [parseBaseHeader_take (by omega), Serves.resolveIpv6Header inspector inspects.serves base]
    · simp only [base, ↓reduceIte, inspects.readBase, Option.map_none, Option.getD_none,
        resolve_unreadable, headerOf_of_short base]
  · simp only [cached]
    rw [← cached]

theorem Inspects.readKeyFromHeader (inspects : Inspects packet inspector)
    (cached : inspector.header = some (inspector.headerOf packet)) :
    inspector.readKeyFromHeader =
      (keyOf packet inspector.ipv6 inspector.direction (inspector.headerOf packet),
        inspector) := by
  have same : { inspector with header := some (inspector.headerOf packet) } = inspector := by
    rw [← cached]
  unfold PacketInspector.readKeyFromHeader keyOf
  simp only [inspects.getHeader, same]
  generalize inspector.headerOf packet = header
  cases header.error with
  | some error => rfl
  | none =>
      simp only [inspects.serves.readPrefix]
      generalize lengthEq : (if inspector.ipv6 = true then ipv6BaseLen else ipv4BaseLen + 4) =
        length
      have base : PacketInspector.baseLength inspector.ipv6 ≤ length := by
        rw [← lengthEq]
        cases inspector.ipv6 <;> decide
      by_cases readable : length ≤ packet.length
      · rw [if_pos readable, if_neg (by omega)]
        simp only [keyAddresses_take base, PacketInspector.parseKey]
        cases transport : (header.protocol == .tcp || header.protocol == .udp) with
        | false => simp only [Bool.false_eq_true, ↓reduceIte, getPorts_of_other _ transport]
        | true =>
            simp only [↓reduceIte, List.length_take, Nat.min_eq_left readable,
              inspects.serves.len]
            split
            · rename_i inside
              have ports : slice (packet.take length) header.transportOffset
                  (header.transportOffset + 4) =
                    slice packet header.transportOffset (header.transportOffset + 4) := by
                rw [slice, slice, List.take_take, Nat.min_eq_left inside]
              rw [ports, getPorts_slice (Nat.le_refl _) (by omega)]
            · split
              · rw [getPorts_of_short (by rw [List.length_drop]; omega)]
              · rename_i present
                rw [inspects.serves.readPrefix, if_pos (by omega)]
                have ports : getPorts (slice packet header.transportOffset
                    (header.transportOffset + 4)) header.protocol =
                      getPorts (packet.drop header.transportOffset) header.protocol :=
                  getPorts_slice (Nat.le_refl _) (by omega)
                rw [slice] at ports
                simp only [ports]
      · rw [if_neg readable, if_pos (by omega)]

theorem parseKey_take {ipv6 : Bool} {header : HeaderInspection} {count : Nat}
    (base : PacketInspector.baseLength ipv6 ≤ count) (inside : count ≤ packet.length)
    (ports : (header.protocol == .tcp || header.protocol == .udp) = true →
      header.transportOffset + 4 ≤ count) (direction : Direction) :
    PacketInspector.parseKey (packet.take count) ipv6 direction header =
      PacketInspector.parseKey packet ipv6 direction header := by
  have samePorts : getPorts ((packet.take count).drop header.transportOffset) header.protocol =
      getPorts (packet.drop header.transportOffset) header.protocol := by
    cases transport : (header.protocol == .tcp || header.protocol == .udp) with
    | true => exact getPorts_slice (ports transport) inside
    | false => rw [getPorts_of_other _ transport, getPorts_of_other _ transport]
  unfold PacketInspector.parseKey
  rw [keyAddresses_take base, samePorts]

theorem keyOf_of_error {ipv6 : Bool} {direction : Direction} {header : HeaderInspection}
    {error : PacketMetadataError} (failed : header.error = some error) :
    keyOf packet ipv6 direction header = .error error := by
  simp only [keyOf, failed]

/-- A key is read early only when it is complete. -/
theorem keyOf_of_early {ipv6 : Bool} {direction : Direction} {header : HeaderInspection}
    {keyEnd : Nat} (readable : header.error = none) (base : ipv4BaseLen ≤ header.transportOffset)
    (baseV6 : ipv6 = true → ipv6BaseLen ≤ header.transportOffset)
    (keyEndEq : keyEnd = if header.protocol == .tcp || header.protocol == .udp then
        header.transportOffset + 4
      else if ipv6 then ipv6BaseLen else ipv4BaseLen + 4)
    (complete : keyEnd ≤ packet.length) :
    keyOf packet ipv6 direction header =
      .ok (PacketInspector.parseKey packet ipv6 direction header) := by
  simp only [keyOf, readable]
  rw [if_neg]
  cases ipv6 with
  | true =>
      have offset := baseV6 rfl
      simp only [↓reduceIte] at keyEndEq ⊢
      split at keyEndEq <;> omega
  | false =>
      simp only [Bool.false_eq_true, ↓reduceIte] at keyEndEq ⊢
      split at keyEndEq <;> omega

theorem parseBaseHeader_offset (packet : Bytes) (ipv6 permitFragments : Bool) :
    PacketInspector.baseLength ipv6 ≤
      (PacketInspector.parseBaseHeader packet ipv6 permitFragments).transportOffset := by
  cases ipv6 with
  | true => exact Nat.le_refl _
  | false => exact Nat.le_max_right _ _

theorem Inspects.keyFromInitial (inspects : Inspects packet inspector) {count : Nat}
    (base : PacketInspector.baseLength inspector.ipv6 ≤ count) (inside : count ≤ packet.length) :
    inspector.keyFromInitial (packet.take count) =
      (keyOf packet inspector.ipv6 inspector.direction (inspector.headerOf packet),
        { inspector with header := some (inspector.headerOf packet) }) := by
  have fromCache := inspects.cached.readKeyFromHeader rfl
  have complete : PacketInspector.baseLength inspector.ipv6 ≤ packet.length := by omega
  unfold PacketInspector.keyFromInitial
  rw [parseBaseHeader_take base]
  have offset := parseBaseHeader_offset packet inspector.ipv6 inspector.permitFragments
  cases extension : (inspector.ipv6 && (PacketInspector.parseBaseHeader packet inspector.ipv6
      inspector.permitFragments).protocol.isExtension) with
  | true =>
      have family : inspector.ipv6 = true := (Bool.and_eq_true _ _ ▸ extension).1
      have readable : (PacketInspector.parseBaseHeader packet inspector.ipv6
          inspector.permitFragments).error = none := by
        rw [family]
        rfl
      simp only [readable, extension, Bool.not_true, Bool.false_and, Bool.false_eq_true,
        ↓reduceIte]
      have resolved := Serves.resolveIpv6Header { inspector with
        header := some (PacketInspector.parseBaseHeader packet inspector.ipv6
          inspector.permitFragments) } inspects.serves complete
      rw [resolved]
      exact fromCache
  | false =>
      have full : PacketInspector.parseBaseHeader packet inspector.ipv6 inspector.permitFragments =
          inspector.headerOf packet :=
        (fullHeader_of_plain complete inspector.permitFragments extension).symm
      rw [full] at offset extension ⊢
      cases failed : (inspector.headerOf packet).error with
      | some error => simp only [failed, keyOf_of_error failed]
      | none =>
          simp only [failed, extension, Bool.not_false, Bool.true_and, decide_eq_true_eq,
            List.length_take, Nat.min_eq_left inside, Bool.false_eq_true, ↓reduceIte]
          generalize keyEndEq : (if ((inspector.headerOf packet).protocol == .tcp ||
              (inspector.headerOf packet).protocol == .udp) = true then
              (inspector.headerOf packet).transportOffset + 4
            else if inspector.ipv6 = true then ipv6BaseLen else ipv4BaseLen + 4) = keyEnd
          by_cases early : keyEnd ≤ count
          · have ports (transport : ((inspector.headerOf packet).protocol == .tcp ||
                (inspector.headerOf packet).protocol == .udp) = true) :
                (inspector.headerOf packet).transportOffset + 4 ≤ count := by
              rw [if_pos transport] at keyEndEq
              omega
            have whole : ipv4BaseLen ≤ PacketInspector.baseLength inspector.ipv6 := by
              cases inspector.ipv6 <;> decide
            rw [if_pos early, parseKey_take base inside ports,
              keyOf_of_early failed (Nat.le_trans whole offset) ?_ keyEndEq.symm
                (Nat.le_trans early inside)]
            intro family
            rwa [family] at offset
          · rw [if_neg early]
            exact fromCache

theorem Inspects.key (inspects : Inspects packet inspector) :
    inspector.key =
      (keyOf packet inspector.ipv6 inspector.direction (inspector.headerOf packet),
        { inspector with header := some (inspector.headerOf packet) }) := by
  have fromCache := inspects.cached.readKeyFromHeader rfl
  unfold PacketInspector.key
  rcases inspects.header with fresh | cached
  · simp only [fresh, inspects.readInitial]
    by_cases base : PacketInspector.baseLength inspector.ipv6 ≤ packet.length
    · simp only [base, ↓reduceIte]
      exact inspects.keyFromInitial (by omega) (by omega)
    · simp only [base, ↓reduceIte, inspects.readBase, Option.map_none, Option.getD_none,
        resolve_unreadable]
      rw [← headerOf_of_short base]
      exact fromCache
  · simp only [cached]
    rw [← cached] at fromCache ⊢
    exact fromCache

theorem Inspects.isFragment (inspects : Inspects packet inspector) :
    inspector.isFragment =
      ((inspector.headerOf packet).isFragment,
        { inspector with header := some (inspector.headerOf packet) }) := by
  rw [PacketInspector.isFragment, inspects.getHeader]

theorem Inspects.isTcpReset (inspects : Inspects packet inspector) :
    (inspector.isTcpReset).1 = resetOf packet (inspector.headerOf packet) ∧
      ∃ header reset, (inspector.isTcpReset).2 =
          { inspector with header := header, tcpReset := reset } ∧
        Inspects packet (inspector.isTcpReset).2 := by
  unfold PacketInspector.isTcpReset
  rcases inspects.reset with fresh | cached
  · simp only [fresh, inspects.getHeader]
    cases flags : ((inspector.headerOf packet).error.isNone &&
        (inspector.headerOf packet).protocol == .tcp &&
        (inspector.headerOf packet).validTcpFlags) with
    | true =>
        simp only [↓reduceIte, inspects.serves.readByte]
        have value : resetOf packet (inspector.headerOf packet) =
            (packet[(inspector.headerOf packet).transportOffset + tcpFlagsOffset]?.map fun flags =>
              flags &&& tcpRstFlag != 0).getD false := by
          rw [resetOf, flags, Bool.true_and]
        exact ⟨value.symm, _, _, rfl, inspects.serves, .inr rfl, .inr (congrArg some value.symm)⟩
    | false =>
        have value : resetOf packet (inspector.headerOf packet) = false := by
          rw [resetOf, flags, Bool.false_and]
        simp only [Bool.false_eq_true, ↓reduceIte]
        exact ⟨value.symm, _, _, rfl, inspects.serves, .inr rfl, .inr (congrArg some value.symm)⟩
  · simp only [cached]
    exact ⟨trivial, _, _, rfl, inspects⟩

end Accessors

end WindowsKext
