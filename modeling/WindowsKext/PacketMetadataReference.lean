import WindowsKext.PacketMetadataChecks
import WindowsKext.PacketMetadataOriginal

/-! The on-demand inspector against the frozen parser. -/

namespace WindowsKext

open ByteString

section Walk

variable {smoltcp : Smoltcp} (lengths : smoltcp.ChecksLengths) (packet : Bytes)
  (stopAtFragment : Bool)

include lengths

theorem originalLoop_eq (remaining : Nat) (headers : Ipv6Headers) :
    Original.walkIpv6Loop smoltcp packet stopAtFragment remaining headers =
      (walkIpv6Loop stopAtFragment true remaining headers packet).1 := by
  induction remaining generalizing headers with
  | zero =>
      obtain ⟨protocol, offset, isFragment, active, resolved⟩ := headers
      cases protocol <;> rfl
  | succ remaining ih =>
      obtain ⟨protocol, offset, isFragment, active, resolved⟩ := headers
      cases protocol with
      | ipv6Frag =>
          simp only [Original.walkIpv6Loop, walkIpv6Loop, readPrefix_bytes, len_bytes]
          by_cases complete : offset + 8 ≤ packet.length
          · have readable : offset + 4 ≤ packet.length := by omega
            have checked : smoltcp.ipv6FragmentHeaderNewChecked
                ((slice packet offset (offset + 8)).drop 2) = true := by
              rw [lengths.ipv6FragmentHeader]
              simp
              omega
            have bits : (wordAt (packet.take (offset + 4)) (offset + 2) &&& 0xfff9 != 0) =
                (Ipv6FragmentHeader.fragOffset ((slice packet offset (offset + 8)).drop 2) != 0 ||
                  Ipv6FragmentHeader.moreFrags ((slice packet offset (offset + 8)).drop 2)) := by
              rw [wordAt_take (by omega), fragmentBits_eq (wordAt_lt _ _)]
              have first : byteAt ((slice packet offset (offset + 8)).drop 2) 0 =
                  byteAt packet (offset + 2) := by
                rw [byteAt_drop, byteAt_slice, if_pos (by omega)]
              have second : byteAt ((slice packet offset (offset + 8)).drop 2) 1 =
                  byteAt packet (offset + 2 + 1) := by
                rw [byteAt_drop, byteAt_slice, if_pos (by omega)]
              have parity : wordAt packet (offset + 2) % 2 =
                  (byteAt packet (offset + 2 + 1)).toNat % 2 := by
                rw [wordAt]
                omega
              have word : wordAt ((slice packet offset (offset + 8)).drop 2) 0 =
                  wordAt packet (offset + 2) := by
                rw [wordAt, wordAt, first, second]
              rw [Ipv6FragmentHeader.fragOffset, Ipv6FragmentHeader.moreFrags, word, second, parity]
            have next : byteAt (slice packet offset (offset + 8)) 0 =
                byteAt (packet.take (offset + 4)) offset := by
              rw [byteAt_slice, byteAt_take, if_pos (by omega), if_pos (by omega), Nat.add_zero]
            simp only [complete, readable, ↓reduceIte, checked, bits, next, ih]
            split
            · split <;> rfl
            · rfl
          · simp only [complete, ↓reduceIte]
      | hopByHop | ipv6Route | ipv6Opts =>
          have next : byteAt (packet.take (offset + 2)) offset = byteAt packet offset := by
            rw [byteAt_take, if_pos (by omega)]
          have length : byteAt (packet.take (offset + 2)) (offset + 1) =
              byteAt packet (offset + 1) := by
            rw [byteAt_take, if_pos (by omega)]
          have segments : byteAt (packet.take (offset + 4)) (offset + 3) =
              byteAt packet (offset + 3) := by
            rw [byteAt_take, if_pos (by omega)]
          have checked := lengths.ipv6ExtHeader (packet.drop offset)
          rw [List.length_drop, byteAt_drop] at checked
          simp only [Original.walkIpv6Loop, walkIpv6Loop, readPrefix_bytes, Ipv6ExtHeader.nextHeader,
            Ipv6ExtHeader.headerLen, byteAt_drop, Nat.add_zero]
          by_cases complete : offset + ((byteAt packet (offset + 1)).toNat + 1) * 8 ≤ packet.length
          · have inside : offset ≤ packet.length := by omega
            have readable : offset + 2 ≤ packet.length := by omega
            have routing : offset + 4 ≤ packet.length := by omega
            have passed : smoltcp.ipv6ExtHeaderNewChecked (packet.drop offset) = true :=
              checked.mpr (by omega)
            simp [inside, readable, routing, passed, next, length, segments, len_bytes, complete,
              ih, show (IpProtocol.hopByHop == .ipv6Route) = false from rfl,
              show (IpProtocol.ipv6Opts == .ipv6Route) = false from rfl]
          · have failed : smoltcp.ipv6ExtHeaderNewChecked (packet.drop offset) = false := by
              rw [Bool.eq_false_iff]
              intro passed
              have bounds := checked.mp passed
              omega
            have unchanged : ¬ offset + ((byteAt (packet.take (offset + 2))
                (offset + 1)).toNat + 1) * 8 ≤ packet.length := by
              rw [length]
              exact complete
            by_cases readable : offset + 2 ≤ packet.length
            · simp [failed, readable, len_bytes, unchanged]
            · simp [failed, readable]
      | _ => rfl

theorem originalHeaders_eq (base : ipv6BaseLen ≤ packet.length) :
    ∃ active, Original.walkIpv6Headers smoltcp packet stopAtFragment =
      { (walkIpv6HeadersReader packet stopAtFragment false).1 with
        activeRoutingHeader := active } := by
  have loop := originalLoop_eq lengths packet stopAtFragment maxIpv6ExtHeaders (baseHeaders packet)
  rw [walkIpv6Loop_eq] at loop
  refine ⟨(reportChain packet true (baseHeaders packet)
    (packetChain packet stopAtFragment)).activeRoutingHeader, ?_⟩
  unfold Original.walkIpv6Headers
  rw [if_neg (by omega), walkIpv6HeadersReader_eq base]
  exact loop

end Walk

section Quotes

variable {transport : Bytes}

theorem getIcmpEcho_take (long : icmpHeaderLen ≤ transport.length) (ipv6 : Bool) :
    getIcmpEcho (transport.take icmpHeaderLen) ipv6 = getIcmpEcho transport ipv6 := by
  have byte (index : Nat) (inside : index < 8) :
      byteAt (transport.take icmpHeaderLen) index = byteAt transport index := by
    rw [byteAt_take, if_pos (by exact inside)]
  have size : ¬ (transport.take icmpHeaderLen).length < icmpHeaderLen := by
    rw [List.length_take]
    omega
  simp only [getIcmpEcho, size, Nat.not_lt.mpr long, portAt, wordAt, byte 0 (by omega),
    byte 4 (by omega), byte 5 (by omega), byte 6 (by omega), byte 7 (by omega)]

variable {protocol : IpProtocol} {localAddress : IpAddress} (remoteAddress : IpAddress)

theorem getIcmpError_of_unsupported
    (unsupported : PacketInspector.quotedTransportLength localAddress.isIpv6 protocol = none) :
    getIcmpError protocol localAddress remoteAddress transport = none := by
  cases protocol with
  | icmp =>
      cases localAddress with
      | ipv4 address => cases unsupported
      | ipv6 address => rfl
  | icmpv6 =>
      cases localAddress with
      | ipv4 address => rfl
      | ipv6 address => cases unsupported
  | tcp => cases unsupported
  | udp => cases unsupported
  | _ => rfl

theorem getIcmpError_take {length : Nat}
    (supported : PacketInspector.quotedTransportLength localAddress.isIpv6 protocol = some length) :
    getIcmpError protocol localAddress remoteAddress transport =
      if length ≤ transport.length then
        getIcmpError protocol localAddress remoteAddress (transport.take length)
      else none := by
  have ports (inside : 4 ≤ transport.length) :
      getPorts (transport.take 4) protocol = getPorts transport protocol := by
    have sliced : getPorts (slice transport 0 4) protocol = getPorts (transport.drop 0) protocol :=
      getPorts_slice (by omega) inside
    exact sliced
  have echoes (icmp : protocol = .icmp ∨ protocol = .icmpv6) :
      getIcmpError protocol localAddress remoteAddress transport =
        if icmpHeaderLen ≤ transport.length then
          getIcmpError protocol localAddress remoteAddress (transport.take icmpHeaderLen)
        else none := by
    by_cases long : icmpHeaderLen ≤ transport.length
    · have code : byteAt (transport.take icmpHeaderLen) 1 = byteAt transport 1 := by
        rw [byteAt_take, if_pos (by decide)]
      rw [if_pos long]
      rcases icmp with rfl | rfl <;> simp only [getIcmpError, getIcmpEcho_take long, code]
    · have short (ipv6 : Bool) : getIcmpEcho transport ipv6 = none := by
        rw [getIcmpEcho, if_pos (by omega)]
      rw [if_neg long]
      rcases icmp with rfl | rfl <;> simp only [getIcmpError, short, ite_self]
  cases protocol with
  | tcp | udp =>
      cases supported
      by_cases long : 4 ≤ transport.length
      · have same := ports long
        simp [getIcmpError, same, long, Nat.not_lt.mpr long]
      · simp [getIcmpError, long, Nat.lt_of_not_le long]
  | icmp =>
      cases localAddress with
      | ipv4 address =>
          cases supported
          exact echoes (.inl rfl)
      | ipv6 address => cases supported
  | icmpv6 =>
      cases localAddress with
      | ipv4 address => cases supported
      | ipv6 address =>
          cases supported
          exact echoes (.inr rfl)
  | _ => cases supported

end Quotes

section Windows

variable {S : Type} [PacketData S] {packet quoted : Bytes}

theorem readQuotedTransport_eq (key : Key) {window : PacketWindow S}
    (serves : Serves window quoted) (offset : Nat)
    (base : PacketInspector.baseLength key.localAddress.isIpv6 ≤ offset) (protocol : IpProtocol) :
    PacketInspector.readQuotedTransport key.localAddress.isIpv6 key window protocol offset =
      (if offset ≤ quoted.length then
        getIcmpError protocol key.localAddress
          (PacketInspector.keyAddresses quoted key.localAddress.isIpv6).2 (quoted.drop offset)
        else none, window) := by
  unfold PacketInspector.readQuotedTransport
  cases supported : PacketInspector.quotedTransportLength key.localAddress.isIpv6 protocol with
  | none =>
      simp only [getIcmpError_of_unsupported _ supported]
      split <;> rfl
  | some length =>
      simp only [serves.readPrefix]
      by_cases complete : offset + length ≤ quoted.length
      · have inside : offset ≤ quoted.length := by omega
        have destination : (if key.localAddress.isIpv6 = true then
              IpAddress.ipv6 (Ipv6Packet.dstAddr (quoted.take (offset + length)))
            else .ipv4 (Ipv4Packet.dstAddr (quoted.take (offset + length)))) =
            (PacketInspector.keyAddresses quoted key.localAddress.isIpv6).2 := by
          rw [← keyAddresses_take (show _ ≤ offset + length by omega)]
          cases key.localAddress.isIpv6 <;> rfl
        rw [if_pos complete, if_pos inside, getIcmpError_take _ supported,
          if_pos (by rw [List.length_drop]; omega)]
        simp only [destination, List.drop_take, Nat.add_sub_cancel_left]
      · have short : (if offset ≤ quoted.length then
            getIcmpError protocol key.localAddress
              (PacketInspector.keyAddresses quoted key.localAddress.isIpv6).2 (quoted.drop offset)
            else none) = none := by
          split
          · rw [getIcmpError_take _ supported, if_neg (by rw [List.length_drop]; omega)]
          · rfl
        simp only [complete, ↓reduceIte, short]

theorem Serves.shorten {source : S} (serves : Serves source packet) {start stop : Nat}
    (ordered : start ≤ stop) (inside : stop ≤ packet.length) (total : Nat) :
    Serves (PacketWindow.mk source start (min stop (start + total)))
      ((slice packet start stop).take total) := by
  have shorter : (slice packet start stop).take total =
      slice packet start (min stop (start + total)) := by
    rw [slice, slice, List.take_drop, List.take_take, Nat.min_comm]
  rw [shorter]
  exact serves.window (by omega) (by omega)

variable {key : Key}

theorem ipv4Fields_take (quoted : Bytes) {count : Nat} (base : ipv4BaseLen ≤ count) :
    Ipv4Packet.version (quoted.take count) = Ipv4Packet.version quoted ∧
      Ipv4Packet.headerLen (quoted.take count) = Ipv4Packet.headerLen quoted ∧
      Ipv4Packet.totalLen (quoted.take count) = Ipv4Packet.totalLen quoted ∧
      Ipv4Packet.fragOffset (quoted.take count) = Ipv4Packet.fragOffset quoted ∧
      Ipv4Packet.nextHeader (quoted.take count) = Ipv4Packet.nextHeader quoted ∧
      Ipv4Packet.srcAddr (quoted.take count) = Ipv4Packet.srcAddr quoted := by
  simp only [ipv4BaseLen] at base
  have byte (index : Nat) (inside : index < 20) :
      byteAt (quoted.take count) index = byteAt quoted index := by
    rw [byteAt_take, if_pos (by omega)]
  have addresses : (PacketInspector.keyAddresses (quoted.take count) false).1 =
      (PacketInspector.keyAddresses quoted false).1 := by
    rw [keyAddresses_take base]
  refine ⟨?_, ?_, wordAt_take (by omega), ?_, ?_, IpAddress.ipv4.inj addresses⟩
  · rw [Ipv4Packet.version, Ipv4Packet.version, byte 0 (by omega)]
  · rw [Ipv4Packet.headerLen, Ipv4Packet.headerLen, byte 0 (by omega)]
  · rw [Ipv4Packet.fragOffset, Ipv4Packet.fragOffset, wordAt_take (by omega)]
  · rw [Ipv4Packet.nextHeader, Ipv4Packet.nextHeader, byte 9 (by omega)]

theorem ipv6Fields_take (quoted : Bytes) {count : Nat} (base : ipv6BaseLen ≤ count) :
    Ipv6Packet.version (quoted.take count) = Ipv6Packet.version quoted ∧
      Ipv6Packet.totalLen (quoted.take count) = Ipv6Packet.totalLen quoted ∧
      Ipv6Packet.srcAddr (quoted.take count) = Ipv6Packet.srcAddr quoted := by
  simp only [ipv6BaseLen] at base
  have addresses : (PacketInspector.keyAddresses (quoted.take count) true).1 =
      (PacketInspector.keyAddresses quoted true).1 := by
    rw [keyAddresses_take base]
  refine ⟨?_, ?_, IpAddress.ipv6.inj addresses⟩
  · rw [Ipv6Packet.version, Ipv6Packet.version, byteAt_take, if_pos (by omega)]
  · rw [Ipv6Packet.totalLen, Ipv6Packet.totalLen, Ipv6Packet.payloadLen, Ipv6Packet.payloadLen,
      wordAt_take (by omega)]

theorem ipv4_bne (left right : Ipv4Address) :
    (IpAddress.ipv4 left != IpAddress.ipv4 right) = (left != right) := by
  rw [Bool.eq_iff_iff]
  simp

theorem ipv6_bne (left right : Ipv6Address) :
    (IpAddress.ipv6 left != IpAddress.ipv6 right) = (left != right) := by
  rw [Bool.eq_iff_iff]
  simp

theorem quotedTransport_eq (protocol : IpProtocol) (localAddress : IpAddress) {offset total : Nat}
    (base : ipv4BaseLen ≤ offset) :
    (if offset ≤ (quoted.take total).length then
      getIcmpError protocol localAddress
        (PacketInspector.keyAddresses (quoted.take total) false).2 ((quoted.take total).drop offset)
      else none) =
      if offset ≤ min quoted.length total then
        getIcmpError protocol localAddress (.ipv4 (Ipv4Packet.dstAddr quoted))
          (slice quoted offset (min quoted.length total))
      else none := by
  have prefixEq : quoted.take (min quoted.length total) = quoted.take total := by
    rw [List.take_eq_take_iff]
    omega
  rw [List.length_take, Nat.min_comm, slice, prefixEq]
  split
  · rename_i inside
    have whole : PacketInspector.baseLength false ≤ total :=
      Nat.le_trans base (Nat.le_trans inside (Nat.min_le_right _ _))
    rw [keyAddresses_take whole]
    rfl
  · rfl

theorem readIcmpError_ipv4 (inspector : PacketInspector S)
    (serves : Serves inspector.reader packet) (family : inspector.ipv6 = false)
    {localAddress : Ipv4Address} (address : key.localAddress = .ipv4 localAddress)
    {offset packetEnd : Nat} (ordered : offset + icmpHeaderLen ≤ min packet.length packetEnd) :
    inspector.readIcmpError key (offset + icmpHeaderLen) packetEnd =
      (Original.getIcmpv4Error (slice packet offset (min packet.length packetEnd)) localAddress,
        inspector) := by
  obtain ⟨reader, ipv6, direction, permitFragments, header, tcpReset⟩ := inspector
  dsimp only at family serves
  subst family
  have window := serves.window ordered (Nat.min_le_left _ _)
  have quotedEq := drop_slice packet offset (min packet.length packetEnd) icmpHeaderLen
  have size : ¬ (slice packet offset (min packet.length packetEnd)).length < icmpHeaderLen := by
    rw [length_slice]
    omega
  have shorten := serves.shorten ordered (Nat.min_le_left _ _)
  unfold PacketInspector.readIcmpError Original.getIcmpv4Error
  simp only [serves.len, window.readPrefix, size, ↓reduceIte, quotedEq,
    show PacketInspector.baseLength false = ipv4BaseLen from rfl]
  generalize slice packet (offset + icmpHeaderLen) (min packet.length packetEnd) = quoted
    at window shorten ⊢
  by_cases base : ipv4BaseLen ≤ quoted.length
  · obtain ⟨version, headerLen, totalLen, fragOffset, nextHeader, srcAddr⟩ :=
      ipv4Fields_take quoted (Nat.le_refl _)
    simp only [base, Nat.not_lt.mpr base, ↓reduceIte, version, headerLen, totalLen, fragOffset,
      nextHeader, srcAddr, address, Bool.false_eq_true]
    cases rejected : (Ipv4Packet.version quoted != 4 ||
        decide (Ipv4Packet.headerLen quoted < ipv4BaseLen) ||
        IpAddress.ipv4 (Ipv4Packet.srcAddr quoted) != IpAddress.ipv4 localAddress ||
        Ipv4Packet.fragOffset quoted != 0) with
    | true =>
        rw [ipv4_bne] at rejected
        simp only [rejected, ↓reduceIte]
    | false =>
        rw [ipv4_bne] at rejected
        have header : ipv4BaseLen ≤ Ipv4Packet.headerLen quoted := by
          simp only [Bool.or_eq_false_iff, decide_eq_false_iff_not] at rejected
          omega
        have read := readQuotedTransport_eq key (shorten (Ipv4Packet.totalLen quoted))
          (Ipv4Packet.headerLen quoted) (by rw [address]; exact header)
          (Ipv4Packet.nextHeader quoted)
        rw [address, show (IpAddress.ipv4 localAddress).isIpv6 = false from rfl] at read
        simp only [rejected, Bool.false_eq_true, ↓reduceIte, read, quotedTransport_eq _ _ header]
  · simp only [base, Nat.lt_of_not_le base, ↓reduceIte]

theorem walkIpv6HeadersReader_base (base : ipv6BaseLen ≤ quoted.length)
    (stopAtFragment inspectRoutingHeader : Bool) :
    ipv6BaseLen ≤
      (walkIpv6HeadersReader quoted stopAtFragment inspectRoutingHeader).1.transportOffset := by
  rw [walkIpv6HeadersReader_eq base]
  exact headerChain_offset_le quoted stopAtFragment maxIpv6ExtHeaders
    (Ipv6Packet.nextHeader quoted) ipv6BaseLen

theorem readIcmpError_ipv6 {smoltcp : Smoltcp} (lengths : smoltcp.ChecksLengths)
    (inspector : PacketInspector S) (serves : Serves inspector.reader packet)
    (family : inspector.ipv6 = true)
    {localAddress : Ipv6Address} (address : key.localAddress = .ipv6 localAddress)
    {offset packetEnd : Nat} (ordered : offset + icmpHeaderLen ≤ min packet.length packetEnd) :
    inspector.readIcmpError key (offset + icmpHeaderLen) packetEnd =
      (Original.getIcmpv6Error smoltcp (slice packet offset (min packet.length packetEnd))
        localAddress, inspector) := by
  obtain ⟨reader, ipv6, direction, permitFragments, header, tcpReset⟩ := inspector
  dsimp only at family serves
  subst family
  have window := serves.window ordered (Nat.min_le_left _ _)
  have quotedEq := drop_slice packet offset (min packet.length packetEnd) icmpHeaderLen
  have size : ¬ (slice packet offset (min packet.length packetEnd)).length < icmpHeaderLen := by
    rw [length_slice]
    omega
  have shorten := serves.shorten ordered (Nat.min_le_left _ _)
  unfold PacketInspector.readIcmpError Original.getIcmpv6Error
  simp only [serves.len, window.readPrefix, size, ↓reduceIte, quotedEq,
    show PacketInspector.baseLength true = ipv6BaseLen from rfl]
  generalize slice packet (offset + icmpHeaderLen) (min packet.length packetEnd) = quoted
    at window shorten ⊢
  by_cases base : ipv6BaseLen ≤ quoted.length
  · obtain ⟨version, totalLen, srcAddr⟩ := ipv6Fields_take quoted (Nat.le_refl _)
    simp only [base, Nat.not_lt.mpr base, ↓reduceIte, version, totalLen, srcAddr, address,
      ipv6_bne]
    split
    · rfl
    · have total : ipv6BaseLen ≤ Ipv6Packet.totalLen quoted := Nat.le_add_right _ _
      have prefixEq : quoted.take (min quoted.length (Ipv6Packet.totalLen quoted)) =
          quoted.take (Ipv6Packet.totalLen quoted) := by
        rw [List.take_eq_take_iff]
        omega
      have complete : ipv6BaseLen ≤ (quoted.take (Ipv6Packet.totalLen quoted)).length := by
        rw [List.length_take]
        omega
      obtain ⟨active, walked⟩ := originalHeaders_eq lengths
        (quoted.take (Ipv6Packet.totalLen quoted)) false complete
      have offsetBase := walkIpv6HeadersReader_base complete false false
      simp only [(shorten (Ipv6Packet.totalLen quoted)).walkIpv6HeadersReader, prefixEq, walked]
      split
      · rfl
      · have read := readQuotedTransport_eq key (shorten (Ipv6Packet.totalLen quoted))
          (walkIpv6HeadersReader (quoted.take (Ipv6Packet.totalLen quoted)) false
            false).1.transportOffset (address.symm ▸ offsetBase)
          (walkIpv6HeadersReader (quoted.take (Ipv6Packet.totalLen quoted)) false false).1.protocol
        rw [address, show (IpAddress.ipv6 localAddress).isIpv6 = true from rfl,
          keyAddresses_take total] at read
        simp only [read]
        rfl
  · simp only [base, Nat.lt_of_not_le base, ↓reduceIte]

end Windows

section Messages

variable {S : Type} [PacketData S] {packet : Bytes} {key : Key} {inspector : PacketInspector S}

theorem Inspects.icmpMetadata_default (inspects : Inspects packet inspector)
    (absent : (inspector.headerOf packet).error.isSome = true ∨
      (inspector.headerOf packet).protocol ≠ (if inspector.ipv6 then .icmpv6 else .icmp) ∨
      packet.length < (inspector.headerOf packet).transportOffset + icmpHeaderLen) :
    inspector.icmpMetadata key =
      (.default, { inspector with header := some (inspector.headerOf packet) }) := by
  unfold PacketInspector.icmpMetadata PacketInspector.readIcmpMetadata
  simp only [inspects.getHeader, inspects.serves.readPrefix]
  cases other : ((inspector.headerOf packet).error.isSome ||
      (inspector.headerOf packet).protocol != (if inspector.ipv6 then .icmpv6 else .icmp)) with
  | true => rfl
  | false =>
      simp only [Bool.or_eq_false_iff, bne_eq_false_iff_eq] at other
      have short : ¬ (inspector.headerOf packet).transportOffset + icmpHeaderLen ≤
          packet.length := by
        rcases absent with failed | different | short
        · rw [other.1] at failed
          cases failed
        · exact absurd other.2 different
        · omega
      simp only [Bool.false_eq_true, short, ↓reduceIte, Option.getD_none]

theorem hasIcmpMessage_iff {protocol wanted : IpProtocol} {offset : Nat} :
    (protocol == wanted && decide (icmpHeaderLen ≤ (packet.drop offset).length)) = true ↔
      protocol = wanted ∧ offset + icmpHeaderLen ≤ packet.length := by
  rw [Bool.and_eq_true, beq_iff_eq, decide_eq_true_eq, List.length_drop]
  refine and_congr Iff.rfl ?_
  simp only [icmpHeaderLen]
  omega

theorem Inspects.icmpMetadata_noMessage (inspects : Inspects packet inspector) {wanted : IpProtocol}
    (expected : (if inspector.ipv6 then .icmpv6 else .icmp) = wanted)
    (message : ((inspector.headerOf packet).protocol == wanted && decide (icmpHeaderLen ≤
      (packet.drop (inspector.headerOf packet).transportOffset).length)) = false) :
    inspector.icmpMetadata key =
      (.default, { inspector with header := some (inspector.headerOf packet) }) := by
  refine inspects.icmpMetadata_default (.inr ?_)
  rw [expected]
  by_cases other : (inspector.headerOf packet).protocol = wanted
  · refine .inr (Nat.lt_of_not_le fun complete => ?_)
    rw [hasIcmpMessage_iff.mpr ⟨other, complete⟩] at message
    cases message
  · exact .inl other

theorem Inspects.icmpMetadata_message (inspects : Inspects packet inspector)
    (readable : (inspector.headerOf packet).error = none)
    (message : (inspector.headerOf packet).protocol = if inspector.ipv6 then .icmpv6 else .icmp)
    (complete : (inspector.headerOf packet).transportOffset + icmpHeaderLen ≤ packet.length) :
    inspector.icmpMetadata key =
      { inspector with header := some (inspector.headerOf packet) }.readIcmpMessage key
        (packet.take ((inspector.headerOf packet).transportOffset + icmpHeaderLen))
        (inspector.headerOf packet).transportOffset := by
  have present : ((inspector.headerOf packet).error.isSome ||
      (inspector.headerOf packet).protocol != (if inspector.ipv6 then .icmpv6 else .icmp)) =
        false := by
    rw [readable, message]
    simp
  unfold PacketInspector.icmpMetadata PacketInspector.readIcmpMetadata
  simp only [inspects.getHeader, inspects.serves.readPrefix, present, Bool.false_eq_true,
    ↓reduceIte, complete, Option.getD_some]

theorem icmpErrorBounds_take {ipv6 : Bool} {offset : Nat}
    (base : PacketInspector.baseLength ipv6 ≤ offset) :
    PacketInspector.icmpErrorBounds (packet.take (offset + icmpHeaderLen))
        ((packet.take (offset + icmpHeaderLen)).drop offset) ipv6 =
      PacketInspector.icmpErrorBounds packet (packet.drop offset) ipv6 := by
  have type : byteAt ((packet.take (offset + icmpHeaderLen)).drop offset) 0 =
      byteAt (packet.drop offset) 0 := by
    rw [byteAt_drop, byteAt_drop, byteAt_take, if_pos (by simp [icmpHeaderLen])]
  cases ipv6 with
  | true =>
      obtain ⟨version, totalLen, _⟩ := ipv6Fields_take packet
        (show ipv6BaseLen ≤ offset + icmpHeaderLen from Nat.le_trans base (Nat.le_add_right _ _))
      simp only [PacketInspector.icmpErrorBounds, ↓reduceIte]
      rw [type, version, totalLen]
  | false =>
      obtain ⟨version, headerLen, totalLen, _⟩ := ipv4Fields_take packet
        (show ipv4BaseLen ≤ offset + icmpHeaderLen from Nat.le_trans base (Nat.le_add_right _ _))
      simp only [PacketInspector.icmpErrorBounds, Bool.false_eq_true, ↓reduceIte]
      rw [type, version, headerLen, totalLen]

theorem readIcmpMessage_eq (inspector : PacketInspector S) {offset : Nat}
    (base : PacketInspector.baseLength inspector.ipv6 ≤ offset)
    (complete : offset + icmpHeaderLen ≤ packet.length) {error : Option IcmpError}
    {packetEnd : Nat} {validError isError isLocalError : Bool}
    (bounds : PacketInspector.icmpErrorBounds packet (packet.drop offset) inspector.ipv6 =
      (packetEnd, validError))
    (isErrorEq : isError = (validError && decide (offset + icmpHeaderLen ≤ packetEnd)))
    (isLocalErrorEq : isLocalError = (isError && inspector.direction == .outbound &&
      key.localAddress == key.remoteAddress))
    (quoted : (if isError && (inspector.direction == .inbound || isLocalError) then
        inspector.readIcmpError key (offset + icmpHeaderLen) packetEnd
      else (none, inspector)) = (error, inspector)) :
    inspector.readIcmpMessage key (packet.take (offset + icmpHeaderLen)) offset =
      ({ echo := getIcmpEcho (packet.drop offset) inspector.ipv6
         error := error
         isLocalError := isLocalError }, inspector) := by
  have echo : getIcmpEcho ((packet.take (offset + icmpHeaderLen)).drop offset) inspector.ipv6 =
      getIcmpEcho (packet.drop offset) inspector.ipv6 := by
    rw [List.drop_take, Nat.add_sub_cancel_left,
      getIcmpEcho_take (by rw [List.length_drop]; omega)]
  subst isErrorEq isLocalErrorEq
  unfold PacketInspector.readIcmpMessage
  simp only [icmpErrorBounds_take base, bounds, echo, quoted]

end Messages

def PacketInspection.isTcpReset (inspection : PacketInspection) : Bool :=
  match inspection.metadata with
  | .ok metadata => metadata.isTcpReset
  | .error _ => false

/-- The reference and the inspector find the same header, key and flags, and the same ICMP
metadata for the returned key. -/
structure Agrees {S : Type} [PacketData S] (packet : Bytes) (inspector : PacketInspector S)
    (inspection : PacketInspection) : Prop where
  fragment : inspection.isFragment = (inspector.headerOf packet).isFragment
  key : inspection.metadata.map PacketMetadata.key =
    keyOf packet inspector.ipv6 inspector.direction (inspector.headerOf packet)
  reset : inspection.isTcpReset = resetOf packet (inspector.headerOf packet)
  icmp : ∀ metadata, inspection.metadata = .ok metadata →
    inspector.icmpMetadata metadata.key =
      ({ echo := metadata.icmpEcho
         error := metadata.icmpError
         isLocalError := metadata.isLocalIcmpError },
        { inspector with header := some (inspector.headerOf packet) })

section Agreement

variable {S : Type} [PacketData S] {packet : Bytes} {inspector : PacketInspector S}

theorem agrees_of_error {inspection : PacketInspection} {error : PacketMetadataError}
    (fragment : inspection.isFragment = (inspector.headerOf packet).isFragment)
    (failed : inspection.metadata = .error error)
    (headerFailed : (inspector.headerOf packet).error = some error) :
    Agrees packet inspector inspection where
  fragment := fragment
  key := by rw [failed, keyOf_of_error headerFailed]; rfl
  reset := by simp [PacketInspection.isTcpReset, failed, resetOf, headerFailed]
  icmp metadata ok := by rw [failed] at ok; cases ok

/-- The quoted local address of an error is the destination of the packet that carries it. -/
theorem buildKey_localAddress {direction : Direction} {protocol : IpProtocol}
    {source destination : IpAddress} {sourcePort destinationPort : UInt16} {key : Key}
    (keyEq : key = buildKey direction protocol source sourcePort destination destinationPort)
    (attributed : direction = .inbound ∨ key.localAddress = key.remoteAddress) :
    key.localAddress = destination := by
  subst keyEq
  cases direction with
  | inbound => rfl
  | outbound =>
      rcases attributed with wrong | same
      · cases wrong
      · exact same

theorem icmpv4_isError {rawOffset offset total : Nat}
    (raw : ipv4BaseLen ≤ rawOffset → offset = rawOffset) (version errorType : Bool) :
    (errorType && version && decide (ipv4BaseLen ≤ rawOffset) &&
        decide (rawOffset + icmpHeaderLen ≤ total)) =
      (version && decide (ipv4BaseLen ≤ rawOffset) && errorType &&
        decide (offset + icmpHeaderLen ≤ total)) := by
  by_cases valid : ipv4BaseLen ≤ rawOffset
  · rw [raw valid]
    cases version <;> cases errorType <;> simp
  · simp [valid]

theorem Inspects.icmp_ipv4 (inspects : Inspects packet inspector) (family : inspector.ipv6 = false)
    (headerEq : inspector.headerOf packet =
      PacketInspector.parseBaseHeader packet false inspector.permitFragments)
    (readable : (inspector.headerOf packet).error = none) {key : Key}
    (attributed : inspector.direction = .inbound ∨ key.localAddress = key.remoteAddress →
      key.localAddress = .ipv4 (Ipv4Packet.dstAddr packet)) :
    inspector.icmpMetadata key =
      ({ echo := (Original.icmpv4Fields packet inspector.direction key).1
         error := (Original.icmpv4Fields packet inspector.direction key).2.1
         isLocalError := (Original.icmpv4Fields packet inspector.direction key).2.2 },
        { inspector with header := some (inspector.headerOf packet) }) := by
  have offset : (inspector.headerOf packet).transportOffset =
      max (Ipv4Packet.headerLen packet) ipv4BaseLen := by
    rw [headerEq]
    rfl
  have protocol : (inspector.headerOf packet).protocol = Ipv4Packet.nextHeader packet := by
    rw [headerEq]
    rfl
  unfold Original.icmpv4Fields
  dsimp only
  rw [← offset, ← protocol]
  cases message : ((inspector.headerOf packet).protocol == .icmp && decide (icmpHeaderLen ≤
      (packet.drop (inspector.headerOf packet).transportOffset).length)) with
  | false =>
      rw [if_neg (by decide)]
      exact inspects.icmpMetadata_noMessage (by rw [family]; rfl) message
  | true =>
      obtain ⟨icmp, complete⟩ := hasIcmpMessage_iff.mp message
      have base : PacketInspector.baseLength inspector.ipv6 ≤
          (inspector.headerOf packet).transportOffset := by
        rw [family, offset]
        exact Nat.le_max_right _ _
      rw [inspects.icmpMetadata_message readable (by rw [family]; exact icmp) complete,
        if_pos rfl]
      have bounds : PacketInspector.icmpErrorBounds packet
          (packet.drop (inspector.headerOf packet).transportOffset) inspector.ipv6 =
            (Ipv4Packet.totalLen packet, (PacketInspector.icmpErrorBounds packet
              (packet.drop (inspector.headerOf packet).transportOffset) false).2) := by
        rw [family]
        rfl
      have raw (valid : ipv4BaseLen ≤ Ipv4Packet.headerLen packet) :
          (inspector.headerOf packet).transportOffset = Ipv4Packet.headerLen packet := by
        rw [offset, Nat.max_eq_left valid]
      refine (readIcmpMessage_eq { inspector with
        header := some (inspector.headerOf packet) } base complete bounds
        (icmpv4_isError raw _ _) rfl ?_).trans (by rw [family])
      split
      · rename_i attribution
        simp only [Bool.and_eq_true, Bool.or_eq_true, beq_iff_eq, decide_eq_true_eq] at attribution
        have valid : ipv4BaseLen ≤ Ipv4Packet.headerLen packet := attribution.1.1.2
        have address : key.localAddress = .ipv4 (Ipv4Packet.dstAddr packet) := by
          refine attributed ?_
          rcases attribution.2 with inbound | ⟨_, same⟩
          · exact .inl inbound
          · exact .inr same
        have ordered : (inspector.headerOf packet).transportOffset + icmpHeaderLen ≤
            min packet.length (Ipv4Packet.totalLen packet) := by
          have declared := attribution.1.2
          rw [raw valid] at complete ⊢
          omega
        rw [readIcmpError_ipv4 { inspector with
          header := some (inspector.headerOf packet) } inspects.serves family address ordered,
          raw valid, if_pos (by rw [raw valid] at ordered; omega)]
      · rfl

theorem Inspects.agrees_ipv4 (inspects : Inspects packet inspector)
    (family : inspector.ipv6 = false) :
    Agrees packet inspector
      (Original.inspectIpv4Packet packet inspector.direction inspector.permitFragments) := by
  have headerEq : inspector.headerOf packet =
      if packet.length < ipv4BaseLen then .unreadable
      else PacketInspector.parseBaseHeader packet false inspector.permitFragments := by
    rw [PacketInspector.headerOf, family]
    rfl
  unfold Original.inspectIpv4Packet
  by_cases short : packet.length < ipv4BaseLen
  · rw [if_pos short] at headerEq ⊢
    exact agrees_of_error (by rw [headerEq]; rfl) rfl (by rw [headerEq]; rfl)
  rw [if_neg short] at headerEq ⊢
  dsimp only
  cases fragmented : (inspector.permitFragments &&
      (Ipv4Packet.fragOffset packet != 0 || Ipv4Packet.moreFrags packet)) with
  | true =>
      rw [if_pos rfl]
      refine agrees_of_error (by rw [headerEq]; rfl) rfl ?_
      rw [headerEq]
      simp only [PacketInspector.parseBaseHeader, Bool.false_eq_true, ↓reduceIte, fragmented]
  | false =>
      have readable : (inspector.headerOf packet).error = none := by
        rw [headerEq]
        simp only [PacketInspector.parseBaseHeader, Bool.false_eq_true, ↓reduceIte, fragmented]
      have offset : (inspector.headerOf packet).transportOffset =
          max (Ipv4Packet.headerLen packet) ipv4BaseLen := by
        rw [headerEq]
        rfl
      have keyEq : keyOf packet inspector.ipv6 inspector.direction (inspector.headerOf packet) =
          if packet.length < ipv4BaseLen + 4 then .error .unreadablePacket
          else .ok (PacketInspector.parseKey packet false inspector.direction
            (inspector.headerOf packet)) := by
        simp only [keyOf, readable, family, Bool.false_eq_true, ↓reduceIte]
      rw [if_neg (by decide)]
      by_cases portless : packet.length < ipv4BaseLen + 4
      · rw [if_pos portless] at keyEq ⊢
        refine ⟨by rw [headerEq]; rfl, keyEq.symm, ?_, ?_⟩
        · have past : packet[(inspector.headerOf packet).transportOffset + tcpFlagsOffset]? =
              none := by
            rw [List.getElem?_eq_none]
            simp only [offset, tcpFlagsOffset, ipv4BaseLen] at portless ⊢
            omega
          simp [PacketInspection.isTcpReset, resetOf, past]
        · rintro metadata ⟨⟩
      · rw [if_neg portless] at keyEq ⊢
        refine ⟨by rw [headerEq]; rfl, ?_, ?_, ?_⟩
        · rw [keyEq, headerEq]
          rfl
        · have flags : (inspector.headerOf packet).validTcpFlags =
              decide (ipv4BaseLen ≤ Ipv4Packet.headerLen packet ∧
                Ipv4Packet.headerLen packet ≤ ipv4MaxHeaderLen) := by
            rw [headerEq]
            rfl
          have protocol : (inspector.headerOf packet).protocol = Ipv4Packet.nextHeader packet := by
            rw [headerEq]
            rfl
          simp only [PacketInspection.isTcpReset, Original.ipv4Metadata, Original.hasTcpReset,
            resetOf, readable, Option.isNone_none, Bool.true_and, flags, protocol, offset]
          by_cases valid : ipv4BaseLen ≤ Ipv4Packet.headerLen packet
          · rw [Nat.max_eq_left valid]
          · simp [valid]
        · rintro metadata ⟨⟩
          exact inspects.icmp_ipv4 family headerEq readable (buildKey_localAddress rfl)

theorem Inspects.icmp_ipv6 {smoltcp : Smoltcp} (lengths : smoltcp.ChecksLengths)
    (inspects : Inspects packet inspector) (family : inspector.ipv6 = true)
    (readable : (inspector.headerOf packet).error = none)
    (base : ipv6BaseLen ≤ (inspector.headerOf packet).transportOffset) {headers : Ipv6Headers}
    (offset : headers.transportOffset = (inspector.headerOf packet).transportOffset)
    (protocol : headers.protocol = (inspector.headerOf packet).protocol) {key : Key}
    (attributed : inspector.direction = .inbound ∨ key.localAddress = key.remoteAddress →
      key.localAddress = .ipv6 (Ipv6Packet.dstAddr packet)) :
    inspector.icmpMetadata key =
      ({ echo := (Original.icmpv6Fields smoltcp packet inspector.direction headers key).1
         error := (Original.icmpv6Fields smoltcp packet inspector.direction headers key).2.1
         isLocalError :=
          (Original.icmpv6Fields smoltcp packet inspector.direction headers key).2.2 },
        { inspector with header := some (inspector.headerOf packet) }) := by
  unfold Original.icmpv6Fields
  dsimp only
  rw [offset, protocol]
  cases message : ((inspector.headerOf packet).protocol == .icmpv6 && decide (icmpHeaderLen ≤
      (packet.drop (inspector.headerOf packet).transportOffset).length)) with
  | false =>
      rw [if_neg (by decide)]
      exact inspects.icmpMetadata_noMessage (by rw [family]; rfl) message
  | true =>
      obtain ⟨icmp, complete⟩ := hasIcmpMessage_iff.mp message
      rw [inspects.icmpMetadata_message readable (by rw [family]; exact icmp) complete,
        if_pos rfl]
      have bounds : PacketInspector.icmpErrorBounds packet
          (packet.drop (inspector.headerOf packet).transportOffset) inspector.ipv6 =
            (Ipv6Packet.totalLen packet, (PacketInspector.icmpErrorBounds packet
              (packet.drop (inspector.headerOf packet).transportOffset) true).2) := by
        rw [family]
        rfl
      refine (readIcmpMessage_eq { inspector with
        header := some (inspector.headerOf packet) } (by rw [family]; exact base) complete bounds
        (congrArg (· && _) (Bool.and_comm _ _)) rfl ?_).trans (by rw [family])
      split
      · rename_i attribution
        simp only [Bool.and_eq_true, Bool.or_eq_true, beq_iff_eq, decide_eq_true_eq] at attribution
        have address : key.localAddress = .ipv6 (Ipv6Packet.dstAddr packet) := by
          refine attributed ?_
          rcases attribution.2 with inbound | ⟨_, same⟩
          · exact .inl inbound
          · exact .inr same
        have ordered : (inspector.headerOf packet).transportOffset + icmpHeaderLen ≤
            min packet.length (Ipv6Packet.totalLen packet) :=
          Nat.le_min.mpr ⟨complete, attribution.1.2⟩
        rw [readIcmpError_ipv6 lengths { inspector with
          header := some (inspector.headerOf packet) } inspects.serves family address
          ordered, if_pos (by omega)]
      · rfl

theorem Inspects.agrees_ipv6 {smoltcp : Smoltcp} (lengths : smoltcp.ChecksLengths)
    (inspects : Inspects packet inspector) (family : inspector.ipv6 = true) :
    Agrees packet inspector
      (Original.inspectIpv6Packet smoltcp packet inspector.direction
        inspector.permitFragments) := by
  have headerEq : inspector.headerOf packet =
      if packet.length < ipv6BaseLen then .unreadable
      else walkedHeader inspector.permitFragments
        (walkIpv6HeadersReader packet inspector.permitFragments false).1 := by
    rw [PacketInspector.headerOf, family]
    rfl
  unfold Original.inspectIpv6Packet
  by_cases short : packet.length < ipv6BaseLen
  · rw [if_pos short] at headerEq ⊢
    exact agrees_of_error (by rw [headerEq]; rfl) rfl (by rw [headerEq]; rfl)
  rw [if_neg short] at headerEq ⊢
  have base : ipv6BaseLen ≤ packet.length := by omega
  obtain ⟨active, walked⟩ := originalHeaders_eq lengths packet inspector.permitFragments base
  have offsetBase := walkIpv6HeadersReader_base base inspector.permitFragments false
  dsimp only
  rw [walked]
  generalize (walkIpv6HeadersReader packet inspector.permitFragments false).1 = headers
    at headerEq offsetBase ⊢
  dsimp only
  cases fragmented : (inspector.permitFragments && headers.isFragment) with
  | true =>
      rw [if_pos rfl]
      refine agrees_of_error ?_ rfl ?_
      · rw [headerEq]
        exact (Bool.and_eq_true _ _ ▸ fragmented).2.symm
      · simp only [headerEq, walkedHeader, fragmented, ↓reduceIte]
  | false =>
      rw [if_neg (by decide)]
      cases resolved : headers.resolved with
      | false =>
          rw [if_pos (by decide)]
          refine agrees_of_error (by rw [headerEq]; rfl) rfl ?_
          simp [headerEq, walkedHeader, fragmented, resolved]
      | true =>
          have readable : (inspector.headerOf packet).error = none := by
            simp [headerEq, walkedHeader, fragmented, resolved]
          rw [if_neg (by decide)]
          refine ⟨by rw [headerEq]; rfl, ?_, ?_, ?_⟩
          · simp only [keyOf, readable, family, ↓reduceIte]
            rw [if_neg short, headerEq]
            rfl
          · simp [PacketInspection.isTcpReset, Original.ipv6Metadata, Original.hasTcpReset,
              resetOf, headerEq, walkedHeader, fragmented, resolved]
          · rintro metadata ⟨⟩
            refine inspects.icmp_ipv6 lengths family readable ?_ ?_ ?_ (buildKey_localAddress rfl)
            · rw [headerEq]
              exact offsetBase
            · rw [headerEq]
              rfl
            · rw [headerEq]
              rfl

end Agreement

inductive Accessor where
  | key
  | isFragment
  | icmpMetadata (key : Key)
  | isTcpReset

inductive AccessorResult where
  | key (result : Except PacketMetadataError Key)
  | isFragment (result : Bool)
  | icmpMetadata (result : IcmpMetadata)
  | isTcpReset (result : Bool)

namespace PacketInspector

variable {S : Type} [PacketData S]

def call (inspector : PacketInspector S) : Accessor → AccessorResult × PacketInspector S
  | .key => (.key inspector.key.1, inspector.key.2)
  | .isFragment => (.isFragment inspector.isFragment.1, inspector.isFragment.2)
  | .icmpMetadata key =>
      (.icmpMetadata (inspector.icmpMetadata key).1, (inspector.icmpMetadata key).2)
  | .isTcpReset => (.isTcpReset inspector.isTcpReset.1, inspector.isTcpReset.2)

def callAll (inspector : PacketInspector S) : List Accessor → List AccessorResult
  | [] => []
  | accessor :: rest => (inspector.call accessor).1 :: (inspector.call accessor).2.callAll rest

end PacketInspector

def PacketInspection.icmpMetadata (inspection : PacketInspection) : IcmpMetadata :=
  match inspection.metadata with
  | .ok metadata =>
      { echo := metadata.icmpEcho
        error := metadata.icmpError
        isLocalError := metadata.isLocalIcmpError }
  | .error _ => .default

/-- What the reference parser reports for an accessor. -/
def PacketInspection.result (inspection : PacketInspection) : Accessor → AccessorResult
  | .key => .key (inspection.metadata.map PacketMetadata.key)
  | .isFragment => .isFragment inspection.isFragment
  | .icmpMetadata _ => .icmpMetadata inspection.icmpMetadata
  | .isTcpReset => .isTcpReset inspection.isTcpReset

section Sequences

variable {S : Type} [PacketData S] {smoltcp : Smoltcp} {packet : Bytes}

theorem Inspects.agrees (lengths : smoltcp.ChecksLengths) {inspector : PacketInspector S}
    (inspects : Inspects packet inspector) :
    Agrees packet inspector (Original.inspectPacket smoltcp packet inspector.ipv6
      inspector.direction inspector.permitFragments) := by
  unfold Original.inspectPacket
  cases family : inspector.ipv6 with
  | true => exact inspects.agrees_ipv6 lengths family
  | false => exact inspects.agrees_ipv4 family

theorem Inspects.call (lengths : smoltcp.ChecksLengths) {inspector : PacketInspector S}
    (inspects : Inspects packet inspector) (accessor : Accessor)
    (returned : ∀ key, accessor = .icmpMetadata key →
      (Original.inspectPacket smoltcp packet inspector.ipv6 inspector.direction
        inspector.permitFragments).metadata.map PacketMetadata.key = .ok key) :
    (inspector.call accessor).1 =
        (Original.inspectPacket smoltcp packet inspector.ipv6 inspector.direction
          inspector.permitFragments).result accessor ∧
      Inspects packet (inspector.call accessor).2 ∧
      (inspector.call accessor).2.ipv6 = inspector.ipv6 ∧
      (inspector.call accessor).2.direction = inspector.direction ∧
      (inspector.call accessor).2.permitFragments = inspector.permitFragments := by
  have agrees := inspects.agrees lengths
  generalize Original.inspectPacket smoltcp packet inspector.ipv6 inspector.direction
    inspector.permitFragments = inspection at agrees returned ⊢
  cases accessor with
  | key =>
      simp only [PacketInspector.call, inspects.key, PacketInspection.result, agrees.key]
      exact ⟨trivial, inspects.cached, trivial, trivial, trivial⟩
  | isFragment =>
      simp only [PacketInspector.call, inspects.isFragment, PacketInspection.result,
        agrees.fragment]
      exact ⟨trivial, inspects.cached, trivial, trivial, trivial⟩
  | isTcpReset =>
      obtain ⟨value, header, reset, same, kept⟩ := inspects.isTcpReset
      simp only [PacketInspector.call, PacketInspection.result, agrees.reset, value]
      exact ⟨trivial, kept, by rw [same], by rw [same], by rw [same]⟩
  | icmpMetadata key =>
      have parsed := returned key rfl
      cases found : inspection.metadata with
      | error error =>
          rw [found] at parsed
          cases parsed
      | ok metadata =>
          rw [found] at parsed
          obtain rfl : metadata.key = key := Except.ok.inj parsed
          simp only [PacketInspector.call, agrees.icmp metadata found, PacketInspection.result,
            PacketInspection.icmpMetadata, found]
          exact ⟨trivial, inspects.cached, trivial, trivial, trivial⟩

theorem Inspects.callAll (lengths : smoltcp.ChecksLengths) {inspector : PacketInspector S}
    (inspects : Inspects packet inspector) (accessors : List Accessor)
    (returned : ∀ key, .icmpMetadata key ∈ accessors →
      (Original.inspectPacket smoltcp packet inspector.ipv6 inspector.direction
        inspector.permitFragments).metadata.map PacketMetadata.key = .ok key) :
    inspector.callAll accessors =
      accessors.map (Original.inspectPacket smoltcp packet inspector.ipv6 inspector.direction
        inspector.permitFragments).result := by
  induction accessors generalizing inspector with
  | nil => rfl
  | cons accessor rest ih =>
      obtain ⟨result, kept, ipv6, direction, permits⟩ := inspects.call lengths accessor
        fun key first => returned key (first ▸ List.mem_cons_self)
      rw [PacketInspector.callAll, List.map_cons, result, ih kept, ipv6, direction, permits]
      intro key later
      rw [ipv6, direction, permits]
      exact returned key (List.mem_cons_of_mem _ later)

/-- Every sequence of calls on an inspector over a byte string returns the results of the frozen
parser. ICMP metadata is asked for with the returned key. -/
theorem inspector_eq_original (smoltcp : Smoltcp) (lengths : smoltcp.ChecksLengths)
    (packet : Bytes) (ipv6 : Bool) (direction : Direction) (permitFragments : Bool)
    (accessors : List Accessor)
    (returned : ∀ key, .icmpMetadata key ∈ accessors →
      (PacketInspector.new packet ipv6 direction permitFragments).key.1 = .ok key) :
    (PacketInspector.new packet ipv6 direction permitFragments).callAll accessors =
      accessors.map
        (Original.inspectPacket smoltcp packet ipv6 direction permitFragments).result := by
  have inspects := inspects_new (serves_bytes packet) ipv6 direction permitFragments
  refine inspects.callAll lengths accessors ?_
  intro key member
  have agrees := (inspects.agrees lengths).key
  have parsed := returned key member
  rw [inspects.key] at parsed
  exact agrees.trans parsed

end Sequences

/-- An ICMP port-unreachable error from 10.0.0.2 to 10.0.0.1 that quotes a DNS request. -/
def quotedRequest : Bytes :=
  [0x45, 0, 0, 56, 0, 0, 0, 0, 64, 1, 0, 0, 10, 0, 0, 2, 10, 0, 0, 1] ++
    [3, 3, 0, 0, 0, 0, 0, 0] ++
    [0x45, 0, 0, 28, 0, 0, 0, 0, 64, 17, 0, 0, 10, 0, 0, 1, 1, 1, 1, 1] ++
    [0xc3, 0x50, 0, 53, 0, 8, 0, 0]

def quotedRequestKey : Key where
  protocol := .icmp
  localAddress := .ipv4 (Ipv4Address.new 10 0 0 1)
  localPort := 0
  remoteAddress := .ipv4 (Ipv4Address.new 10 0 0 2)
  remotePort := 0

theorem inspector_eq_original_quotedRequest :
    (PacketInspector.new quotedRequest false .inbound true).key.1 = .ok quotedRequestKey ∧
      (PacketInspector.new quotedRequest false .inbound true).callAll
          [.icmpMetadata quotedRequestKey, .isTcpReset, .key, .icmpMetadata quotedRequestKey] =
        [.icmpMetadata quotedRequestKey, .isTcpReset, .key, .icmpMetadata quotedRequestKey].map
          (Original.inspectPacket Smoltcp.documented quotedRequest false .inbound true).result := by
  have parsed : (PacketInspector.new quotedRequest false .inbound true).key.1 =
      .ok quotedRequestKey := by rfl
  refine ⟨parsed, inspector_eq_original Smoltcp.documented Smoltcp.documented_checksLengths
    quotedRequest false .inbound true _ ?_⟩
  intro key member
  simp only [List.mem_cons, Accessor.icmpMetadata.injEq, reduceCtorEq, List.not_mem_nil,
    or_false, false_or] at member
  obtain rfl : key = quotedRequestKey := by
    rcases member with same | same
    · exact same
    · exact same
  exact parsed

end WindowsKext
