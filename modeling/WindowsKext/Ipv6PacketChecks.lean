import WindowsKext.Ipv6HeaderChain
import WindowsKext.WireChecks

/-! The IPv6 rewrite and the checksum recalculation change exactly what they claim, and reject
packets whose checksum cannot be computed. -/

namespace WindowsKext

open ByteString

structure Located (packet : Bytes) (context : TransportContext) : Prop where
  version : Ipv6Packet.version packet = 6
  inside : context.totalLen ≤ packet.length
  total : context.totalLen = Ipv6Packet.totalLen packet
  payload : ¬ (Ipv6Packet.payloadLen packet = 0 ∧ ipv6BaseLen < packet.length)
  afterBase : ipv6BaseLen ≤ context.offset
  ordered : context.offset ≤ context.totalLen
  offset : (packetChain (packet.take context.totalLen) false).offset = context.offset
  protocol : (packetChain (packet.take context.totalLen) false).protocol = context.protocol
  resolved : context.protocol.isExtension = false
  unfragmented : (packetChain (packet.take context.totalLen) false).headers.any
    (isNonAtomicFragment (packet.take context.totalLen)) = false
  unrouted : (packetChain (packet.take context.totalLen) false).headers.any
    (isActiveRouting (packet.take context.totalLen)) = false
  source : context.source = Ipv6Packet.srcAddr packet
  destination : context.destination = Ipv6Packet.dstAddr packet

section Context

variable {smoltcp : Smoltcp} {packet : Bytes} {context : TransportContext}

theorem take_totalLen_length (lengths : smoltcp.ChecksLengths)
    (checked : smoltcp.ipv6NewChecked packet = true) :
    (packet.take (Ipv6Packet.totalLen packet)).length = Ipv6Packet.totalLen packet := by
  rw [List.length_take, Nat.min_eq_left ((lengths.ipv6 packet).mp checked).2]

theorem nextHeader_take_totalLen (packet : Bytes) :
    Ipv6Packet.nextHeader (packet.take (Ipv6Packet.totalLen packet)) =
      Ipv6Packet.nextHeader packet := by
  rw [Ipv6Packet.nextHeader, Ipv6Packet.nextHeader, byteAt_take, if_pos]
  unfold Ipv6Packet.totalLen ipv6BaseLen
  omega

theorem transportContext_located (lengths : smoltcp.ChecksLengths)
    (ok : transportContext smoltcp packet = .ok context) : Located packet context := by
  unfold transportContext at ok
  split at ok
  · cases ok
  rename_i checked
  split at ok
  · cases ok
  rename_i version
  dsimp only at ok
  split at ok
  · cases ok
  rename_i payload
  split at ok
  · cases ok
  rename_i resolved
  split at ok
  · cases ok
  rename_i unfragmented
  split at ok
  · cases ok
  rename_i unrouted
  simp only [Bool.not_eq_true', Bool.not_eq_false] at checked
  have takeLength := take_totalLen_length lengths checked
  have base : ipv6BaseLen ≤ (packet.take (Ipv6Packet.totalLen packet)).length := by
    rw [takeLength, Ipv6Packet.totalLen]
    omega
  rw [walkIpv6Headers_eq base] at resolved unfragmented unrouted ok
  simp only [reportChain, baseHeaders, Bool.false_or, Bool.true_and, Bool.or_eq_true,
    Bool.not_eq_true', Bool.and_eq_false_iff, decide_eq_true_eq, not_or, Nat.not_lt] at resolved
  simp only [reportChain, baseHeaders, Bool.false_or, Bool.true_and, Bool.not_eq_true]
    at unfragmented unrouted
  obtain rfl := Except.ok.inj ok
  simp only [reportChain, bne_iff_ne, ne_eq, Decidable.not_not] at version ⊢
  have ended : (packetChain (packet.take (Ipv6Packet.totalLen packet)) false).stopped = false ∧
      (packetChain (packet.take (Ipv6Packet.totalLen packet)) false).protocol.isExtension =
        false := by
    simpa using resolved.1
  exact {
    version := version
    inside := ((lengths.ipv6 packet).mp checked).2
    total := rfl
    payload := by simpa using payload
    afterBase := headerChain_offset_le _ _ _ _ _
    ordered := resolved.2
    offset := rfl
    protocol := rfl
    resolved := ended.2
    unfragmented := unfragmented
    unrouted := unrouted
    source := rfl
    destination := rfl }

theorem Located.transportContext (lengths : smoltcp.ChecksLengths)
    (located : Located packet context) : transportContext smoltcp packet = .ok context := by
  have inside := located.inside
  rw [located.total] at inside
  have checked : smoltcp.ipv6NewChecked packet = true := by
    refine (lengths.ipv6 packet).mpr ⟨?_, inside⟩
    exact Nat.le_trans (Nat.le_add_right _ _) inside
  have base : ipv6BaseLen ≤ (packet.take (Ipv6Packet.totalLen packet)).length := by
    rw [take_totalLen_length lengths checked]
    exact Nat.le_add_right _ _
  have version : (Ipv6Packet.version packet != 6) = false := by simp [located.version]
  have payload : (Ipv6Packet.payloadLen packet == 0 && decide (packet.length > ipv6BaseLen)) =
      false := by
    simpa using located.payload
  obtain ⟨protocol, offset, total, source, destination⟩ := context
  obtain rfl := located.total
  have offsetEq : (packetChain (packet.take (Ipv6Packet.totalLen packet)) false).offset = offset :=
    located.offset
  have protocolEq : (packetChain (packet.take (Ipv6Packet.totalLen packet)) false).protocol =
      protocol := located.protocol
  have sourceEq : source = Ipv6Packet.srcAddr packet := located.source
  have destinationEq : destination = Ipv6Packet.dstAddr packet := located.destination
  have notStopped : (packetChain (packet.take (Ipv6Packet.totalLen packet)) false).stopped =
      false := headerChain_not_stopped _ _ _ _
  have ordered := located.ordered
  have unfragmented := located.unfragmented
  have unrouted := located.unrouted
  have resolved := located.resolved
  dsimp only at ordered unfragmented unrouted resolved
  unfold WindowsKext.transportContext
  simp [walkIpv6Headers_eq base, checked, version, payload, reportChain, baseHeaders, notStopped,
    offsetEq, protocolEq, sourceEq, destinationEq, resolved, unfragmented, unrouted,
    Nat.not_lt.mpr ordered]

theorem Located.congr (located : Located packet context) {other : Bytes}
    (length : other.length = packet.length)
    (base : ∀ index < 8, byteAt other index = byteAt packet index)
    (chain : ∀ index, ipv6BaseLen ≤ index → index < context.offset →
      byteAt other index = byteAt packet index) :
    Located other { context with
      source := Ipv6Packet.srcAddr other
      destination := Ipv6Packet.dstAddr other } := by
  have version : Ipv6Packet.version other = Ipv6Packet.version packet := by
    rw [Ipv6Packet.version, Ipv6Packet.version, base 0 (by omega)]
  have payloadLen : Ipv6Packet.payloadLen other = Ipv6Packet.payloadLen packet := by
    rw [Ipv6Packet.payloadLen, Ipv6Packet.payloadLen, wordAt, wordAt, base 4 (by omega),
      base 5 (by omega)]
  have totalLen : Ipv6Packet.totalLen other = Ipv6Packet.totalLen packet := by
    rw [Ipv6Packet.totalLen, Ipv6Packet.totalLen, payloadLen]
  have total : ipv6BaseLen ≤ context.totalLen :=
    Nat.le_trans located.afterBase located.ordered
  unfold ipv6BaseLen at total
  have next : Ipv6Packet.nextHeader (other.take context.totalLen) =
      Ipv6Packet.nextHeader (packet.take context.totalLen) := by
    rw [Ipv6Packet.nextHeader, Ipv6Packet.nextHeader, byteAt_take, byteAt_take, base 6 (by omega)]
  have sameChain := headerChain_congr
    (Nat.le_of_eq (show (packet.take context.totalLen).length =
      (other.take context.totalLen).length by rw [List.length_take, List.length_take, length]))
    maxIpv6ExtHeaders (Ipv6Packet.nextHeader (packet.take context.totalLen)) ipv6BaseLen
    (located.protocol ▸ located.resolved) (by
      intro index low high
      have before : index < context.offset := located.offset ▸ high
      rw [byteAt_take, byteAt_take, chain index low before])
  obtain ⟨same, fragments, routing⟩ := sameChain
  rw [← next] at same
  have packetSame : packetChain (other.take context.totalLen) false =
      packetChain (packet.take context.totalLen) false := by
    rw [packetChain, same, next]
    rfl
  exact {
    version := version.trans located.version
    inside := length ▸ located.inside
    total := located.total.trans totalLen.symm
    payload := by
      rw [payloadLen, length]
      exact located.payload
    afterBase := located.afterBase
    ordered := located.ordered
    offset := (congrArg HeaderChain.offset packetSame).trans located.offset
    protocol := (congrArg HeaderChain.protocol packetSame).trans located.protocol
    resolved := located.resolved
    unfragmented := by
      dsimp only
      rw [packetSame]
      exact fragments.trans located.unfragmented
    unrouted := by
      dsimp only
      rw [packetSame]
      exact routing.trans located.unrouted
    source := rfl
    destination := rfl }

theorem transportContext_congr (lengths : smoltcp.ChecksLengths)
    (ok : transportContext smoltcp packet = .ok context) {other : Bytes}
    (length : other.length = packet.length)
    (same : ∀ index, index < context.offset → byteAt other index = byteAt packet index) :
    transportContext smoltcp other = .ok context := by
  have located := transportContext_located lengths ok
  have afterBase := located.afterBase
  unfold ipv6BaseLen at afterBase
  have source : Ipv6Packet.srcAddr other = context.source :=
    (ipv6AddressAt_congr fun index bound => same _ (by omega)).trans located.source.symm
  have destination : Ipv6Packet.dstAddr other = context.destination :=
    (ipv6AddressAt_congr fun index bound => same _ (by omega)).trans located.destination.symm
  have moved := located.congr length (fun index bound => same index (by omega))
    fun index _ bound => same index bound
  rw [source, destination] at moved
  exact moved.transportContext lengths

theorem Located.transportSlice_eq (located : Located packet context) {other : Bytes}
    (length : other.length = packet.length) :
    transportSlice other context = some (slice other context.offset context.totalLen) := by
  rw [transportSlice, if_pos ⟨located.ordered, length ▸ located.inside⟩]

theorem validateTransport_ok_iff (located : Located packet context) :
    validateTransport smoltcp packet context = .ok () ↔
      transportChecked smoltcp context.protocol
        (slice packet context.offset context.totalLen) = true := by
  rw [validateTransport, located.transportSlice_eq rfl]
  dsimp only
  generalize context.protocol = protocol
  cases protocol <;> simp [transportChecked]

def setAddresses (packet : Bytes) (source destination : Ipv6Address) : Bytes :=
  Ipv6Packet.setDstAddr (Ipv6Packet.setSrcAddr packet source) destination

/-- `set_src_port` and `set_dst_port` write the same fields for TCP and UDP. -/
def setPort (port : PortRewrite) (segment : Bytes) : Bytes :=
  match port with
  | .source value => writeAt segment 0 (wordBytes value.toNat)
  | .destination value => writeAt segment 2 (wordBytes value.toNat)

def PortRewrite.offset : PortRewrite → Nat
  | .source _ => 0
  | .destination _ => 2

def PortRewrite.value : PortRewrite → UInt16
  | .source value => value
  | .destination value => value

theorem setPort_eq (port : PortRewrite) (segment : Bytes) :
    setPort port segment = writeAt segment port.offset (wordBytes port.value.toNat) := by
  cases port <;> rfl

theorem length_setPort (port : PortRewrite) (segment : Bytes) :
    (setPort port segment).length = segment.length := by
  rw [setPort_eq, length_writeAt]

theorem setAddresses_changesOnly (packet : Bytes) (source destination : Ipv6Address) :
    ChangesOnly (fun index => 8 ≤ index ∧ index < 40) packet
      (setAddresses packet source destination) := by
  refine ChangesOnly.trans (changesOnly_writeAt packet _ 8 ?_) (changesOnly_writeAt _ _ 24 ?_)
  · intro index low high
    simp only [Vector.length_toList] at high
    omega
  · intro index low high
    simp only [Vector.length_toList] at high
    omega

theorem setAddresses_addresses (room : 40 ≤ packet.length) (source destination : Ipv6Address) :
    Ipv6Packet.srcAddr (setAddresses packet source destination) = source ∧
      Ipv6Packet.dstAddr (setAddresses packet source destination) = destination := by
  constructor
  · have written := ipv6AddressAt_writeAt (show 8 + 16 ≤ packet.length by omega) source
    refine Eq.trans (ipv6AddressAt_congr ?_) written
    intro index bound
    rw [setAddresses, Ipv6Packet.setDstAddr, byteAt_writeAt_of_outside (.inl (by omega)),
      Ipv6Packet.setSrcAddr]
  · exact ipv6AddressAt_writeAt
      (show 24 + 16 ≤ (Ipv6Packet.setSrcAddr packet source).length by
        rw [Ipv6Packet.setSrcAddr, length_writeAt]; omega) destination

theorem slice_setAddresses (packet : Bytes) (source destination : Ipv6Address) {start stop : Nat}
    (after : 40 ≤ start) :
    slice (setAddresses packet source destination) start stop = slice packet start stop := by
  unfold setAddresses Ipv6Packet.setDstAddr Ipv6Packet.setSrcAddr
  rw [slice_writeAt_of_outside (by simp; omega), slice_writeAt_of_outside (by simp; omega)]

theorem setPort_checked (lengths : smoltcp.ChecksLengths) (protocol : IpProtocol)
    (port : PortRewrite) (segment : Bytes) :
    transportChecked smoltcp protocol (setPort port segment) =
      transportChecked smoltcp protocol segment := by
  refine transportChecked_congr lengths (length_setPort _ _) ?_
  intro index low high
  rw [setPort_eq]
  refine byteAt_writeAt_of_outside (.inr ?_)
  cases port <;> simp [PortRewrite.offset] <;> omega

theorem wordAt_fillTransport_setPort (lengths : smoltcp.ChecksLengths)
    (fills : smoltcp.FillsChecksums) {protocol : IpProtocol} {segment : Bytes}
    (checked : transportChecked smoltcp protocol segment = true) (port : PortRewrite)
    {source destination : IpAddress} (family : sameFamily source destination = true) :
    wordAt (fillTransport smoltcp protocol (setPort port segment) source destination)
      port.offset = port.value.toNat := by
  have filled := fillTransport_changesOnly fills
    ((setPort_checked lengths protocol port segment).trans checked) family
  have bounds := transportChecked_bounds lengths checked
  have outside (index : Nat) (bound : index < 4) : ¬ InChecksum protocol index := by
    simp only [InChecksum, checksumField]
    split <;> omega
  have small : port.offset + 2 ≤ 4 := by cases port <;> simp [PortRewrite.offset]
  have room : 8 ≤ checksumField protocol + 2 := by
    unfold checksumField
    split <;> omega
  rw [wordAt, filled.same _ (outside _ (by omega)), filled.same _ (outside _ (by omega)),
    setPort_eq]
  exact wordAt_writeAt_self (by omega) port.value.toNat_lt

def rewritten (smoltcp : Smoltcp) (packet : Bytes) (context : TransportContext)
    (source destination : Ipv6Address) (port : PortRewrite) : Bytes :=
  modifySlice (setAddresses packet source destination) context.offset context.totalLen
    fun segment => fillTransport smoltcp context.protocol (setPort port segment) (.ipv6 source)
      (.ipv6 destination)

theorem rewriteIpv6TcpUdp_of_checked (lengths : smoltcp.ChecksLengths)
    (found : transportContext smoltcp packet = .ok context)
    (checked : transportChecked smoltcp context.protocol
      (slice packet context.offset context.totalLen) = true)
    (source destination : Ipv6Address) (port : PortRewrite) :
    rewriteIpv6TcpUdp smoltcp packet source destination port =
      (.ok (), rewritten smoltcp packet context source destination port) := by
  have located := transportContext_located lengths found
  have valid := (validateTransport_ok_iff located).mpr checked
  have moved := located.transportSlice_eq
    (setAddresses_changesOnly packet source destination).length
  rw [slice_setAddresses packet source destination located.afterBase] at moved
  simp only [setAddresses] at moved
  unfold rewriteIpv6TcpUdp rewritten setAddresses
  simp only [found, valid, moved]
  rcases transportChecked_protocol checked with udp | tcp
  · rw [udp] at checked
    simp only [transportChecked] at checked
    simp only [udp, checked, fillTransport]
    cases port <;> rfl
  · rw [tcp] at checked
    simp only [transportChecked] at checked
    simp only [tcp, checked, fillTransport]
    cases port <;> rfl

theorem rewriteIpv6TcpUdp_eq (lengths : smoltcp.ChecksLengths) (source destination : Ipv6Address)
    (port : PortRewrite) :
    (∃ error, rewriteIpv6TcpUdp smoltcp packet source destination port = (.error error, packet)) ∨
      ∃ context, transportContext smoltcp packet = .ok context ∧
        transportChecked smoltcp context.protocol
          (slice packet context.offset context.totalLen) = true ∧
        rewriteIpv6TcpUdp smoltcp packet source destination port =
          (.ok (), rewritten smoltcp packet context source destination port) := by
  cases found : transportContext smoltcp packet with
  | error error => exact .inl ⟨error, by simp [rewriteIpv6TcpUdp, found]⟩
  | ok context =>
      have located := transportContext_located lengths found
      cases valid : validateTransport smoltcp packet context with
      | error error => exact .inl ⟨error, by simp [rewriteIpv6TcpUdp, found, valid]⟩
      | ok done =>
          have checked := (validateTransport_ok_iff located).mp valid
          exact .inr ⟨context, rfl, checked,
            rewriteIpv6TcpUdp_of_checked lengths found checked source destination port⟩

def recalculated (smoltcp : Smoltcp) (packet : Bytes) (context : TransportContext) : Bytes :=
  modifySlice packet context.offset context.totalLen fun segment =>
    fillTransport smoltcp context.protocol segment (.ipv6 context.source)
      (.ipv6 context.destination)

theorem recalculateIpv6TransportChecksum_of_checked (lengths : smoltcp.ChecksLengths)
    (found : transportContext smoltcp packet = .ok context)
    (checked : transportChecked smoltcp context.protocol
      (slice packet context.offset context.totalLen) = true) :
    recalculateIpv6TransportChecksum smoltcp packet =
      (.ok (), recalculated smoltcp packet context) := by
  have located := transportContext_located lengths found
  have valid := (validateTransport_ok_iff located).mpr checked
  unfold recalculateIpv6TransportChecksum recalculated
  simp only [found, valid, located.transportSlice_eq rfl]
  rcases transportChecked_protocol checked with udp | tcp
  · rw [udp] at checked
    simp only [transportChecked] at checked
    simp [udp, checked, fillTransport]
  · rw [tcp] at checked
    simp only [transportChecked] at checked
    simp [tcp, checked, fillTransport]

theorem recalculateIpv6TransportChecksum_eq (lengths : smoltcp.ChecksLengths) :
    (∃ error, recalculateIpv6TransportChecksum smoltcp packet = (.error error, packet)) ∨
      ∃ context, transportContext smoltcp packet = .ok context ∧
        ((context.protocol ≠ .tcp ∧ context.protocol ≠ .udp ∧
            recalculateIpv6TransportChecksum smoltcp packet = (.ok (), packet)) ∨
          (transportChecked smoltcp context.protocol
              (slice packet context.offset context.totalLen) = true ∧
            recalculateIpv6TransportChecksum smoltcp packet =
              (.ok (), recalculated smoltcp packet context))) := by
  cases found : transportContext smoltcp packet with
  | error error => exact .inl ⟨error, by simp [recalculateIpv6TransportChecksum, found]⟩
  | ok context =>
      have located := transportContext_located lengths found
      by_cases other : context.protocol ≠ .tcp ∧ context.protocol ≠ .udp
      · refine .inr ⟨context, rfl, .inl ⟨other.1, other.2, ?_⟩⟩
        simp [recalculateIpv6TransportChecksum, found, other.1, other.2]
      · have transport : (context.protocol != .tcp && context.protocol != .udp) = false := by
          simpa [Decidable.imp_iff_not_or] using other
        cases valid : validateTransport smoltcp packet context with
        | error error =>
            exact .inl ⟨error, by simp [recalculateIpv6TransportChecksum, found, valid, transport]⟩
        | ok done =>
            have checked := (validateTransport_ok_iff located).mp valid
            exact .inr ⟨context, rfl, .inr ⟨checked,
              recalculateIpv6TransportChecksum_of_checked lengths found checked⟩⟩

end Context

section Exact

variable {smoltcp : Smoltcp} {packet : Bytes} {context : TransportContext}

/-- The positions a rewrite may change: both base-header addresses, the selected port and the
transport checksum. -/
def InRewrite (context : TransportContext) (port : PortRewrite) (index : Nat) : Prop :=
  (8 ≤ index ∧ index < 40) ∨
    (context.offset + port.offset ≤ index ∧ index < context.offset + port.offset + 2) ∨
    (context.offset + checksumField context.protocol ≤ index ∧
      index < context.offset + checksumField context.protocol + 2)

/-- The upper-layer bytes that a checksum covers: from the end of the header chain to the
declared total length for TCP, and the UDP length field for UDP. -/
def coveredTransport (packet : Bytes) (context : TransportContext) : Bytes :=
  (slice packet context.offset context.totalLen).take
    (coveredLength context.protocol (slice packet context.offset context.totalLen))

variable (lengths : smoltcp.ChecksLengths) (fills : smoltcp.FillsChecksums)
  (located : Located packet context)
  (checked : transportChecked smoltcp context.protocol
    (slice packet context.offset context.totalLen) = true)

include lengths fills located checked

omit located in
theorem filled_changesOnly (source destination : Ipv6Address) (port : PortRewrite) :
    ChangesOnly (InChecksum context.protocol)
      (setPort port (slice packet context.offset context.totalLen))
      (fillTransport smoltcp context.protocol
        (setPort port (slice packet context.offset context.totalLen)) (.ipv6 source)
        (.ipv6 destination)) :=
  fillTransport_changesOnly fills ((setPort_checked lengths context.protocol port _).trans checked)
    rfl

theorem rewritten_changesOnly (source destination : Ipv6Address) (port : PortRewrite) :
    ChangesOnly (InRewrite context port) packet
      (rewritten smoltcp packet context source destination port) := by
  have addresses := setAddresses_changesOnly packet source destination
  refine ChangesOnly.trans (addresses.mono fun index inside => .inl inside) ?_
  refine changesOnly_modifySlice (addresses.length ▸ located.inside) ?_
  rw [slice_setAddresses packet source destination located.afterBase]
  have filled := filled_changesOnly lengths fills checked source destination port
  refine ChangesOnly.trans ?_ (filled.mono ?_)
  · rw [setPort_eq]
    refine changesOnly_writeAt _ _ _ ?_
    intro index low high
    rw [length_wordBytes] at high
    exact .inr (.inl ⟨by omega, by omega⟩)
  · rintro index ⟨low, high⟩
    exact .inr (.inr ⟨by omega, by omega⟩)

theorem slice_rewritten (source destination : Ipv6Address) (port : PortRewrite) :
    slice (rewritten smoltcp packet context source destination port) context.offset
        context.totalLen =
      fillTransport smoltcp context.protocol
        (setPort port (slice packet context.offset context.totalLen)) (.ipv6 source)
        (.ipv6 destination) := by
  have addresses := setAddresses_changesOnly packet source destination
  have segment : slice (setAddresses packet source destination) context.offset
      context.totalLen = slice packet context.offset context.totalLen :=
    slice_setAddresses packet source destination located.afterBase
  have filled := filled_changesOnly lengths fills checked source destination port
  rw [rewritten, slice_modifySlice (addresses.length ▸ located.inside), segment]
  rw [segment, filled.length, length_setPort]

theorem rewritten_addresses (source destination : Ipv6Address) (port : PortRewrite) :
    Ipv6Packet.srcAddr (rewritten smoltcp packet context source destination port) = source ∧
      Ipv6Packet.dstAddr (rewritten smoltcp packet context source destination port) =
        destination := by
  have addresses := setAddresses_changesOnly packet source destination
  have afterBase := located.afterBase
  have ordered := located.ordered
  have inside := located.inside
  unfold ipv6BaseLen at afterBase
  have filled := filled_changesOnly lengths fills checked source destination port
  have base (index : Nat) (bound : index < 40) :
      byteAt (rewritten smoltcp packet context source destination port) index =
        byteAt (setAddresses packet source destination) index := by
    refine byteAt_modifySlice_of_outside ?_ (.inl (by omega))
    rw [slice_setAddresses packet source destination located.afterBase, filled.length, setPort_eq,
      length_writeAt]
  have set := setAddresses_addresses (show 40 ≤ packet.length by omega) source destination
  constructor
  · exact (ipv6AddressAt_congr fun index bound => base _ (by omega)).trans set.1
  · exact (ipv6AddressAt_congr fun index bound => base _ (by omega)).trans set.2

theorem rewritten_port (source destination : Ipv6Address) (port : PortRewrite) :
    wordAt (slice (rewritten smoltcp packet context source destination port) context.offset
      context.totalLen) port.offset = port.value.toNat := by
  rw [slice_rewritten lengths fills located checked]
  exact wordAt_fillTransport_setPort lengths fills checked port rfl

theorem rewritten_verifies (source destination : Ipv6Address) (port : PortRewrite) :
    TransportVerifies (.ipv6 source) (.ipv6 destination) (protocolNumber context.protocol)
      (coveredTransport (rewritten smoltcp packet context source destination port) context) := by
  have portChecked := (setPort_checked lengths context.protocol port _).trans checked
  rw [coveredTransport, slice_rewritten lengths fills located checked,
    coveredLength_fillTransport fills portChecked rfl]
  exact fillTransport_verifies lengths fills portChecked rfl

def InTransportChecksum (context : TransportContext) (index : Nat) : Prop :=
  context.offset + checksumField context.protocol ≤ index ∧
    index < context.offset + checksumField context.protocol + 2

omit lengths in
theorem recalculated_changesOnly :
    ChangesOnly (InTransportChecksum context) packet (recalculated smoltcp packet context) := by
  have filled := fillTransport_changesOnly fills checked
    (show sameFamily (.ipv6 context.source) (.ipv6 context.destination) = true from rfl)
  refine changesOnly_modifySlice located.inside (filled.mono ?_)
  rintro index ⟨low, high⟩
  exact ⟨by omega, by omega⟩

omit lengths in
theorem slice_recalculated :
    slice (recalculated smoltcp packet context) context.offset context.totalLen =
      fillTransport smoltcp context.protocol (slice packet context.offset context.totalLen)
        (.ipv6 context.source) (.ipv6 context.destination) := by
  have filled := fillTransport_changesOnly fills checked
    (show sameFamily (.ipv6 context.source) (.ipv6 context.destination) = true from rfl)
  rw [recalculated, slice_modifySlice located.inside filled.length]

theorem recalculated_verifies :
    TransportVerifies (.ipv6 context.source) (.ipv6 context.destination)
      (protocolNumber context.protocol)
      (coveredTransport (recalculated smoltcp packet context) context) := by
  rw [coveredTransport, slice_recalculated fills located checked,
    coveredLength_fillTransport fills checked rfl]
  exact fillTransport_verifies lengths fills checked rfl

theorem recalculated_again :
    recalculated smoltcp (recalculated smoltcp packet context) context =
      recalculated smoltcp packet context := by
  have again := slice_recalculated fills located checked
  rw [recalculated, modifySlice, again, fillTransport_fillTransport lengths fills checked rfl,
    ← again]
  refine writeAt_eq_self ?_
  intro index bound
  rw [length_slice] at bound
  rw [byteAt_slice, if_pos (by omega)]

end Exact

/-- A packet whose transport checksum cannot be computed from its bytes: a zero payload length
with further bytes, or a non-atomic Fragment header or active Routing header in its chain. -/
def Uncomputable (packet : Bytes) : Prop :=
  (Ipv6Packet.payloadLen packet = 0 ∧ ipv6BaseLen < packet.length) ∨
    ∃ limit, ∃ header ∈ (headerChain (packet.take (Ipv6Packet.totalLen packet)) false limit
        (Ipv6Packet.nextHeader packet) ipv6BaseLen).headers,
      isNonAtomicFragment (packet.take (Ipv6Packet.totalLen packet)) header = true ∨
        isActiveRouting (packet.take (Ipv6Packet.totalLen packet)) header = true

theorem Located.not_uncomputable {packet : Bytes} {context : TransportContext}
    (located : Located packet context) : ¬ Uncomputable packet := by
  rintro (zero | ⟨limit, header, member, bad⟩)
  · exact located.payload zero
  · have inChain := headerChain_mem_of_limit member maxIpv6ExtHeaders
    rw [← nextHeader_take_totalLen packet] at inChain
    have unfragmented := located.unfragmented
    have unrouted := located.unrouted
    have resolved := located.resolved
    rw [← located.protocol] at resolved
    rw [located.total] at unfragmented unrouted resolved
    rcases inChain with inChain | extension
    · rcases bad with fragment | routing
      · exact (List.any_eq_false.mp unfragmented) header inChain fragment
      · exact (List.any_eq_false.mp unrouted) header inChain routing
    · exact Bool.false_ne_true (resolved.symm.trans extension)

structure RewriteExact (smoltcp : Smoltcp) (packet : Bytes) (source destination : Ipv6Address)
    (port : PortRewrite) : Prop where
  failed : ∀ error, (rewriteIpv6TcpUdp smoltcp packet source destination port).1 = .error error →
    (rewriteIpv6TcpUdp smoltcp packet source destination port).2 = packet
  succeeded : (rewriteIpv6TcpUdp smoltcp packet source destination port).1 = .ok () →
    ∃ context, Located packet context ∧ (context.protocol = .udp ∨ context.protocol = .tcp) ∧
      ChangesOnly (InRewrite context port) packet
        (rewriteIpv6TcpUdp smoltcp packet source destination port).2 ∧
      Ipv6Packet.srcAddr (rewriteIpv6TcpUdp smoltcp packet source destination port).2 = source ∧
      Ipv6Packet.dstAddr (rewriteIpv6TcpUdp smoltcp packet source destination port).2 =
        destination ∧
      wordAt (slice (rewriteIpv6TcpUdp smoltcp packet source destination port).2 context.offset
        context.totalLen) port.offset = port.value.toNat ∧
      TransportVerifies (.ipv6 source) (.ipv6 destination) (protocolNumber context.protocol)
        (coveredTransport (rewriteIpv6TcpUdp smoltcp packet source destination port).2 context)
  rejected : Uncomputable packet → ∃ error,
    rewriteIpv6TcpUdp smoltcp packet source destination port = (.error error, packet)

structure RecalculationExact (smoltcp : Smoltcp) (packet : Bytes) : Prop where
  failed : ∀ error, (recalculateIpv6TransportChecksum smoltcp packet).1 = .error error →
    (recalculateIpv6TransportChecksum smoltcp packet).2 = packet
  succeeded : (recalculateIpv6TransportChecksum smoltcp packet).1 = .ok () →
    ∃ context, Located packet context ∧
      ((context.protocol ≠ .udp ∧ context.protocol ≠ .tcp ∧
          (recalculateIpv6TransportChecksum smoltcp packet).2 = packet) ∨
        ((context.protocol = .udp ∨ context.protocol = .tcp) ∧
          ChangesOnly (InTransportChecksum context) packet
            (recalculateIpv6TransportChecksum smoltcp packet).2 ∧
          TransportVerifies (.ipv6 (Ipv6Packet.srcAddr packet)) (.ipv6 (Ipv6Packet.dstAddr packet))
            (protocolNumber context.protocol)
            (coveredTransport (recalculateIpv6TransportChecksum smoltcp packet).2 context))) ∧
      recalculateIpv6TransportChecksum smoltcp (recalculateIpv6TransportChecksum smoltcp packet).2 =
        (.ok (), (recalculateIpv6TransportChecksum smoltcp packet).2)
  rejected : Uncomputable packet → ∃ error,
    recalculateIpv6TransportChecksum smoltcp packet = (.error error, packet)

theorem rewriteIpv6TcpUdp_exact {smoltcp : Smoltcp} (lengths : smoltcp.ChecksLengths)
    (fills : smoltcp.FillsChecksums) (packet : Bytes) (source destination : Ipv6Address)
    (port : PortRewrite) : RewriteExact smoltcp packet source destination port := by
  rcases rewriteIpv6TcpUdp_eq lengths source destination port with
    ⟨error, result⟩ | ⟨context, found, checked, result⟩
  · refine ⟨?_, ?_, fun _ => ⟨error, result⟩⟩
    · intro _ _
      rw [result]
    · intro ok
      rw [result] at ok
      cases ok
  · have located := transportContext_located lengths found
    have addresses := rewritten_addresses lengths fills located checked source destination port
    refine ⟨?_, ?_, fun bad => absurd bad located.not_uncomputable⟩
    · intro error failed
      rw [result] at failed
      cases failed
    · intro _
      rw [result]
      exact ⟨context, located, transportChecked_protocol checked,
        rewritten_changesOnly lengths fills located checked source destination port, addresses.1,
        addresses.2, rewritten_port lengths fills located checked source destination port,
        rewritten_verifies lengths fills located checked source destination port⟩

theorem recalculateIpv6TransportChecksum_exact {smoltcp : Smoltcp}
    (lengths : smoltcp.ChecksLengths) (fills : smoltcp.FillsChecksums) (packet : Bytes) :
    RecalculationExact smoltcp packet := by
  rcases recalculateIpv6TransportChecksum_eq lengths with
    ⟨error, result⟩ | ⟨context, found, ⟨notTcp, notUdp, result⟩ | ⟨checked, result⟩⟩
  · refine ⟨?_, ?_, fun _ => ⟨error, result⟩⟩
    · intro _ _
      rw [result]
    · intro ok
      rw [result] at ok
      cases ok
  · have located := transportContext_located lengths found
    refine ⟨?_, ?_, fun bad => absurd bad located.not_uncomputable⟩
    · intro error failed
      rw [result] at failed
      cases failed
    · intro _
      refine ⟨context, located, .inl ⟨notUdp, notTcp, by rw [result]⟩, ?_⟩
      rw [result]
      exact result
  · have located := transportContext_located lengths found
    have changes := recalculated_changesOnly fills located checked
    refine ⟨?_, ?_, fun bad => absurd bad located.not_uncomputable⟩
    · intro error failed
      rw [result] at failed
      cases failed
    · intro _
      have verifies := recalculated_verifies lengths fills located checked
      rw [located.source, located.destination] at verifies
      rw [result]
      refine ⟨context, located, .inr ⟨transportChecked_protocol checked, changes, verifies⟩, ?_⟩
      -- The second run finds the same context, since only bytes behind the headers changed.
      have again := transportContext_congr lengths found changes.length fun index bound =>
        changes.same index fun inside => by unfold InTransportChecksum at inside; omega
      have checkedAgain : transportChecked smoltcp context.protocol
          (slice (recalculated smoltcp packet context) context.offset context.totalLen) = true := by
        rw [slice_recalculated fills located checked]
        exact fillTransport_checked lengths fills checked rfl
      rw [recalculateIpv6TransportChecksum_of_checked lengths again checkedAgain,
        recalculated_again lengths fills located checked]

/-- For every packet, addresses and port, the IPv6 rewrite and the checksum recalculation are
exact. -/
theorem ipv6_transport_exact (smoltcp : Smoltcp) (lengths : smoltcp.ChecksLengths)
    (fills : smoltcp.FillsChecksums) (packet : Bytes) (source destination : Ipv6Address)
    (port : PortRewrite) :
    RewriteExact smoltcp packet source destination port ∧ RecalculationExact smoltcp packet :=
  ⟨rewriteIpv6TcpUdp_exact lengths fills packet source destination port,
    recalculateIpv6TransportChecksum_exact lengths fills packet⟩

/-- A UDP datagram from 2001:db8::1 to 2001:db8::2 behind a Hop-by-Hop Options header. -/
def optionsDatagram : Bytes :=
  [0x60, 0, 0, 0, 0, 16, 0, 64] ++
    [0x20, 1, 0x0d, 0xb8, 0, 0, 0, 0, 0, 0, 0, 0, 0, 0, 0, 1] ++
    [0x20, 1, 0x0d, 0xb8, 0, 0, 0, 0, 0, 0, 0, 0, 0, 0, 0, 2] ++
    [17, 0, 1, 4, 0, 0, 0, 0] ++ [0xc3, 0x50, 0, 53, 0, 8, 0, 0]

theorem ipv6_transport_exact_optionsDatagram :
    (rewriteIpv6TcpUdp Smoltcp.documented optionsDatagram Ipv6Address.loopback
        Ipv6Address.loopback (.destination 53)).1 = .ok () ∧
      RewriteExact Smoltcp.documented optionsDatagram Ipv6Address.loopback Ipv6Address.loopback
        (.destination 53) :=
  ⟨by rfl, (ipv6_transport_exact Smoltcp.documented Smoltcp.documented_checksLengths
    Smoltcp.documented_fillsChecksums optionsDatagram Ipv6Address.loopback Ipv6Address.loopback
    (.destination 53)).1⟩

end WindowsKext
