import WindowsKext.PacketUtilCore
import WindowsKext.Ipv6PacketChecks

/-! What the IPv4 paths of `packet_util.rs` write. The header checksum comes first, and the
transport is behind it only when the header has its 20 bytes. -/

namespace WindowsKext

open ByteString InternetChecksum

structure UnfragmentedTransport (smoltcp : Smoltcp) (packet : Bytes) : Prop where
  checked : smoltcp.ipv4NewChecked packet = true
  header : ipv4BaseLen ≤ Ipv4Packet.headerLen packet
  last : Ipv4Packet.moreFrags packet = false
  first : Ipv4Packet.fragOffset packet = 0
  transport : transportChecked smoltcp (Ipv4Packet.nextHeader packet)
    (Ipv4Packet.payload packet) = true

def Ipv4HeaderVerifies (packet : Bytes) : Prop :=
  ipv4BaseLen ≤ Ipv4Packet.headerLen packet ∧
    onesSum (sumWords (packet.take (Ipv4Packet.headerLen packet))) = 65535

def Ipv4TransportVerifies (packet : Bytes) : Prop :=
  TransportVerifies (.ipv4 (Ipv4Packet.srcAddr packet)) (.ipv4 (Ipv4Packet.dstAddr packet))
    (protocolNumber (Ipv4Packet.nextHeader packet))
    ((Ipv4Packet.payload packet).take
      (coveredLength (Ipv4Packet.nextHeader packet) (Ipv4Packet.payload packet)))

section Header

variable {smoltcp : Smoltcp} {packet other : Bytes}

theorem Ipv4Packet.headerLen_congr (same : ∀ index < 10, byteAt other index = byteAt packet index) :
    headerLen other = headerLen packet := by
  rw [headerLen, headerLen, same 0 (by omega)]

theorem Ipv4Packet.totalLen_congr (same : ∀ index < 10, byteAt other index = byteAt packet index) :
    totalLen other = totalLen packet := by
  rw [totalLen, totalLen, wordAt, wordAt, same 2 (by omega), same 3 (by omega)]

theorem Ipv4Packet.nextHeader_congr
    (same : ∀ index < 10, byteAt other index = byteAt packet index) :
    nextHeader other = nextHeader packet := by
  rw [nextHeader, nextHeader, same 9 (by omega)]

theorem ipv4NewChecked_congr (lengths : smoltcp.ChecksLengths)
    (length : other.length = packet.length)
    (same : ∀ index < 10, byteAt other index = byteAt packet index) :
    smoltcp.ipv4NewChecked other = smoltcp.ipv4NewChecked packet := by
  rw [Bool.eq_iff_iff, lengths.ipv4, lengths.ipv4, Ipv4Packet.headerLen_congr same,
    Ipv4Packet.totalLen_congr same, length]

theorem updateIpv4Transport_eq (edit : Bytes → Bytes) (packet : Bytes) :
    updateIpv4Transport smoltcp edit edit packet =
      if transportChecked smoltcp (Ipv4Packet.nextHeader packet) (Ipv4Packet.payload packet) then
        modifySlice packet (Ipv4Packet.headerLen packet) (Ipv4Packet.totalLen packet) fun segment =>
          fillTransport smoltcp (Ipv4Packet.nextHeader packet) (edit segment)
            (.ipv4 (Ipv4Packet.srcAddr packet)) (.ipv4 (Ipv4Packet.dstAddr packet))
      else packet := by
  unfold updateIpv4Transport
  generalize Ipv4Packet.nextHeader packet = protocol
  cases protocol <;> rfl

def setIpv4Addresses (packet : Bytes) (source destination : Ipv4Address) : Bytes :=
  Ipv4Packet.setSrcAddr (Ipv4Packet.setDstAddr packet destination) source

theorem setIpv4Addresses_changesOnly (packet : Bytes) (source destination : Ipv4Address) :
    ChangesOnly (fun index => 12 ≤ index ∧ index < 20) packet
      (setIpv4Addresses packet source destination) := by
  refine ChangesOnly.trans (changesOnly_writeAt packet _ 16 ?_) (changesOnly_writeAt _ _ 12 ?_)
  · intro index low high
    simp only [Vector.length_toList] at high
    omega
  · intro index low high
    simp only [Vector.length_toList] at high
    omega

theorem setIpv4Addresses_addresses (room : 20 ≤ packet.length) (source destination : Ipv4Address) :
    Ipv4Packet.srcAddr (setIpv4Addresses packet source destination) = source ∧
      Ipv4Packet.dstAddr (setIpv4Addresses packet source destination) = destination := by
  constructor
  · refine ipv4AddressAt_writeAt ?_ source
    rw [Ipv4Packet.setDstAddr, length_writeAt]
    omega
  · refine Eq.trans (ipv4AddressAt_congr ?_)
      (ipv4AddressAt_writeAt (show 16 + 4 ≤ packet.length by omega) destination)
    intro index bound
    exact byteAt_writeAt_of_outside (.inr (by simp))

theorem setSrcAddr_srcAddr (packet : Bytes) :
    Ipv4Packet.setSrcAddr packet (Ipv4Packet.srcAddr packet) = packet := by
  refine writeAt_eq_self ?_
  intro index bound
  rw [Vector.length_toList] at bound
  have octet := byteAt_octets (Ipv4Packet.srcAddr packet).octets ⟨index, bound⟩
  rw [octet]
  simp [Ipv4Packet.srcAddr, ipv4AddressAt]

theorem setIpv4Addresses_srcAddr (packet : Bytes) (destination : Ipv4Address) :
    setIpv4Addresses packet (Ipv4Packet.srcAddr packet) destination =
      Ipv4Packet.setDstAddr packet destination := by
  have same : Ipv4Packet.srcAddr (Ipv4Packet.setDstAddr packet destination) =
      Ipv4Packet.srcAddr packet :=
    ipv4AddressAt_congr fun index bound => byteAt_writeAt_of_outside (.inl (by omega))
  have kept := setSrcAddr_srcAddr (Ipv4Packet.setDstAddr packet destination)
  rwa [same] at kept

end Header

section Fill

variable {smoltcp : Smoltcp} {packet : Bytes} (lengths : smoltcp.ChecksLengths)
  (fills : smoltcp.FillsChecksums) (checked : smoltcp.ipv4NewChecked packet = true)

include fills checked

theorem ipv4FillChecksum_changesOnly :
    ChangesOnly (fun index => 10 ≤ index ∧ index < 12) packet (smoltcp.ipv4FillChecksum packet) := by
  rw [fills.ipv4 packet checked]
  exact changesOnly_writeAt _ _ _ fun index low high => ⟨low, high⟩

theorem ipv4FillChecksum_same :
    ∀ index < 10, byteAt (smoltcp.ipv4FillChecksum packet) index = byteAt packet index :=
  fun index bound => (ipv4FillChecksum_changesOnly fills checked).same index (by omega)

theorem ipv4FillChecksum_addresses :
    Ipv4Packet.srcAddr (smoltcp.ipv4FillChecksum packet) = Ipv4Packet.srcAddr packet ∧
      Ipv4Packet.dstAddr (smoltcp.ipv4FillChecksum packet) = Ipv4Packet.dstAddr packet := by
  have changes := ipv4FillChecksum_changesOnly fills checked
  constructor
  · exact ipv4AddressAt_congr fun index bound => changes.same _ (by omega)
  · exact ipv4AddressAt_congr fun index bound => changes.same _ (by omega)

theorem payload_ipv4FillChecksum (header : 12 ≤ Ipv4Packet.headerLen packet) :
    Ipv4Packet.payload (smoltcp.ipv4FillChecksum packet) = Ipv4Packet.payload packet := by
  have same := ipv4FillChecksum_same fills checked
  rw [Ipv4Packet.payload, Ipv4Packet.headerLen_congr same, Ipv4Packet.totalLen_congr same,
    fills.ipv4 packet checked]
  exact slice_writeAt_of_outside (.inl header)

include lengths in
theorem ipv4FillChecksum_verifies (header : ipv4BaseLen ≤ Ipv4Packet.headerLen packet) :
    Ipv4HeaderVerifies (smoltcp.ipv4FillChecksum packet) := by
  have same := ipv4FillChecksum_same fills checked
  have bounds := (lengths.ipv4 packet).mp checked
  unfold ipv4BaseLen at header
  rw [Ipv4HeaderVerifies, Ipv4Packet.headerLen_congr same, fills.ipv4 packet checked]
  refine ⟨header, ?_⟩
  have verifies := fillAt_verifies 0 (by omega : 10 % 2 = 0) (show 10 + 2 ≤ _ by omega) bounds.2.1
    complement_lt onesSum_add_complement
  rwa [Nat.zero_add] at verifies

end Fill

section Finish

variable {smoltcp : Smoltcp} {packet : Bytes} {edit : Bytes → Bytes}

/-- The header checksum and then the transport, with an edit of the transport in between. -/
def finished (smoltcp : Smoltcp) (edit : Bytes → Bytes) (packet : Bytes) : Bytes :=
  updateIpv4Transport smoltcp edit edit (smoltcp.ipv4FillChecksum packet)

variable (lengths : smoltcp.ChecksLengths) (fills : smoltcp.FillsChecksums)
  (checked : smoltcp.ipv4NewChecked packet = true)
  (header : ipv4BaseLen ≤ Ipv4Packet.headerLen packet)

include fills checked header

theorem finished_eq : finished smoltcp edit packet =
    if transportChecked smoltcp (Ipv4Packet.nextHeader packet) (Ipv4Packet.payload packet) then
      modifySlice (smoltcp.ipv4FillChecksum packet) (Ipv4Packet.headerLen packet)
        (Ipv4Packet.totalLen packet) fun segment =>
          fillTransport smoltcp (Ipv4Packet.nextHeader packet) (edit segment)
            (.ipv4 (Ipv4Packet.srcAddr packet)) (.ipv4 (Ipv4Packet.dstAddr packet))
    else smoltcp.ipv4FillChecksum packet := by
  have same := ipv4FillChecksum_same fills checked
  have addresses := ipv4FillChecksum_addresses fills checked
  unfold ipv4BaseLen at header
  rw [finished, updateIpv4Transport_eq, payload_ipv4FillChecksum fills checked (by omega),
    Ipv4Packet.headerLen_congr same, Ipv4Packet.totalLen_congr same,
    Ipv4Packet.nextHeader_congr same, addresses.1, addresses.2]

theorem slice_ipv4FillChecksum :
    slice (smoltcp.ipv4FillChecksum packet) (Ipv4Packet.headerLen packet)
      (Ipv4Packet.totalLen packet) = Ipv4Packet.payload packet := by
  unfold ipv4BaseLen at header
  have same := ipv4FillChecksum_same fills checked
  have payload := payload_ipv4FillChecksum fills checked (by omega)
  rwa [Ipv4Packet.payload, Ipv4Packet.headerLen_congr same, Ipv4Packet.totalLen_congr same]
    at payload

variable (transport : transportChecked smoltcp (Ipv4Packet.nextHeader packet)
    (Ipv4Packet.payload packet) = true)
  (edited : transportChecked smoltcp (Ipv4Packet.nextHeader packet)
    (edit (Ipv4Packet.payload packet)) = true)
  (editLength : (edit (Ipv4Packet.payload packet)).length = (Ipv4Packet.payload packet).length)

include transport edited editLength

omit checked header transport in
theorem finished_segment_length :
    (fillTransport smoltcp (Ipv4Packet.nextHeader packet) (edit (Ipv4Packet.payload packet))
      (.ipv4 (Ipv4Packet.srcAddr packet)) (.ipv4 (Ipv4Packet.dstAddr packet))).length =
      (Ipv4Packet.payload packet).length :=
  (fillTransport_changesOnly fills edited rfl).length.trans editLength

theorem finished_before (index : Nat) (bound : index < Ipv4Packet.headerLen packet) :
    byteAt (finished smoltcp edit packet) index =
      byteAt (smoltcp.ipv4FillChecksum packet) index := by
  rw [finished_eq fills checked header, if_pos transport]
  refine byteAt_modifySlice_of_outside ?_ (.inl bound)
  rw [slice_ipv4FillChecksum fills checked header]
  exact finished_segment_length fills edited editLength

theorem finished_same (index : Nat) (bound : index < 10) :
    byteAt (finished smoltcp edit packet) index = byteAt packet index := by
  unfold ipv4BaseLen at header
  rw [finished_before fills checked header transport edited editLength index (by omega)]
  exact ipv4FillChecksum_same fills checked index bound

theorem finished_addresses :
    Ipv4Packet.srcAddr (finished smoltcp edit packet) = Ipv4Packet.srcAddr packet ∧
      Ipv4Packet.dstAddr (finished smoltcp edit packet) = Ipv4Packet.dstAddr packet := by
  have before := finished_before fills checked header transport edited editLength
  have addresses := ipv4FillChecksum_addresses fills checked
  unfold ipv4BaseLen at header
  constructor
  · exact (ipv4AddressAt_congr fun index bound => before _ (by omega)).trans addresses.1
  · exact (ipv4AddressAt_congr fun index bound => before _ (by omega)).trans addresses.2

include lengths

theorem finished_payload : Ipv4Packet.payload (finished smoltcp edit packet) =
    fillTransport smoltcp (Ipv4Packet.nextHeader packet) (edit (Ipv4Packet.payload packet))
      (.ipv4 (Ipv4Packet.srcAddr packet)) (.ipv4 (Ipv4Packet.dstAddr packet)) := by
  have same := finished_same fills checked header transport edited editLength
  have bounds := (lengths.ipv4 packet).mp checked
  have filled := slice_ipv4FillChecksum fills checked header
  rw [Ipv4Packet.payload, Ipv4Packet.headerLen_congr same, Ipv4Packet.totalLen_congr same,
    finished_eq fills checked header, if_pos transport, slice_modifySlice, filled]
  · rw [(ipv4FillChecksum_changesOnly fills checked).length]
    exact bounds.2.2.2
  · rw [filled]
    exact finished_segment_length fills edited editLength

theorem finished_header_verifies : Ipv4HeaderVerifies (finished smoltcp edit packet) := by
  have same := finished_same fills checked header transport edited editLength
  have before := finished_before fills checked header transport edited editLength
  have verifies := ipv4FillChecksum_verifies lengths fills checked header
  have fillSame := ipv4FillChecksum_same fills checked
  rw [Ipv4HeaderVerifies, Ipv4Packet.headerLen_congr fillSame] at verifies
  rw [Ipv4HeaderVerifies, Ipv4Packet.headerLen_congr same]
  refine ⟨header, ?_⟩
  have headerBytes : (finished smoltcp edit packet).take (Ipv4Packet.headerLen packet) =
      (smoltcp.ipv4FillChecksum packet).take (Ipv4Packet.headerLen packet) := by
    apply ext_byteAt
    · rw [finished_eq fills checked header, if_pos transport]
      simp
    · intro index bound
      rw [List.length_take] at bound
      rw [byteAt_take, byteAt_take, if_pos (by omega), if_pos (by omega), before _ (by omega)]
  rw [headerBytes]
  exact verifies.2

theorem finished_transport_verifies : Ipv4TransportVerifies (finished smoltcp edit packet) := by
  have same := finished_same fills checked header transport edited editLength
  have addresses := finished_addresses fills checked header transport edited editLength
  rw [Ipv4TransportVerifies, Ipv4Packet.nextHeader_congr same, addresses.1, addresses.2,
    finished_payload lengths fills checked header transport edited editLength,
    coveredLength_fillTransport fills edited rfl]
  exact fillTransport_verifies lengths fills edited rfl

end Finish

section Redirect

variable {smoltcp : Smoltcp} {packet : Bytes}

structure WellFormedIpv4 (smoltcp : Smoltcp) (packet : Bytes) : Prop where
  version : Ipv4Packet.version packet = 4
  unfragmented : UnfragmentedTransport smoltcp packet

/-- A well-formed unfragmented TCP or UDP packet over IPv6, with its transport located. -/
structure WellFormedIpv6 (smoltcp : Smoltcp) (packet : Bytes) (context : TransportContext) :
    Prop where
  located : Located packet context
  transport : transportChecked smoltcp context.protocol
    (slice packet context.offset context.totalLen) = true

structure RedirectedIpv4 (source destination : Ipv4Address) (port : PortRewrite)
    (redirected : Bytes) : Prop where
  sourceSet : Ipv4Packet.srcAddr redirected = source
  destinationSet : Ipv4Packet.dstAddr redirected = destination
  portSet : wordAt (Ipv4Packet.payload redirected) port.offset = port.value.toNat
  header : Ipv4HeaderVerifies redirected
  transport : Ipv4TransportVerifies redirected

structure RedirectedIpv6 (context : TransportContext) (source destination : Ipv6Address)
    (port : PortRewrite) (redirected : Bytes) : Prop where
  sourceSet : Ipv6Packet.srcAddr redirected = source
  destinationSet : Ipv6Packet.dstAddr redirected = destination
  portSet : wordAt (slice redirected context.offset context.totalLen) port.offset =
    port.value.toNat
  transport : TransportVerifies (.ipv6 source) (.ipv6 destination)
    (protocolNumber context.protocol) (coveredTransport redirected context)

/-- The packet was well formed and carries the requested addresses and port. -/
def Redirected (smoltcp : Smoltcp) (packet : Bytes) (source destination : IpAddress)
    (port : PortRewrite) (redirected : Bytes) : Prop :=
  match source, destination with
  | .ipv4 source, .ipv4 destination =>
      WellFormedIpv4 smoltcp packet ∧ RedirectedIpv4 source destination port redirected
  | .ipv6 source, .ipv6 destination =>
      ∃ context, WellFormedIpv6 smoltcp packet context ∧
        RedirectedIpv6 context source destination port redirected
  | _, _ => False

/-- Success means that the packet was redirected, and failure that no byte changed. -/
structure RedirectSound (smoltcp : Smoltcp) (packet : Bytes) (source destination : IpAddress)
    (port : PortRewrite) (result : Except String Unit × Bytes) : Prop where
  succeeded : result.1 = .ok () → Redirected smoltcp packet source destination port result.2
  failed : ∀ error, result.1 = .error error → result.2 = packet

def outboundSource (packet : Bytes) (remoteAddress : IpAddress) (unify : Bool) : IpAddress :=
  match remoteAddress with
  | .ipv4 remote =>
      .ipv4 (if !unify && remote.isLoopback then Ipv4Address.new 127 0 0 1
        else Ipv4Packet.srcAddr packet)
  | .ipv6 remote =>
      .ipv6 (if !unify && remote.isLoopback then Ipv6Address.loopback
        else Ipv6Packet.srcAddr packet)

/-- The target, or the source address of the packet when the addresses are unified. -/
def outboundDestination (packet : Bytes) (remoteAddress : IpAddress) (unify : Bool) : IpAddress :=
  match remoteAddress with
  | .ipv4 remote => .ipv4 (if unify then Ipv4Packet.srcAddr packet else remote)
  | .ipv6 remote => .ipv6 (if unify then Ipv6Packet.srcAddr packet else remote)

def ipv4Rewritten (smoltcp : Smoltcp) (packet : Bytes) (source destination : Ipv4Address)
    (port : PortRewrite) : Bytes :=
  finished smoltcp (setPort port) (setIpv4Addresses packet source destination)

theorem redirectOutboundPacket_ipv4 (remote : Ipv4Address) (port : UInt16) (unify : Bool) :
    redirectOutboundPacket smoltcp packet (.ipv4 remote) port unify =
      (.ok (), if smoltcp.ipv4NewChecked packet then
        ipv4Rewritten smoltcp packet
          (if !unify && remote.isLoopback then Ipv4Address.new 127 0 0 1
            else Ipv4Packet.srcAddr packet)
          (if unify then Ipv4Packet.srcAddr packet else remote) (.destination port)
        else packet) := by
  unfold redirectOutboundPacket
  dsimp only
  split
  · unfold ipv4Rewritten finished
    cases unify with
    | true =>
        simp only [Bool.not_true, Bool.false_and, Bool.false_eq_true, ↓reduceIte,
          setIpv4Addresses_srcAddr]
        rfl
    | false =>
        simp only [Bool.not_false, Bool.true_and, Bool.false_eq_true, ↓reduceIte]
        split
        · rfl
        · rw [setIpv4Addresses_srcAddr]
          rfl
  · rfl

theorem redirectInboundPacket_ipv4 (localAddress remote : Ipv4Address) (port : UInt16) :
    redirectInboundPacket smoltcp packet (.ipv4 localAddress) (.ipv4 remote) port =
      (.ok (), if smoltcp.ipv4NewChecked packet then
        ipv4Rewritten smoltcp packet remote localAddress (.source port) else packet) := by
  unfold redirectInboundPacket
  dsimp only
  split <;> rfl

theorem WellFormedIpv4.congr (lengths : smoltcp.ChecksLengths)
    (wellFormed : WellFormedIpv4 smoltcp packet) {other : Bytes}
    (length : other.length = packet.length)
    (same : ∀ index < 10, byteAt other index = byteAt packet index)
    (transport : transportChecked smoltcp (Ipv4Packet.nextHeader packet)
      (Ipv4Packet.payload other) = true) : WellFormedIpv4 smoltcp other where
  version := by
    rw [Ipv4Packet.version, same 0 (by omega)]
    exact wellFormed.version
  unfragmented := {
    checked := (ipv4NewChecked_congr lengths length same).trans wellFormed.unfragmented.checked
    header := by
      rw [Ipv4Packet.headerLen_congr same]
      exact wellFormed.unfragmented.header
    last := by
      rw [Ipv4Packet.moreFrags, same 6 (by omega)]
      exact wellFormed.unfragmented.last
    first := by
      rw [Ipv4Packet.fragOffset, wordAt, same 6 (by omega), same 7 (by omega)]
      exact wellFormed.unfragmented.first
    transport := by
      rw [Ipv4Packet.nextHeader_congr same]
      exact transport }

theorem WellFormedIpv4.setAddresses (lengths : smoltcp.ChecksLengths)
    (wellFormed : WellFormedIpv4 smoltcp packet) (source destination : Ipv4Address) :
    (∀ index < 10, byteAt (setIpv4Addresses packet source destination) index =
        byteAt packet index) ∧
      Ipv4Packet.payload (setIpv4Addresses packet source destination) =
        Ipv4Packet.payload packet ∧
      WellFormedIpv4 smoltcp (setIpv4Addresses packet source destination) := by
  have long := wellFormed.unfragmented.header
  unfold ipv4BaseLen at long
  have changes := setIpv4Addresses_changesOnly packet source destination
  have same : ∀ index < 10, byteAt (setIpv4Addresses packet source destination) index =
      byteAt packet index := fun index bound => changes.same index (by omega)
  have payload : Ipv4Packet.payload (setIpv4Addresses packet source destination) =
      Ipv4Packet.payload packet := by
    rw [Ipv4Packet.payload, Ipv4Packet.headerLen_congr same, Ipv4Packet.totalLen_congr same,
      setIpv4Addresses, Ipv4Packet.setSrcAddr, Ipv4Packet.setDstAddr,
      slice_writeAt_of_outside (.inl (by simp; omega)),
      slice_writeAt_of_outside (.inl (by simp; omega))]
    rfl
  refine ⟨same, payload, wellFormed.congr lengths changes.length same ?_⟩
  rw [payload]
  exact wellFormed.unfragmented.transport

theorem ipv4Rewritten_parts (lengths : smoltcp.ChecksLengths)
    (fills : smoltcp.FillsChecksums) (wellFormed : WellFormedIpv4 smoltcp packet)
    (source destination : Ipv4Address) (port : PortRewrite) :
    (ipv4Rewritten smoltcp packet source destination port).length = packet.length ∧
      (∀ index < 10, byteAt (ipv4Rewritten smoltcp packet source destination port) index =
        byteAt packet index) ∧
      Ipv4Packet.payload (ipv4Rewritten smoltcp packet source destination port) =
        fillTransport smoltcp (Ipv4Packet.nextHeader packet)
          (setPort port (Ipv4Packet.payload packet)) (.ipv4 source) (.ipv4 destination) := by
  have room : 20 ≤ packet.length :=
    ((lengths.ipv4 packet).mp wellFormed.unfragmented.checked).1
  obtain ⟨same, payload, addressed⟩ := wellFormed.setAddresses lengths source destination
  have unfragmented := addressed.unfragmented
  have edited := (setPort_checked lengths _ port _).trans unfragmented.transport
  have editLength := length_setPort port
    (Ipv4Packet.payload (setIpv4Addresses packet source destination))
  have addresses := setIpv4Addresses_addresses room source destination
  refine ⟨?_, ?_, ?_⟩
  · rw [ipv4Rewritten, finished_eq fills unfragmented.checked unfragmented.header,
      if_pos unfragmented.transport, length_modifySlice,
      (ipv4FillChecksum_changesOnly fills unfragmented.checked).length,
      (setIpv4Addresses_changesOnly packet source destination).length]
  · intro index bound
    exact (finished_same fills unfragmented.checked unfragmented.header unfragmented.transport
      edited editLength index bound).trans (same index bound)
  · rw [ipv4Rewritten, finished_payload lengths fills unfragmented.checked unfragmented.header
      unfragmented.transport edited editLength, payload, addresses.1, addresses.2,
      Ipv4Packet.nextHeader_congr same]

theorem ipv4Rewritten_redirected (lengths : smoltcp.ChecksLengths)
    (fills : smoltcp.FillsChecksums) (wellFormed : WellFormedIpv4 smoltcp packet)
    (source destination : Ipv4Address) (port : PortRewrite) :
    RedirectedIpv4 source destination port
      (ipv4Rewritten smoltcp packet source destination port) := by
  have room : 20 ≤ packet.length :=
    ((lengths.ipv4 packet).mp wellFormed.unfragmented.checked).1
  obtain ⟨-, -, addressed⟩ := wellFormed.setAddresses lengths source destination
  have unfragmented := addressed.unfragmented
  have edited := (setPort_checked lengths _ port _).trans unfragmented.transport
  have editLength := length_setPort port
    (Ipv4Packet.payload (setIpv4Addresses packet source destination))
  have addresses := setIpv4Addresses_addresses room source destination
  have kept := finished_addresses fills unfragmented.checked unfragmented.header
    unfragmented.transport edited editLength
  exact {
    sourceSet := kept.1.trans addresses.1
    destinationSet := kept.2.trans addresses.2
    portSet := by
      rw [ipv4Rewritten, finished_payload lengths fills unfragmented.checked unfragmented.header
        unfragmented.transport edited editLength]
      exact wordAt_fillTransport_setPort lengths fills unfragmented.transport port rfl
    header := finished_header_verifies lengths fills unfragmented.checked unfragmented.header
      unfragmented.transport edited editLength
    transport := finished_transport_verifies lengths fills unfragmented.checked
      unfragmented.header unfragmented.transport edited editLength }

/-- The IPv4 path reports success for every packet, so it is sound for well-formed ones only. -/
theorem ipv4_redirectSound_iff (lengths : smoltcp.ChecksLengths) (fills : smoltcp.FillsChecksums)
    (source destination : Ipv4Address) (port : PortRewrite) :
    RedirectSound smoltcp packet (.ipv4 source) (.ipv4 destination) port
        (.ok (), if smoltcp.ipv4NewChecked packet then
          ipv4Rewritten smoltcp packet source destination port else packet) ↔
      WellFormedIpv4 smoltcp packet := by
  constructor
  · intro sound
    exact (sound.succeeded rfl).1
  · intro wellFormed
    refine ⟨?_, fun error failed => (nomatch failed)⟩
    intro _
    rw [if_pos wellFormed.unfragmented.checked]
    exact ⟨wellFormed,
      ipv4Rewritten_redirected lengths fills wellFormed source destination port⟩

theorem ipv6_redirectSound (lengths : smoltcp.ChecksLengths) (fills : smoltcp.FillsChecksums)
    (source destination : Ipv6Address) (port : PortRewrite) :
    RedirectSound smoltcp packet (.ipv6 source) (.ipv6 destination) port
      ((rewriteIpv6TcpUdp smoltcp packet source destination port).1.mapError
          Ipv6TransportError.toString,
        (rewriteIpv6TcpUdp smoltcp packet source destination port).2) := by
  rcases rewriteIpv6TcpUdp_eq lengths source destination port with
    ⟨error, result⟩ | ⟨context, found, checked, result⟩
  · rw [result]
    exact ⟨fun ok => (nomatch ok), fun _ _ => rfl⟩
  · have located := transportContext_located lengths found
    have addresses := rewritten_addresses lengths fills located checked source destination port
    rw [result]
    refine ⟨fun _ => ⟨context, ⟨located, checked⟩, ?_⟩, fun _ failed => (nomatch failed)⟩
    exact {
      sourceSet := addresses.1
      destinationSet := addresses.2
      portSet := rewritten_port lengths fills located checked source destination port
      transport := rewritten_verifies lengths fills located checked source destination port }

theorem redirectOutboundPacket_sound_iff (lengths : smoltcp.ChecksLengths)
    (fills : smoltcp.FillsChecksums) (remoteAddress : IpAddress) (port : UInt16) (unify : Bool) :
    RedirectSound smoltcp packet (outboundSource packet remoteAddress unify)
        (outboundDestination packet remoteAddress unify) (.destination port)
        (redirectOutboundPacket smoltcp packet remoteAddress port unify) ↔
      ∀ address, remoteAddress = .ipv4 address → WellFormedIpv4 smoltcp packet := by
  cases remoteAddress with
  | ipv4 remote =>
      rw [redirectOutboundPacket_ipv4, outboundSource, outboundDestination,
        ipv4_redirectSound_iff lengths fills]
      exact ⟨fun wellFormed _ _ => wellFormed, fun wellFormed => wellFormed remote rfl⟩
  | ipv6 remote =>
      refine ⟨fun _ _ impossible => (nomatch impossible), fun _ => ?_⟩
      unfold redirectOutboundPacket
      dsimp only
      split
      · exact ipv6_redirectSound lengths fills _ _ _
      · exact ⟨fun ok => (nomatch ok), fun _ _ => rfl⟩

theorem redirectInboundPacket_sound_iff (lengths : smoltcp.ChecksLengths)
    (fills : smoltcp.FillsChecksums) (localAddress remoteAddress : IpAddress) (port : UInt16) :
    RedirectSound smoltcp packet remoteAddress localAddress (.source port)
        (redirectInboundPacket smoltcp packet localAddress remoteAddress port) ↔
      ∀ first second, localAddress = .ipv4 first → remoteAddress = .ipv4 second →
        WellFormedIpv4 smoltcp packet := by
  cases localAddress with
  | ipv4 first =>
      cases remoteAddress with
      | ipv4 second =>
          rw [redirectInboundPacket_ipv4, ipv4_redirectSound_iff lengths fills]
          exact ⟨fun wellFormed _ _ _ _ => wellFormed,
            fun wellFormed => wellFormed first second rfl rfl⟩
      | ipv6 second =>
          refine ⟨fun _ _ _ _ impossible => (nomatch impossible), fun _ => ?_⟩
          exact ⟨fun ok => (nomatch ok), fun _ _ => rfl⟩
  | ipv6 first =>
      refine ⟨fun _ _ _ impossible => (nomatch impossible), fun _ => ?_⟩
      cases remoteAddress with
      | ipv4 second => exact ⟨fun ok => (nomatch ok), fun _ _ => rfl⟩
      | ipv6 second => exact ipv6_redirectSound lengths fills _ _ _

end Redirect

section Recalculate

variable {smoltcp : Smoltcp} {packet : Bytes}

def InIpv4TransportChecksum (packet : Bytes) (index : Nat) : Prop :=
  Ipv4Packet.headerLen packet + checksumField (Ipv4Packet.nextHeader packet) ≤ index ∧
    index < Ipv4Packet.headerLen packet + checksumField (Ipv4Packet.nextHeader packet) + 2

/-- Only checksums that can be computed change, and those that changed verify. -/
structure RecalculationFramed (smoltcp : Smoltcp) (packet recalculated : Bytes) : Prop where
  frame : ChangesOnly (fun index => (10 ≤ index ∧ index < 12) ∨
    (UnfragmentedTransport smoltcp packet ∧ InIpv4TransportChecksum packet index))
    packet recalculated
  header : wordAt recalculated 10 ≠ wordAt packet 10 → Ipv4HeaderVerifies recalculated
  transport : UnfragmentedTransport smoltcp packet → Ipv4TransportVerifies recalculated

/-- A transport segment, if there is one, holds the checksum that the library computes. -/
def TransportStored (smoltcp : Smoltcp) (packet : Bytes) : Prop :=
  transportChecked smoltcp (Ipv4Packet.nextHeader packet) (Ipv4Packet.payload packet) = true →
    fillTransport smoltcp (Ipv4Packet.nextHeader packet) (Ipv4Packet.payload packet)
      (.ipv4 (Ipv4Packet.srcAddr packet)) (.ipv4 (Ipv4Packet.dstAddr packet)) =
      Ipv4Packet.payload packet

/-- With a header length of four bytes the UDP checksum lies on the header checksum. -/
def SharedField (smoltcp : Smoltcp) (packet : Bytes) : Prop :=
  Ipv4Packet.headerLen packet = 4 ∧ Ipv4Packet.nextHeader packet = .udp ∧
    transportChecked smoltcp (Ipv4Packet.nextHeader packet) (Ipv4Packet.payload packet) = true

/-- When the recalculation writes only what it can compute. -/
structure RecalculationSafe (smoltcp : Smoltcp) (packet : Bytes) : Prop where
  complete : ipv4BaseLen ≤ Ipv4Packet.headerLen packet →
    (Ipv4Packet.moreFrags packet = false ∧ Ipv4Packet.fragOffset packet = 0) ∨
      TransportStored smoltcp packet
  short : Ipv4Packet.headerLen packet < ipv4BaseLen →
    TransportStored smoltcp packet ∧
      (smoltcp.ipv4FillChecksum packet = packet ∨ SharedField smoltcp packet)

theorem recalcHeaderChecksums_ipv4 (packet : Bytes) :
    recalcHeaderChecksums smoltcp packet false =
      (.ok (), if smoltcp.ipv4NewChecked packet then finished smoltcp id packet else packet) := by
  unfold recalcHeaderChecksums
  rw [if_neg Bool.false_ne_true]
  split <;> rfl

theorem modifySlice_eq_self {bytes : Bytes} {start stop : Nat} {update : Bytes → Bytes}
    (same : update (slice bytes start stop) = slice bytes start stop) :
    modifySlice bytes start stop update = bytes := by
  rw [modifySlice, same]
  refine writeAt_eq_self ?_
  intro index bound
  rw [length_slice] at bound
  rw [byteAt_slice, if_pos (by omega)]

variable (lengths : smoltcp.ChecksLengths) (fills : smoltcp.FillsChecksums)
  (checked : smoltcp.ipv4NewChecked packet = true)

include lengths fills checked

theorem finished_framed_of_unchecked (header : ipv4BaseLen ≤ Ipv4Packet.headerLen packet)
    (same : finished smoltcp id packet = smoltcp.ipv4FillChecksum packet)
    (transport : UnfragmentedTransport smoltcp packet →
      Ipv4TransportVerifies (finished smoltcp id packet)) :
    RecalculationFramed smoltcp packet (finished smoltcp id packet) := by
  refine ⟨?_, fun _ => ?_, transport⟩
  · rw [same]
    exact (ipv4FillChecksum_changesOnly fills checked).mono fun _ inside => .inl inside
  · rw [same]
    exact ipv4FillChecksum_verifies lengths fills checked header

theorem finished_framed_iff_of_complete (header : ipv4BaseLen ≤ Ipv4Packet.headerLen packet) :
    RecalculationFramed smoltcp packet (finished smoltcp id packet) ↔
      (Ipv4Packet.moreFrags packet = false ∧ Ipv4Packet.fragOffset packet = 0) ∨
        TransportStored smoltcp packet := by
  have bounds := (lengths.ipv4 packet).mp checked
  have long := header
  unfold ipv4BaseLen at long
  have filled := slice_ipv4FillChecksum fills checked header
  by_cases transport : transportChecked smoltcp (Ipv4Packet.nextHeader packet)
      (Ipv4Packet.payload packet) = true
  · have verifies : Ipv4TransportVerifies (finished smoltcp id packet) :=
      finished_transport_verifies lengths fills checked header transport transport rfl
    have headerVerifies : Ipv4HeaderVerifies (finished smoltcp id packet) :=
      finished_header_verifies lengths fills checked header transport transport rfl
    constructor
    · intro framed
      by_cases unfragmented : Ipv4Packet.moreFrags packet = false ∧
          Ipv4Packet.fragOffset packet = 0
      · exact .inl unfragmented
      -- A fragment keeps its payload, so the computed checksum was stored before.
      · refine .inr fun _ => ?_
        have same : ∀ index < 10, byteAt (finished smoltcp id packet) index =
            byteAt packet index := finished_same fills checked header transport transport rfl
        have payload : Ipv4Packet.payload (finished smoltcp id packet) =
            fillTransport smoltcp (Ipv4Packet.nextHeader packet) (Ipv4Packet.payload packet)
              (.ipv4 (Ipv4Packet.srcAddr packet)) (.ipv4 (Ipv4Packet.dstAddr packet)) :=
          finished_payload lengths fills checked header transport transport rfl
        rw [← payload, Ipv4Packet.payload, Ipv4Packet.headerLen_congr same,
          Ipv4Packet.totalLen_congr same, Ipv4Packet.payload]
        apply ext_byteAt
        · rw [length_slice, length_slice, framed.frame.length]
        · intro index _
          rw [byteAt_slice, byteAt_slice]
          split
          · refine framed.frame.same _ ?_
            rintro (inHeader | ⟨whole, _⟩)
            · omega
            · exact unfragmented ⟨whole.last, whole.first⟩
          · rfl
    · rintro (⟨last, first⟩ | stored)
      · have whole : UnfragmentedTransport smoltcp packet :=
          ⟨checked, header, last, first, transport⟩
        refine ⟨?_, fun _ => headerVerifies, fun _ => verifies⟩
        refine ChangesOnly.trans ((ipv4FillChecksum_changesOnly fills checked).mono
          fun _ inside => .inl inside) ?_
        rw [finished_eq fills checked header, if_pos transport]
        refine changesOnly_modifySlice
          ((ipv4FillChecksum_changesOnly fills checked).length ▸ bounds.2.2.2) ?_
        rw [filled]
        refine (fillTransport_changesOnly fills transport rfl).mono ?_
        rintro index ⟨low, high⟩
        exact .inr ⟨whole, by omega, by omega⟩
      · refine finished_framed_of_unchecked lengths fills checked header ?_ fun _ => verifies
        rw [finished_eq fills checked header, if_pos transport]
        refine modifySlice_eq_self ?_
        rw [filled]
        exact stored transport
  · have same : finished smoltcp id packet = smoltcp.ipv4FillChecksum packet := by
      rw [finished_eq fills checked header, if_neg transport]
    refine ⟨fun _ => .inr fun present => absurd present transport, fun _ => ?_⟩
    exact finished_framed_of_unchecked lengths fills checked header same
      fun whole => absurd whole.transport transport

omit lengths fills checked in
theorem recalculationFramed_refl (fragment : ¬ UnfragmentedTransport smoltcp packet) :
    RecalculationFramed smoltcp packet packet :=
  ⟨.refl _ packet, fun changed => absurd rfl changed, fun whole => absurd whole fragment⟩

omit lengths fills checked in
/-- A header below 20 bytes has no checksum that verifies, so nothing may change. -/
theorem recalculationFramed_short_iff (short : Ipv4Packet.headerLen packet < ipv4BaseLen)
    (recalculated : Bytes) :
    RecalculationFramed smoltcp packet recalculated ↔ recalculated = packet := by
  have fragment : ¬ UnfragmentedTransport smoltcp packet :=
    fun whole => absurd whole.header (by omega)
  constructor
  · intro framed
    have outside : ∀ index, index < 10 ∨ 12 ≤ index →
        byteAt recalculated index = byteAt packet index := by
      intro index apart
      refine framed.frame.same index ?_
      rintro (inside | ⟨whole, _⟩)
      · omega
      · exact fragment whole
    have field : wordAt recalculated 10 = wordAt packet 10 := by
      by_cases same : wordAt recalculated 10 = wordAt packet 10
      · exact same
      · have header := (framed.header same).1
        rw [Ipv4Packet.headerLen_congr fun index bound => outside index (.inl bound)] at header
        omega
    have bytes := byteAt_eq_of_wordAt_eq field
    apply ext_byteAt framed.frame.length
    intro index _
    by_cases inside : 10 ≤ index ∧ index < 12
    · obtain rfl | rfl : index = 10 ∨ index = 11 := by omega
      · exact bytes.1
      · exact bytes.2
    · exact outside index (by omega)
  · rintro rfl
    exact recalculationFramed_refl fragment

theorem transportChecked_ipv4FillChecksum :
    transportChecked smoltcp (Ipv4Packet.nextHeader packet)
        (slice (smoltcp.ipv4FillChecksum packet) (Ipv4Packet.headerLen packet)
          (Ipv4Packet.totalLen packet)) =
      transportChecked smoltcp (Ipv4Packet.nextHeader packet) (Ipv4Packet.payload packet) := by
  have changes := ipv4FillChecksum_changesOnly fills checked
  refine transportChecked_congr lengths ?_ ?_
  · rw [Ipv4Packet.payload, length_slice, length_slice, changes.length]
  · intro index low high
    have words : Ipv4Packet.headerLen packet % 4 = 0 := by
      unfold Ipv4Packet.headerLen
      omega
    rw [Ipv4Packet.payload, byteAt_slice, byteAt_slice]
    split
    · exact changes.same _ (by omega)
    · rfl

omit lengths in
/-- The shared field is written twice, and the UDP checksum does not depend on the first write. -/
theorem fillTransport_ipv4FillChecksum_of_shared (lengths : smoltcp.ChecksLengths)
    (shared : SharedField smoltcp packet) (source destination : IpAddress)
    (family : sameFamily source destination = true) :
    fillTransport smoltcp (Ipv4Packet.nextHeader packet)
        (slice (smoltcp.ipv4FillChecksum packet) (Ipv4Packet.headerLen packet)
          (Ipv4Packet.totalLen packet)) source destination =
      fillTransport smoltcp (Ipv4Packet.nextHeader packet) (Ipv4Packet.payload packet) source
        destination := by
  obtain ⟨header, protocol, transport⟩ := shared
  have bounds := (lengths.ipv4 packet).mp checked
  have filledChecked := transportChecked_ipv4FillChecksum lengths fills checked
  rw [transport] at filledChecked
  have room := transportChecked_bounds lengths transport
  rw [protocol] at room transport filledChecked ⊢
  simp only [checksumField, ↓reduceIte, Ipv4Packet.payload, length_slice, header] at room
  have written : slice (smoltcp.ipv4FillChecksum packet) (Ipv4Packet.headerLen packet)
      (Ipv4Packet.totalLen packet) = writeAt (Ipv4Packet.payload packet) 6
        (wordBytes (complement (0 + sumWords ((writeAt packet 10 (wordBytes 0)).take
          (Ipv4Packet.headerLen packet))))) := by
    rw [fills.ipv4 packet checked, fillAt, header, Ipv4Packet.payload, header]
    rw [show 10 = 4 + 6 from rfl]
    refine slice_writeAt ?_ bounds.2.2.2 ?_
    · omega
    · rw [length_wordBytes]
      omega
  have length : UdpPacket.len (slice (smoltcp.ipv4FillChecksum packet)
      (Ipv4Packet.headerLen packet) (Ipv4Packet.totalLen packet)) =
        UdpPacket.len (Ipv4Packet.payload packet) := by
    rw [written]
    exact wordAt_writeAt_of_outside (.inl (by omega))
  have first := fills.udp _ source destination filledChecked family
  have second := fills.udp _ source destination transport family
  simp only [fillTransport]
  rw [first, second, length, written, fillAt_writeAt]

def refill (smoltcp : Smoltcp) (packet segment : Bytes) : Bytes :=
  fillTransport smoltcp (Ipv4Packet.nextHeader packet) segment
    (.ipv4 (Ipv4Packet.srcAddr packet)) (.ipv4 (Ipv4Packet.dstAddr packet))

theorem finished_eq_refill : finished smoltcp id packet =
    if transportChecked smoltcp (Ipv4Packet.nextHeader packet) (Ipv4Packet.payload packet) then
      modifySlice (smoltcp.ipv4FillChecksum packet) (Ipv4Packet.headerLen packet)
        (Ipv4Packet.totalLen packet) (refill smoltcp packet)
    else smoltcp.ipv4FillChecksum packet := by
  have same := ipv4FillChecksum_same fills checked
  have addresses := ipv4FillChecksum_addresses fills checked
  rw [finished, updateIpv4Transport_eq, Ipv4Packet.payload, Ipv4Packet.headerLen_congr same,
    Ipv4Packet.totalLen_congr same, Ipv4Packet.nextHeader_congr same, addresses.1, addresses.2,
    transportChecked_ipv4FillChecksum lengths fills checked]
  rfl

theorem ipv4FillChecksum_eq_of_modifySlice_eq (short : Ipv4Packet.headerLen packet < ipv4BaseLen)
    (apart : ¬ (Ipv4Packet.headerLen packet = 4 ∧ Ipv4Packet.nextHeader packet = .udp))
    (filledChecked : transportChecked smoltcp (Ipv4Packet.nextHeader packet)
      (slice (smoltcp.ipv4FillChecksum packet) (Ipv4Packet.headerLen packet)
        (Ipv4Packet.totalLen packet)) = true)
    (kept : modifySlice (smoltcp.ipv4FillChecksum packet) (Ipv4Packet.headerLen packet)
      (Ipv4Packet.totalLen packet) (refill smoltcp packet) = packet) :
    smoltcp.ipv4FillChecksum packet = packet := by
  have bounds := (lengths.ipv4 packet).mp checked
  have changes := ipv4FillChecksum_changesOnly fills checked
  have words : Ipv4Packet.headerLen packet % 4 = 0 := by
    unfold Ipv4Packet.headerLen
    omega
  unfold ipv4BaseLen at short
  have outside : ChangesOnly (InIpv4TransportChecksum packet) (smoltcp.ipv4FillChecksum packet)
      packet := by
    have written : ChangesOnly (InIpv4TransportChecksum packet)
        (smoltcp.ipv4FillChecksum packet)
        (modifySlice (smoltcp.ipv4FillChecksum packet) (Ipv4Packet.headerLen packet)
          (Ipv4Packet.totalLen packet) (refill smoltcp packet)) := by
      refine changesOnly_modifySlice (changes.length ▸ bounds.2.2.2) ?_
      refine (fillTransport_changesOnly fills filledChecked rfl).mono ?_
      rintro offset ⟨low, high⟩
      exact ⟨by omega, by omega⟩
    rwa [kept] at written
  apply ext_byteAt changes.length
  intro index _
  by_cases field : 10 ≤ index ∧ index < 12
  · refine (outside.same index ?_).symm
    rintro ⟨low, high⟩
    unfold checksumField at low high
    by_cases udp : Ipv4Packet.nextHeader packet = .udp
    · rw [if_pos udp] at low high
      exact apart ⟨by omega, udp⟩
    · rw [if_neg udp] at low
      omega
  · exact changes.same index (by omega)

theorem modifySlice_eq_of_shared (shared : SharedField smoltcp packet)
    (stored : TransportStored smoltcp packet) :
    modifySlice (smoltcp.ipv4FillChecksum packet) (Ipv4Packet.headerLen packet)
      (Ipv4Packet.totalLen packet) (refill smoltcp packet) = packet := by
  have bounds := (lengths.ipv4 packet).mp checked
  have changes := ipv4FillChecksum_changesOnly fills checked
  have overwritten : refill smoltcp packet (slice (smoltcp.ipv4FillChecksum packet)
      (Ipv4Packet.headerLen packet) (Ipv4Packet.totalLen packet)) = Ipv4Packet.payload packet :=
    (fillTransport_ipv4FillChecksum_of_shared fills checked lengths shared _ _ rfl).trans
      (stored shared.2.2)
  have room := transportChecked_bounds lengths shared.2.2
  obtain ⟨header, protocol, _⟩ := shared
  rw [protocol] at room
  have length : (Ipv4Packet.payload packet).length =
      Ipv4Packet.totalLen packet - Ipv4Packet.headerLen packet := by
    rw [Ipv4Packet.payload, length_slice, Nat.min_eq_left bounds.2.2.2]
  simp only [checksumField, ↓reduceIte] at room
  rw [modifySlice, overwritten]
  apply ext_byteAt (by rw [length_writeAt, changes.length])
  intro index _
  rw [byteAt_writeAt (by rw [changes.length]; omega)]
  split
  · rw [Ipv4Packet.payload, byteAt_slice, if_pos (by omega)]
    congr 1
    omega
  · exact changes.same index (by omega)

theorem finished_eq_self_iff (short : Ipv4Packet.headerLen packet < ipv4BaseLen) :
    finished smoltcp id packet = packet ↔
      TransportStored smoltcp packet ∧
        (smoltcp.ipv4FillChecksum packet = packet ∨ SharedField smoltcp packet) := by
  have filledChecked := transportChecked_ipv4FillChecksum lengths fills checked
  rw [finished_eq_refill lengths fills checked]
  by_cases transport : transportChecked smoltcp (Ipv4Packet.nextHeader packet)
      (Ipv4Packet.payload packet) = true
  · rw [if_pos transport]
    rw [transport] at filledChecked
    constructor
    · intro kept
      refine ⟨fun _ => ?_, ?_⟩
      · have inside : Ipv4Packet.totalLen packet ≤ (smoltcp.ipv4FillChecksum packet).length :=
          (ipv4FillChecksum_changesOnly fills checked).length ▸
            ((lengths.ipv4 packet).mp checked).2.2.2
        have segment : slice (modifySlice (smoltcp.ipv4FillChecksum packet)
            (Ipv4Packet.headerLen packet) (Ipv4Packet.totalLen packet) (refill smoltcp packet))
            (Ipv4Packet.headerLen packet) (Ipv4Packet.totalLen packet) =
              refill smoltcp packet (slice (smoltcp.ipv4FillChecksum packet)
                (Ipv4Packet.headerLen packet) (Ipv4Packet.totalLen packet)) :=
          slice_modifySlice inside (fillTransport_changesOnly fills filledChecked rfl).length
        rw [kept] at segment
        rw [Ipv4Packet.payload, segment]
        exact fillTransport_fillTransport lengths fills filledChecked rfl
      · by_cases shared : Ipv4Packet.headerLen packet = 4 ∧ Ipv4Packet.nextHeader packet = .udp
        · exact .inr ⟨shared.1, shared.2, transport⟩
        · exact .inl (ipv4FillChecksum_eq_of_modifySlice_eq lengths fills checked short shared
            filledChecked kept)
    · rintro ⟨stored, same | shared⟩
      · rw [same]
        exact modifySlice_eq_self (stored transport)
      · exact modifySlice_eq_of_shared lengths fills checked shared stored
  · rw [if_neg transport]
    refine ⟨fun kept => ⟨fun present => absurd present transport, .inl kept⟩, ?_⟩
    rintro ⟨_, kept | shared⟩
    · exact kept
    · exact absurd shared.2.2 transport

omit checked in
theorem recalcHeaderChecksums_framed_iff (packet : Bytes) :
    RecalculationFramed smoltcp packet (recalcHeaderChecksums smoltcp packet false).2 ↔
      (smoltcp.ipv4NewChecked packet = true → RecalculationSafe smoltcp packet) := by
  rw [recalcHeaderChecksums_ipv4]
  by_cases checked : smoltcp.ipv4NewChecked packet = true
  · rw [if_pos checked]
    by_cases header : ipv4BaseLen ≤ Ipv4Packet.headerLen packet
    · rw [finished_framed_iff_of_complete lengths fills checked header]
      exact ⟨fun complete _ => ⟨fun _ => complete, fun short => absurd header (by omega)⟩,
        fun safe => (safe checked).complete header⟩
    · have short : Ipv4Packet.headerLen packet < ipv4BaseLen := by omega
      rw [recalculationFramed_short_iff short, finished_eq_self_iff lengths fills checked short]
      exact ⟨fun stored _ => ⟨fun complete => absurd complete header, fun _ => stored⟩,
        fun safe => (safe checked).short short⟩
  · rw [if_neg checked]
    refine ⟨fun _ present => absurd present checked, fun _ => recalculationFramed_refl ?_⟩
    exact fun whole => checked whole.checked

end Recalculate

end WindowsKext
