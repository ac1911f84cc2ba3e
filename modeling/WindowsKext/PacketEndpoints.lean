import WindowsKext.PacketMetadataChecks
import WindowsKext.PacketUtilChecks

/-! The endpoints that a well-formed packet carries: what the inspector reads, what a rewrite
sets, and what the reply of the receiver carries. -/

namespace WindowsKext

open ByteString

/-- A well-formed IPv4 packet from the local to the remote endpoint of a key. -/
structure CarriesIpv4 (smoltcp : Smoltcp) (packet : Bytes) (key : Key) : Prop where
  wellFormed : WellFormedIpv4 smoltcp packet
  protocol : key.protocol = Ipv4Packet.nextHeader packet
  localAddress : key.localAddress = .ipv4 (Ipv4Packet.srcAddr packet)
  localPort : wordAt (Ipv4Packet.payload packet) 0 = key.localPort.toNat
  remoteAddress : key.remoteAddress = .ipv4 (Ipv4Packet.dstAddr packet)
  remotePort : wordAt (Ipv4Packet.payload packet) 2 = key.remotePort.toNat

structure CarriesIpv6 (smoltcp : Smoltcp) (packet : Bytes) (context : TransportContext)
    (key : Key) : Prop where
  wellFormed : WellFormedIpv6 smoltcp packet context
  protocol : key.protocol = context.protocol
  localAddress : key.localAddress = .ipv6 (Ipv6Packet.srcAddr packet)
  localPort : wordAt (slice packet context.offset context.totalLen) 0 = key.localPort.toNat
  remoteAddress : key.remoteAddress = .ipv6 (Ipv6Packet.dstAddr packet)
  remotePort : wordAt (slice packet context.offset context.totalLen) 2 = key.remotePort.toNat

/-- A well-formed unfragmented TCP or UDP packet from the local to the remote endpoint of a key. -/
inductive Carries (smoltcp : Smoltcp) (packet : Bytes) (key : Key) : Prop where
  | ipv4 (carries : CarriesIpv4 smoltcp packet key)
  | ipv6 (context : TransportContext) (carries : CarriesIpv6 smoltcp packet context key)

def PortRewrite.apply (port : PortRewrite) (key : Key) : Key :=
  match port with
  | .source value => { key with localPort := value }
  | .destination value => { key with remotePort := value }

def swapPorts (segment : Bytes) : Bytes :=
  writeAt (writeAt segment 0 (wordBytes (wordAt segment 2))) 2 (wordBytes (wordAt segment 0))

section Segments

variable {smoltcp : Smoltcp} {protocol : IpProtocol} {segment : Bytes}

theorem transportChecked_length (lengths : smoltcp.ChecksLengths)
    (checked : transportChecked smoltcp protocol segment = true) : 8 ≤ segment.length := by
  have bounds := transportChecked_bounds lengths checked
  unfold checksumField at bounds
  split at bounds <;> omega

theorem wordAt_fillTransport_otherPort (lengths : smoltcp.ChecksLengths)
    (fills : smoltcp.FillsChecksums) (checked : transportChecked smoltcp protocol segment = true)
    (port : PortRewrite) (source destination : IpAddress)
    (family : sameFamily source destination = true) :
    wordAt (fillTransport smoltcp protocol (setPort port segment) source destination)
      (2 - port.offset) = wordAt segment (2 - port.offset) := by
  have filled := fillTransport_changesOnly fills
    ((setPort_checked lengths protocol port segment).trans checked) family
  have outside (index : Nat) (bound : index < 4) : ¬ InChecksum protocol index := by
    unfold InChecksum checksumField
    split <;> omega
  have offset : port.offset = 0 ∨ port.offset = 2 := by cases port <;> simp [PortRewrite.offset]
  rw [wordAt, filled.same _ (outside _ (by omega)), filled.same _ (outside _ (by omega)),
    setPort_eq, ← wordAt, wordAt_writeAt_of_outside]
  rw [length_wordBytes]
  omega

theorem length_swapPorts (segment : Bytes) : (swapPorts segment).length = segment.length := by
  rw [swapPorts, length_writeAt, length_writeAt]

theorem byteAt_swapPorts {index : Nat} (past : 4 ≤ index) :
    byteAt (swapPorts segment) index = byteAt segment index := by
  rw [swapPorts, byteAt_writeAt_of_outside (.inr (by simpa using past)),
    byteAt_writeAt_of_outside (.inr (by rw [length_wordBytes]; omega))]

theorem wordAt_swapPorts (long : 4 ≤ segment.length) :
    wordAt (swapPorts segment) 0 = wordAt segment 2 ∧
      wordAt (swapPorts segment) 2 = wordAt segment 0 := by
  constructor
  · rw [swapPorts, wordAt_writeAt_of_outside (.inl (by omega))]
    exact wordAt_writeAt_self (by omega) (wordAt_lt _ _)
  · exact wordAt_writeAt_self (by rw [length_writeAt]; omega) (wordAt_lt _ _)

theorem swapPorts_checked (lengths : smoltcp.ChecksLengths)
    (checked : transportChecked smoltcp protocol segment = true) :
    transportChecked smoltcp protocol (swapPorts segment) = true := by
  rw [transportChecked_congr lengths (length_swapPorts segment), checked]
  intro index low high
  exact byteAt_swapPorts low

theorem getPorts_of_checked (lengths : smoltcp.ChecksLengths)
    (checked : transportChecked smoltcp protocol segment = true) {first second : UInt16}
    (source : wordAt segment 0 = first.toNat) (destination : wordAt segment 2 = second.toNat) :
    getPorts segment protocol = (first, second) := by
  have long := transportChecked_length lengths checked
  have kept : ¬ (!(protocol == .tcp || protocol == .udp) || segment.length < 4) = true := by
    rcases transportChecked_protocol checked with rfl | rfl <;> simp <;> omega
  rw [getPorts, if_neg kept, portAt, portAt, source, destination, UInt16.ofNat_toNat,
    UInt16.ofNat_toNat]

end Segments

/-- The packet of a receiver that answers with the payload it got. -/
def swapIpv4Endpoints (packet : Bytes) : Bytes :=
  modifySlice (setIpv4Addresses packet (Ipv4Packet.dstAddr packet) (Ipv4Packet.srcAddr packet))
    (Ipv4Packet.headerLen packet) (Ipv4Packet.totalLen packet) swapPorts

section Ipv4

variable {smoltcp : Smoltcp} {packet : Bytes} {key : Key}

theorem CarriesIpv4.rewritten (lengths : smoltcp.ChecksLengths) (fills : smoltcp.FillsChecksums)
    (carries : CarriesIpv4 smoltcp packet key) (source destination : Ipv4Address)
    (port : PortRewrite) :
    CarriesIpv4 smoltcp (ipv4Rewritten smoltcp packet source destination port)
      (port.apply { key with
        localAddress := .ipv4 source
        remoteAddress := .ipv4 destination }) := by
  have transport := carries.wellFormed.unfragmented.transport
  obtain ⟨length, same, payload⟩ :=
    ipv4Rewritten_parts lengths fills carries.wellFormed source destination port
  have redirected :=
    ipv4Rewritten_redirected lengths fills carries.wellFormed source destination port
  have kept := wordAt_fillTransport_otherPort lengths fills transport port (.ipv4 source)
    (.ipv4 destination) rfl
  have set := redirected.portSet
  rw [← payload] at kept
  have wellFormed : WellFormedIpv4 smoltcp
      (ipv4Rewritten smoltcp packet source destination port) := by
    refine carries.wellFormed.congr lengths length same ?_
    rw [payload]
    exact fillTransport_checked lengths fills
      ((setPort_checked lengths _ port _).trans transport) rfl
  have protocol := carries.protocol.trans (Ipv4Packet.nextHeader_congr same).symm
  cases port with
  | source value =>
      exact ⟨wellFormed, protocol, congrArg IpAddress.ipv4 redirected.sourceSet.symm, set,
        congrArg IpAddress.ipv4 redirected.destinationSet.symm, kept.trans carries.remotePort⟩
  | destination value =>
      exact ⟨wellFormed, protocol, congrArg IpAddress.ipv4 redirected.sourceSet.symm,
        kept.trans carries.localPort, congrArg IpAddress.ipv4 redirected.destinationSet.symm, set⟩

theorem CarriesIpv4.swapped (lengths : smoltcp.ChecksLengths)
    (carries : CarriesIpv4 smoltcp packet key) :
    CarriesIpv4 smoltcp (swapIpv4Endpoints packet) key.reverse := by
  have unfragmented := carries.wellFormed.unfragmented
  have bounds := (lengths.ipv4 packet).mp unfragmented.checked
  have header := unfragmented.header
  unfold ipv4BaseLen at bounds header
  have changes := setIpv4Addresses_changesOnly packet (Ipv4Packet.dstAddr packet)
    (Ipv4Packet.srcAddr packet)
  have addresses := setIpv4Addresses_addresses bounds.1 (Ipv4Packet.dstAddr packet)
    (Ipv4Packet.srcAddr packet)
  obtain ⟨same, payload, -⟩ := carries.wellFormed.setAddresses lengths
    (Ipv4Packet.dstAddr packet) (Ipv4Packet.srcAddr packet)
  rw [Ipv4Packet.payload, Ipv4Packet.headerLen_congr same, Ipv4Packet.totalLen_congr same]
    at payload
  have before (index : Nat) (bound : index < 20) : byteAt (swapIpv4Endpoints packet) index =
      byteAt (setIpv4Addresses packet (Ipv4Packet.dstAddr packet) (Ipv4Packet.srcAddr packet))
        index :=
    byteAt_modifySlice_of_outside (length_swapPorts _) (.inl (by omega))
  have swappedSame : ∀ index < 10, byteAt (swapIpv4Endpoints packet) index =
      byteAt packet index :=
    fun index bound => (before index (by omega)).trans (same index bound)
  have swappedLength : (swapIpv4Endpoints packet).length = packet.length := by
    rw [swapIpv4Endpoints, length_modifySlice, changes.length]
  have swappedPayload : Ipv4Packet.payload (swapIpv4Endpoints packet) =
      swapPorts (Ipv4Packet.payload packet) := by
    rw [Ipv4Packet.payload, Ipv4Packet.headerLen_congr swappedSame,
      Ipv4Packet.totalLen_congr swappedSame, swapIpv4Endpoints,
      slice_modifySlice (changes.length ▸ bounds.2.2.2) (length_swapPorts _), payload]
  have long := transportChecked_length lengths unfragmented.transport
  obtain ⟨first, second⟩ := wordAt_swapPorts
    (show 4 ≤ (Ipv4Packet.payload packet).length by omega)
  have source : Ipv4Packet.srcAddr (swapIpv4Endpoints packet) = Ipv4Packet.dstAddr packet :=
    (ipv4AddressAt_congr fun index bound => before _ (by omega)).trans addresses.1
  have destination : Ipv4Packet.dstAddr (swapIpv4Endpoints packet) = Ipv4Packet.srcAddr packet :=
    (ipv4AddressAt_congr fun index bound => before _ (by omega)).trans addresses.2
  exact {
    wellFormed := carries.wellFormed.congr lengths swappedLength swappedSame (by
      rw [swappedPayload]
      exact swapPorts_checked lengths unfragmented.transport)
    protocol := carries.protocol.trans (Ipv4Packet.nextHeader_congr swappedSame).symm
    localAddress := by
      rw [source]
      exact carries.remoteAddress
    localPort := by
      rw [swappedPayload, first]
      exact carries.remotePort
    remoteAddress := by
      rw [destination]
      exact carries.localAddress
    remotePort := by
      rw [swappedPayload, second]
      exact carries.localPort }

theorem CarriesIpv4.inspected (lengths : smoltcp.ChecksLengths)
    (carries : CarriesIpv4 smoltcp packet key) (direction : Direction) (permitFragments : Bool) :
    keyOf packet false direction (fullHeader packet false permitFragments) =
      .ok (buildKey direction key.protocol key.localAddress key.localPort key.remoteAddress
        key.remotePort) := by
  have unfragmented := carries.wellFormed.unfragmented
  have bounds := (lengths.ipv4 packet).mp unfragmented.checked
  have header := unfragmented.header
  have long := transportChecked_length lengths unfragmented.transport
  have whole : Ipv4Packet.headerLen packet + 4 ≤ Ipv4Packet.totalLen packet := by
    rw [Ipv4Packet.payload, length_slice] at long
    omega
  have ports := getPorts_of_checked lengths unfragmented.transport carries.localPort
    carries.remotePort
  rw [Ipv4Packet.payload, getPorts_slice whole bounds.2.2.2] at ports
  have offset : max (Ipv4Packet.headerLen packet) ipv4BaseLen = Ipv4Packet.headerLen packet :=
    Nat.max_eq_left header
  have fragment : (Ipv4Packet.fragOffset packet != 0 || Ipv4Packet.moreFrags packet) = false := by
    simp [unfragmented.first, unfragmented.last]
  rw [fullHeader_of_plain (show PacketInspector.baseLength false ≤ packet.length from bounds.1)
    permitFragments rfl]
  unfold ipv4BaseLen at header
  have readable : ¬ packet.length < ipv4BaseLen + 4 := by
    unfold ipv4BaseLen
    omega
  simp only [keyOf, PacketInspector.parseBaseHeader, fragment, Bool.and_false, Bool.false_eq_true,
    ↓reduceIte, readable, PacketInspector.parseKey, offset]
  rw [carries.protocol, carries.localAddress, carries.remoteAddress]
  simp only [Ipv4Packet.nextHeader] at ports ⊢
  rw [ports]
  rfl

end Ipv4

def swapIpv6Endpoints (packet : Bytes) : Bytes :=
  modifySlice (setAddresses packet (Ipv6Packet.dstAddr packet) (Ipv6Packet.srcAddr packet))
    (walkIpv6Headers (packet.take (Ipv6Packet.totalLen packet)) false).transportOffset
    (Ipv6Packet.totalLen packet) swapPorts

section Ipv6

variable {smoltcp : Smoltcp} {packet : Bytes} {context : TransportContext} {key : Key}

theorem CarriesIpv6.rewritten (lengths : smoltcp.ChecksLengths) (fills : smoltcp.FillsChecksums)
    (carries : CarriesIpv6 smoltcp packet context key) (source destination : Ipv6Address)
    (port : PortRewrite) :
    CarriesIpv6 smoltcp (rewritten smoltcp packet context source destination port)
      { context with
        source := source
        destination := destination }
      (port.apply { key with
        localAddress := .ipv6 source
        remoteAddress := .ipv6 destination }) := by
  obtain ⟨located, checked⟩ := carries.wellFormed
  have afterBase := located.afterBase
  unfold ipv6BaseLen at afterBase
  have changes := rewritten_changesOnly lengths fills located checked source destination port
  have addresses := rewritten_addresses lengths fills located checked source destination port
  have segment := slice_rewritten lengths fills located checked source destination port
  have set := rewritten_port lengths fills located checked source destination port
  have kept := wordAt_fillTransport_otherPort lengths fills checked port (.ipv6 source)
    (.ipv6 destination) rfl
  rw [← segment] at kept
  have outside (index : Nat) (before : index < 8 ∨ 40 ≤ index) (bound : index < context.offset) :
      ¬ InRewrite context port index := by
    unfold InRewrite
    omega
  have moved := located.congr changes.length
    (fun index bound => changes.same index (outside index (.inl bound) (by omega)))
    fun index low bound => changes.same index (outside index (.inr low) bound)
  rw [addresses.1, addresses.2] at moved
  have wellFormed : WellFormedIpv6 smoltcp
      (WindowsKext.rewritten smoltcp packet context source destination port)
      { context with
        source := source
        destination := destination } := by
    refine ⟨moved, ?_⟩
    dsimp only
    rw [segment]
    exact fillTransport_checked lengths fills
      ((setPort_checked lengths _ port _).trans checked) rfl
  cases port with
  | source value =>
      exact ⟨wellFormed, carries.protocol, congrArg IpAddress.ipv6 addresses.1.symm, set,
        congrArg IpAddress.ipv6 addresses.2.symm, kept.trans carries.remotePort⟩
  | destination value =>
      exact ⟨wellFormed, carries.protocol, congrArg IpAddress.ipv6 addresses.1.symm,
        kept.trans carries.localPort, congrArg IpAddress.ipv6 addresses.2.symm, set⟩

theorem WellFormedIpv6.newChecked (lengths : smoltcp.ChecksLengths)
    (wellFormed : WellFormedIpv6 smoltcp packet context) :
    smoltcp.ipv6NewChecked packet = true := by
  have located := wellFormed.located
  refine (lengths.ipv6 packet).mpr ⟨?_, located.total ▸ located.inside⟩
  exact Nat.le_trans located.afterBase (Nat.le_trans located.ordered located.inside)

theorem Located.walk_offset (located : Located packet context) :
    (walkIpv6Headers (packet.take (Ipv6Packet.totalLen packet)) false).transportOffset =
      context.offset := by
  have base : ipv6BaseLen ≤ (packet.take (Ipv6Packet.totalLen packet)).length := by
    rw [List.length_take, ← located.total, Nat.min_eq_left located.inside]
    exact Nat.le_trans located.afterBase located.ordered
  rw [walkIpv6Headers_eq base, ← located.total]
  exact located.offset

theorem CarriesIpv6.swapped (lengths : smoltcp.ChecksLengths)
    (carries : CarriesIpv6 smoltcp packet context key) :
    CarriesIpv6 smoltcp (swapIpv6Endpoints packet)
      { context with
        source := context.destination
        destination := context.source } key.reverse := by
  obtain ⟨located, checked⟩ := carries.wellFormed
  have afterBase := located.afterBase
  have ordered := located.ordered
  have inside := located.inside
  unfold ipv6BaseLen at afterBase
  have swapped : swapIpv6Endpoints packet =
      modifySlice (setAddresses packet (Ipv6Packet.dstAddr packet) (Ipv6Packet.srcAddr packet))
        context.offset context.totalLen swapPorts := by
    rw [swapIpv6Endpoints, located.walk_offset, located.total]
  have changes := setAddresses_changesOnly packet (Ipv6Packet.dstAddr packet)
    (Ipv6Packet.srcAddr packet)
  have before (index : Nat) (bound : index < context.offset) :
      byteAt (swapIpv6Endpoints packet) index =
        byteAt (setAddresses packet (Ipv6Packet.dstAddr packet) (Ipv6Packet.srcAddr packet))
          index := by
    rw [swapped]
    exact byteAt_modifySlice_of_outside (length_swapPorts _) (.inl bound)
  have length : (swapIpv6Endpoints packet).length = packet.length := by
    rw [swapped, length_modifySlice, changes.length]
  have segment : slice (swapIpv6Endpoints packet) context.offset context.totalLen =
      swapPorts (slice packet context.offset context.totalLen) := by
    rw [swapped, slice_modifySlice (by rw [changes.length]; exact inside) (length_swapPorts _),
      slice_setAddresses packet _ _ located.afterBase]
  have long := transportChecked_length lengths checked
  obtain ⟨first, second⟩ := wordAt_swapPorts
    (show 4 ≤ (slice packet context.offset context.totalLen).length by omega)
  have addresses := setAddresses_addresses (show 40 ≤ packet.length by omega)
    (Ipv6Packet.dstAddr packet) (Ipv6Packet.srcAddr packet)
  have source : Ipv6Packet.srcAddr (swapIpv6Endpoints packet) = Ipv6Packet.dstAddr packet :=
    (ipv6AddressAt_congr fun index bound => before _ (by omega)).trans addresses.1
  have destination : Ipv6Packet.dstAddr (swapIpv6Endpoints packet) = Ipv6Packet.srcAddr packet :=
    (ipv6AddressAt_congr fun index bound => before _ (by omega)).trans addresses.2
  have moved := located.congr length
    (fun index bound => (before index (by omega)).trans (changes.same index (by omega)))
    fun index low bound => (before index bound).trans
      (changes.same index (by unfold ipv6BaseLen at low; omega))
  rw [source, destination, ← located.source, ← located.destination] at moved
  exact {
    wellFormed := ⟨moved, by
      dsimp only
      rw [segment]
      exact swapPorts_checked lengths checked⟩
    protocol := carries.protocol
    localAddress := by
      rw [source]
      exact carries.remoteAddress
    localPort := by
      dsimp only
      rw [segment, first]
      exact carries.remotePort
    remoteAddress := by
      rw [destination]
      exact carries.localAddress
    remotePort := by
      dsimp only
      rw [segment, second]
      exact carries.localPort }

theorem Located.fullHeader (located : Located packet context) (permitFragments : Bool) :
    fullHeader packet true permitFragments =
      { protocol := context.protocol
        transportOffset := context.offset
        isFragment := false
        validTcpFlags := true
        error := none } := by
  have inside := located.inside
  have base : ipv6BaseLen ≤ packet.length :=
    Nat.le_trans located.afterBase (Nat.le_trans located.ordered inside)
  have total : ipv6BaseLen ≤ context.totalLen := Nat.le_trans located.afterBase located.ordered
  have next : Ipv6Packet.nextHeader (packet.take context.totalLen) =
      Ipv6Packet.nextHeader packet := by
    unfold ipv6BaseLen at total
    rw [Ipv6Packet.nextHeader, Ipv6Packet.nextHeader, byteAt_take, if_pos (by omega)]
  have sameChain := headerChain_congr
    (show (packet.take context.totalLen).length ≤ packet.length by
      rw [List.length_take]
      exact Nat.min_le_right _ _)
    maxIpv6ExtHeaders (Ipv6Packet.nextHeader (packet.take context.totalLen)) ipv6BaseLen
    (located.protocol ▸ located.resolved) (by
      intro index low high
      have bound : index < context.offset := located.offset ▸ high
      have ordered := located.ordered
      rw [byteAt_take, if_pos (by omega)])
  obtain ⟨same, fragments, -⟩ := sameChain
  have chain : packetChain packet false = packetChain (packet.take context.totalLen) false := by
    rw [next] at same
    rw [packetChain, packetChain, next]
    exact same
  have unfragmented : (packetChain packet false).headers.any (isNonAtomicFragment packet) =
      false := by
    rw [chain]
    exact fragments.trans located.unfragmented
  have permits : packetChain packet permitFragments = packetChain packet false := by
    cases permitFragments with
    | false => rfl
    | true => exact headerChain_stop_of_unfragmented unfragmented
  have resolved : (packetChain packet false).protocol.isExtension = false := by
    rw [chain, located.protocol]
    exact located.resolved
  have notStopped : (packetChain packet false).stopped = false := headerChain_not_stopped _ _ _ _
  rw [WindowsKext.fullHeader,
    if_neg (show ¬ packet.length < PacketInspector.baseLength true from Nat.not_lt.mpr base),
    if_pos rfl, walkIpv6HeadersReader_eq base, permits]
  simp only [walkedHeader, reportChain, baseHeaders, unfragmented, notStopped, resolved]
  rw [chain, located.offset, located.protocol]
  cases permitFragments <;> rfl

theorem CarriesIpv6.inspected (lengths : smoltcp.ChecksLengths)
    (carries : CarriesIpv6 smoltcp packet context key) (direction : Direction)
    (permitFragments : Bool) :
    keyOf packet true direction (fullHeader packet true permitFragments) =
      .ok (buildKey direction key.protocol key.localAddress key.localPort key.remoteAddress
        key.remotePort) := by
  obtain ⟨located, checked⟩ := carries.wellFormed
  have long := transportChecked_length lengths checked
  rw [length_slice] at long
  have whole : context.offset + 4 ≤ context.totalLen := by omega
  have ports := getPorts_of_checked lengths checked carries.localPort carries.remotePort
  rw [getPorts_slice whole located.inside] at ports
  have readable : ¬ packet.length < ipv6BaseLen := by
    have inside := located.inside
    have afterBase := located.afterBase
    omega
  rw [located.fullHeader]
  simp only [keyOf, ↓reduceIte, readable, PacketInspector.parseKey, ports]
  rw [carries.protocol, carries.localAddress, carries.remoteAddress]
  rfl

end Ipv6

end WindowsKext
