import WindowsKext.WireCore

/-! What the documented checksum writers do to one header or segment: which bytes change, that
the result verifies, and that a second run changes nothing. TCP and UDP share one statement. -/

namespace WindowsKext

open ByteString InternetChecksum

def checksumField (protocol : IpProtocol) : Nat := if protocol = .udp then 6 else 16

/-- The bytes that the checksum covers: the UDP length field, or the whole TCP segment. -/
def coveredLength (protocol : IpProtocol) (segment : Bytes) : Nat :=
  if protocol = .udp then UdpPacket.len segment else segment.length

def protocolNumber (protocol : IpProtocol) : UInt8 := if protocol = .udp then 17 else 6

def InChecksum (protocol : IpProtocol) (index : Nat) : Prop :=
  checksumField protocol ≤ index ∧ index < checksumField protocol + 2

/-- `new_checked` of the transport header that the protocol names. -/
def transportChecked (smoltcp : Smoltcp) (protocol : IpProtocol) (segment : Bytes) : Bool :=
  match protocol with
  | .udp => smoltcp.udpNewChecked segment
  | .tcp => smoltcp.tcpNewChecked segment
  | _ => false

/-- `fill_checksum` of the transport header that the protocol names. -/
def fillTransport (smoltcp : Smoltcp) (protocol : IpProtocol) (segment : Bytes)
    (source destination : IpAddress) : Bytes :=
  match protocol with
  | .udp => smoltcp.udpFillChecksum segment source destination
  | .tcp => smoltcp.tcpFillChecksum segment source destination
  | _ => segment

section Transport

variable {smoltcp : Smoltcp} {protocol : IpProtocol} {segment : Bytes}
  {source destination : IpAddress}

theorem transportChecked_protocol (checked : transportChecked smoltcp protocol segment = true) :
    protocol = .udp ∨ protocol = .tcp := by
  cases protocol <;> simp [transportChecked] at checked ⊢

theorem transportChecked_bounds (lengths : smoltcp.ChecksLengths)
    (checked : transportChecked smoltcp protocol segment = true) :
    checksumField protocol + 2 ≤ coveredLength protocol segment ∧
      coveredLength protocol segment ≤ segment.length := by
  rcases transportChecked_protocol checked with rfl | rfl
  · have bounds := (lengths.udp segment).mp checked
    simp only [checksumField, coveredLength, ↓reduceIte]
    omega
  · have bounds := (lengths.tcp segment).mp checked
    simp only [checksumField, coveredLength, reduceCtorEq, ↓reduceIte]
    omega

theorem transportChecked_congr (lengths : smoltcp.ChecksLengths) {other : Bytes}
    (length : other.length = segment.length)
    (same : ∀ index, 4 ≤ index → index < 6 ∨ index = 12 →
      byteAt other index = byteAt segment index) :
    transportChecked smoltcp protocol other = transportChecked smoltcp protocol segment := by
  cases protocol with
  | udp =>
      rw [transportChecked, transportChecked, Bool.eq_iff_iff, lengths.udp, lengths.udp,
        UdpPacket.len, UdpPacket.len, wordAt, wordAt, same 4 (by omega) (by omega),
        same 5 (by omega) (by omega), length]
  | tcp =>
      rw [transportChecked, transportChecked, Bool.eq_iff_iff, lengths.tcp, lengths.tcp,
        TcpPacket.headerLen, TcpPacket.headerLen, same 12 (by omega) (by omega), length]
  | _ => rfl

theorem fillTransport_eq (fills : smoltcp.FillsChecksums)
    (checked : transportChecked smoltcp protocol segment = true)
    (family : sameFamily source destination = true) :
    ∃ value : Nat → Nat, (∀ sum, value sum < 65536) ∧
      (∀ sum, onesSum (sum + value sum) = 65535) ∧
      fillTransport smoltcp protocol segment source destination =
        fillAt segment (coveredLength protocol segment) (checksumField protocol)
          (sumWords (pseudoHeader source destination (protocolNumber protocol)
            (coveredLength protocol segment))) value := by
  rcases transportChecked_protocol checked with rfl | rfl
  · exact ⟨complementOrOnes, complementOrOnes_lt, onesSum_add_complementOrOnes,
      fills.udp segment source destination checked family⟩
  · exact ⟨complement, complement_lt, onesSum_add_complement,
      fills.tcp segment source destination checked family⟩

theorem fillTransport_changesOnly (fills : smoltcp.FillsChecksums)
    (checked : transportChecked smoltcp protocol segment = true)
    (family : sameFamily source destination = true) :
    ChangesOnly (InChecksum protocol) segment
      (fillTransport smoltcp protocol segment source destination) := by
  obtain ⟨value, _, _, filled⟩ := fillTransport_eq fills checked family
  rw [filled]
  exact changesOnly_writeAt _ _ _ fun index low high => ⟨low, high⟩

theorem coveredLength_congr {other : Bytes} (length : other.length = segment.length)
    (same : ∀ index, 4 ≤ index → index < 6 → byteAt other index = byteAt segment index) :
    coveredLength protocol other = coveredLength protocol segment := by
  unfold coveredLength UdpPacket.len wordAt
  rw [same 4 (by omega) (by omega), same 5 (by omega) (by omega), length]

theorem coveredLength_fillTransport (fills : smoltcp.FillsChecksums)
    (checked : transportChecked smoltcp protocol segment = true)
    (family : sameFamily source destination = true) :
    coveredLength protocol (fillTransport smoltcp protocol segment source destination) =
      coveredLength protocol segment := by
  have changes := fillTransport_changesOnly fills checked family
  refine coveredLength_congr changes.length ?_
  intro index low high
  refine changes.same index ?_
  simp only [InChecksum, checksumField]
  split <;> omega

theorem fillTransport_verifies (lengths : smoltcp.ChecksLengths) (fills : smoltcp.FillsChecksums)
    (checked : transportChecked smoltcp protocol segment = true)
    (family : sameFamily source destination = true) :
    TransportVerifies source destination (protocolNumber protocol)
      ((fillTransport smoltcp protocol segment source destination).take
        (coveredLength protocol segment)) := by
  obtain ⟨value, bound, verifies, filled⟩ := fillTransport_eq fills checked family
  have bounds := transportChecked_bounds lengths checked
  have even : checksumField protocol % 2 = 0 := by
    unfold checksumField
    split <;> rfl
  rw [TransportVerifies, List.length_take, filled, length_fillAt, Nat.min_eq_left bounds.2]
  exact fillAt_verifies _ even bounds.1 bounds.2 bound verifies

theorem fillTransport_checked (lengths : smoltcp.ChecksLengths) (fills : smoltcp.FillsChecksums)
    (checked : transportChecked smoltcp protocol segment = true)
    (family : sameFamily source destination = true) :
    transportChecked smoltcp protocol
      (fillTransport smoltcp protocol segment source destination) = true := by
  have changes := fillTransport_changesOnly fills checked family
  rw [transportChecked_congr lengths changes.length, checked]
  intro index low high
  refine changes.same index ?_
  simp only [InChecksum, checksumField]
  split <;> omega

theorem fillTransport_fillTransport (lengths : smoltcp.ChecksLengths)
    (fills : smoltcp.FillsChecksums)
    (checked : transportChecked smoltcp protocol segment = true)
    (family : sameFamily source destination = true) :
    fillTransport smoltcp protocol
        (fillTransport smoltcp protocol segment source destination) source destination =
      fillTransport smoltcp protocol segment source destination := by
  have again := fillTransport_checked lengths fills checked family
  have covered := coveredLength_fillTransport fills checked family
  rcases transportChecked_protocol checked with rfl | rfl
  · have once := fills.udp segment source destination checked family
    have twice := fills.udp _ source destination again family
    simp only [coveredLength, ↓reduceIte] at covered
    simp only [fillTransport] at covered twice ⊢
    rw [twice, covered, once, fillAt_fillAt]
  · have once := fills.tcp segment source destination checked family
    have twice := fills.tcp _ source destination again family
    simp only [coveredLength, reduceCtorEq, ↓reduceIte] at covered
    simp only [fillTransport] at covered twice ⊢
    rw [twice, covered, once, fillAt_fillAt]

end Transport

section Addresses

theorem ipv4AddressAt_congr {left right : Bytes} {offset : Nat}
    (same : ∀ index < 4, byteAt left (offset + index) = byteAt right (offset + index)) :
    ipv4AddressAt left offset = ipv4AddressAt right offset := by
  unfold ipv4AddressAt
  congr 2
  funext index
  exact same index index.isLt

theorem ipv6AddressAt_congr {left right : Bytes} {offset : Nat}
    (same : ∀ index < 16, byteAt left (offset + index) = byteAt right (offset + index)) :
    ipv6AddressAt left offset = ipv6AddressAt right offset := by
  unfold ipv6AddressAt
  congr 2
  funext index
  exact same index index.isLt

theorem byteAt_octets {count : Nat} (octets : Vector UInt8 count) (index : Fin count) :
    byteAt octets.toList index = octets[index] := by
  simp [byteAt]

theorem ipv4AddressAt_writeAt {packet : Bytes} {offset : Nat} (fits : offset + 4 ≤ packet.length)
    (address : Ipv4Address) :
    ipv4AddressAt (writeAt packet offset address.octets.toList) offset = address := by
  obtain ⟨octets⟩ := address
  simp only [ipv4AddressAt, Ipv4Address.mk.injEq]
  apply Vector.ext
  intro index bound
  rw [Vector.getElem_ofFn, byteAt_writeAt (by simpa using fits), if_pos (by simp; omega),
    Nat.add_sub_cancel_left]
  exact byteAt_octets octets ⟨index, bound⟩

theorem ipv6AddressAt_writeAt {packet : Bytes} {offset : Nat} (fits : offset + 16 ≤ packet.length)
    (address : Ipv6Address) :
    ipv6AddressAt (writeAt packet offset address.octets.toList) offset = address := by
  obtain ⟨octets⟩ := address
  simp only [ipv6AddressAt, Ipv6Address.mk.injEq]
  apply Vector.ext
  intro index bound
  rw [Vector.getElem_ofFn, byteAt_writeAt (by simpa using fits), if_pos (by simp; omega),
    Nat.add_sub_cancel_left]
  exact byteAt_octets octets ⟨index, bound⟩

end Addresses

end WindowsKext
