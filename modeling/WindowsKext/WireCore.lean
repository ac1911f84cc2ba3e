import WindowsKext.ConnectionCore
import WindowsKext.Library.InternetChecksum

/-! Packet headers as the driver sees them through `smoltcp::wire`. Field accessors follow the
wire layouts. The length checks of `new_checked` and the checksum writers belong to the
library, so they are parameters with their documented behaviour as named assumptions. -/

namespace WindowsKext

open ByteString InternetChecksum

def ipv4BaseLen : Nat := 20
def ipv6BaseLen : Nat := 40

def ipv4AddressAt (bytes : Bytes) (offset : Nat) : Ipv4Address :=
  ⟨Vector.ofFn fun index : Fin 4 => byteAt bytes (offset + index)⟩

def ipv6AddressAt (bytes : Bytes) (offset : Nat) : Ipv6Address :=
  ⟨Vector.ofFn fun index : Fin 16 => byteAt bytes (offset + index)⟩

def portAt (bytes : Bytes) (offset : Nat) : UInt16 := UInt16.ofNat (wordAt bytes offset)

namespace Ipv4Packet

def version (packet : Bytes) : Nat := (byteAt packet 0).toNat / 16
def headerLen (packet : Bytes) : Nat := (byteAt packet 0).toNat % 16 * 4
def totalLen (packet : Bytes) : Nat := wordAt packet 2
/-- In bytes. -/
def fragOffset (packet : Bytes) : Nat := wordAt packet 6 * 8 % 65536
def moreFrags (packet : Bytes) : Bool := (byteAt packet 6).toNat / 32 % 2 == 1
def nextHeader (packet : Bytes) : IpProtocol := IpProtocol.ofNumber (byteAt packet 9)
def srcAddr (packet : Bytes) : Ipv4Address := ipv4AddressAt packet 12
def dstAddr (packet : Bytes) : Ipv4Address := ipv4AddressAt packet 16

def setSrcAddr (packet : Bytes) (address : Ipv4Address) : Bytes :=
  writeAt packet 12 address.octets.toList

def setDstAddr (packet : Bytes) (address : Ipv4Address) : Bytes :=
  writeAt packet 16 address.octets.toList

def payload (packet : Bytes) : Bytes := slice packet (headerLen packet) (totalLen packet)

end Ipv4Packet

namespace Ipv6Packet

def version (packet : Bytes) : Nat := (byteAt packet 0).toNat / 16
def payloadLen (packet : Bytes) : Nat := wordAt packet 4
def totalLen (packet : Bytes) : Nat := ipv6BaseLen + payloadLen packet
def nextHeader (packet : Bytes) : IpProtocol := IpProtocol.ofNumber (byteAt packet 6)
def srcAddr (packet : Bytes) : Ipv6Address := ipv6AddressAt packet 8
def dstAddr (packet : Bytes) : Ipv6Address := ipv6AddressAt packet 24

def setSrcAddr (packet : Bytes) (address : Ipv6Address) : Bytes :=
  writeAt packet 8 address.octets.toList

def setDstAddr (packet : Bytes) (address : Ipv6Address) : Bytes :=
  writeAt packet 24 address.octets.toList

end Ipv6Packet

namespace UdpPacket

def len (segment : Bytes) : Nat := wordAt segment 4
def setSrcPort (segment : Bytes) (port : UInt16) : Bytes := writeAt segment 0 (wordBytes port.toNat)
def setDstPort (segment : Bytes) (port : UInt16) : Bytes := writeAt segment 2 (wordBytes port.toNat)

end UdpPacket

namespace TcpPacket

def headerLen (segment : Bytes) : Nat := (byteAt segment 12).toNat / 16 * 4
def setSrcPort (segment : Bytes) (port : UInt16) : Bytes := writeAt segment 0 (wordBytes port.toNat)
def setDstPort (segment : Bytes) (port : UInt16) : Bytes := writeAt segment 2 (wordBytes port.toNat)

end TcpPacket

/-- The pseudo-header of a transport segment. Both addresses are of one family. -/
def pseudoHeader (source destination : IpAddress) (protocol : UInt8) (length : Nat) : Bytes :=
  match source, destination with
  | .ipv4 source, .ipv4 destination =>
      source.octets.toList ++ destination.octets.toList ++ [0, protocol] ++
        wordBytes (length % 65536)
  | .ipv6 source, .ipv6 destination =>
      source.octets.toList ++ destination.octets.toList ++ wordBytes (length / 65536) ++
        wordBytes (length % 65536) ++ [0, 0, 0, protocol]
  | _, _ => []

def sameFamily : IpAddress → IpAddress → Bool
  | .ipv4 _, .ipv4 _ | .ipv6 _, .ipv6 _ => true
  | _, _ => false

/-- The library operations whose code is not part of the driver. -/
structure Smoltcp where
  ipv4NewChecked : Bytes → Bool
  ipv6NewChecked : Bytes → Bool
  udpNewChecked : Bytes → Bool
  tcpNewChecked : Bytes → Bool
  ipv6ExtHeaderNewChecked : Bytes → Bool
  ipv6FragmentHeaderNewChecked : Bytes → Bool
  ipv4FillChecksum : Bytes → Bytes
  udpFillChecksum : Bytes → IpAddress → IpAddress → Bytes
  tcpFillChecksum : Bytes → IpAddress → IpAddress → Bytes

/-- The length checks that `new_checked` documents. -/
structure Smoltcp.ChecksLengths (smoltcp : Smoltcp) : Prop where
  ipv4 : ∀ packet, smoltcp.ipv4NewChecked packet = true ↔
    ipv4BaseLen ≤ packet.length ∧ Ipv4Packet.headerLen packet ≤ packet.length ∧
      Ipv4Packet.headerLen packet ≤ Ipv4Packet.totalLen packet ∧
      Ipv4Packet.totalLen packet ≤ packet.length
  ipv6 : ∀ packet, smoltcp.ipv6NewChecked packet = true ↔
    ipv6BaseLen ≤ packet.length ∧ Ipv6Packet.totalLen packet ≤ packet.length
  udp : ∀ segment, smoltcp.udpNewChecked segment = true ↔
    8 ≤ segment.length ∧ 8 ≤ UdpPacket.len segment ∧ UdpPacket.len segment ≤ segment.length
  tcp : ∀ segment, smoltcp.tcpNewChecked segment = true ↔
    20 ≤ segment.length ∧ 20 ≤ TcpPacket.headerLen segment ∧
      TcpPacket.headerLen segment ≤ segment.length
  ipv6ExtHeader : ∀ header, smoltcp.ipv6ExtHeaderNewChecked header = true ↔
    8 ≤ header.length ∧ ((byteAt header 1).toNat + 1) * 8 ≤ header.length
  ipv6FragmentHeader : ∀ header, smoltcp.ipv6FragmentHeaderNewChecked header = true ↔
    6 ≤ header.length

/-- The RFC 1071 checksums that `fill_checksum` documents, for packets that passed their
length check. UDP writes a computed zero as all ones. -/
structure Smoltcp.FillsChecksums (smoltcp : Smoltcp) : Prop where
  ipv4 : ∀ packet, smoltcp.ipv4NewChecked packet = true → smoltcp.ipv4FillChecksum packet =
    fillAt packet (Ipv4Packet.headerLen packet) 10 0 complement
  udp : ∀ segment source destination, smoltcp.udpNewChecked segment = true →
    sameFamily source destination = true →
      smoltcp.udpFillChecksum segment source destination =
        fillAt segment (UdpPacket.len segment) 6
          (sumWords (pseudoHeader source destination 17 (UdpPacket.len segment))) complementOrOnes
  tcp : ∀ segment source destination, smoltcp.tcpNewChecked segment = true →
    sameFamily source destination = true →
      smoltcp.tcpFillChecksum segment source destination =
        fillAt segment segment.length 16
          (sumWords (pseudoHeader source destination 6 segment.length)) complement

/-- The documented behaviour as a program. -/
def Smoltcp.documented : Smoltcp where
  ipv4NewChecked packet :=
    decide (ipv4BaseLen ≤ packet.length ∧ Ipv4Packet.headerLen packet ≤ packet.length ∧
      Ipv4Packet.headerLen packet ≤ Ipv4Packet.totalLen packet ∧
      Ipv4Packet.totalLen packet ≤ packet.length)
  ipv6NewChecked packet :=
    decide (ipv6BaseLen ≤ packet.length ∧ Ipv6Packet.totalLen packet ≤ packet.length)
  udpNewChecked segment :=
    decide (8 ≤ segment.length ∧ 8 ≤ UdpPacket.len segment ∧
      UdpPacket.len segment ≤ segment.length)
  tcpNewChecked segment :=
    decide (20 ≤ segment.length ∧ 20 ≤ TcpPacket.headerLen segment ∧
      TcpPacket.headerLen segment ≤ segment.length)
  ipv6ExtHeaderNewChecked header :=
    decide (8 ≤ header.length ∧ ((byteAt header 1).toNat + 1) * 8 ≤ header.length)
  ipv6FragmentHeaderNewChecked header := decide (6 ≤ header.length)
  ipv4FillChecksum packet := fillAt packet (Ipv4Packet.headerLen packet) 10 0 complement
  udpFillChecksum segment source destination :=
    fillAt segment (UdpPacket.len segment) 6
      (sumWords (pseudoHeader source destination 17 (UdpPacket.len segment))) complementOrOnes
  tcpFillChecksum segment source destination :=
    fillAt segment segment.length 16
      (sumWords (pseudoHeader source destination 6 segment.length)) complement

theorem Smoltcp.documented_checksLengths : Smoltcp.documented.ChecksLengths := by
  constructor <;> intro bytes <;> exact decide_eq_true_iff

theorem Smoltcp.documented_fillsChecksums : Smoltcp.documented.FillsChecksums := by
  constructor <;> intros <;> rfl

/-- The transport checksum of a segment verifies against its pseudo-header. -/
def TransportVerifies (source destination : IpAddress) (protocol : UInt8) (segment : Bytes) :
    Prop :=
  onesSum (sumWords (pseudoHeader source destination protocol segment.length) +
    sumWords segment) = 65535

instance (source destination : IpAddress) (protocol : UInt8) (segment : Bytes) :
    Decidable (TransportVerifies source destination protocol segment) :=
  inferInstanceAs (Decidable (_ = _))

end WindowsKext
