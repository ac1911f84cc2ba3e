import WindowsKext.WireCore

/-! The executable IPv6 header walk and the TCP/UDP rewriting of `ipv6_packet.rs`. A packet
source is a state with reads that may fail; a byte string is the source that never fails
within its length. -/

namespace WindowsKext

open ByteString

/-- A read-only packet source. Reads pass the state of the source on. -/
class PacketData (S : Type) where
  len : S → Nat
  readPrefix : S → Nat → Option Bytes × S
  readByte : S → Nat → Option UInt8 × S :=
    fun source offset =>
      let (bytes, source) := readPrefix source (offset + 1)
      (bytes.bind fun bytes => bytes[offset]?, source)

instance : PacketData Bytes where
  len packet := packet.length
  readPrefix packet length := (if length ≤ packet.length then some (packet.take length) else none,
    packet)

def IpProtocol.isExtension : IpProtocol → Bool
  | .hopByHop | .ipv6Route | .ipv6Frag | .ipv6Opts => true
  | _ => false

def maxIpv6ExtHeaders : Nat := 8

structure Ipv6Headers where
  protocol : IpProtocol
  transportOffset : Nat
  isFragment : Bool
  activeRoutingHeader : Bool
  resolved : Bool
deriving DecidableEq

section Walk

variable {S : Type} [PacketData S]

/-- The loop of the walk. `remaining` is what is left of the extension-header limit, and the
headers record carries `protocol` and `offset`. -/
def walkIpv6Loop (stopAtFragment inspectRoutingHeader : Bool) :
    Nat → Ipv6Headers → S → Ipv6Headers × S
  | remaining, headers, packet =>
      match headers.protocol with
      | .ipv6Frag =>
          match remaining with
          | 0 => (headers, packet)
          | remaining + 1 =>
              let offset := headers.transportOffset
              if offset + 8 ≤ PacketData.len packet then
                match PacketData.readPrefix packet (offset + 4) with
                | (none, packet) => (headers, packet)
                | (some read, packet) =>
                    let fragmentBits := wordAt read (offset + 2)
                    let next := { headers with
                      protocol := IpProtocol.ofNumber (byteAt read offset)
                      transportOffset := offset + 8 }
                    if fragmentBits &&& 0xfff9 != 0 then
                      let next := { next with isFragment := true }
                      if stopAtFragment then (next, packet)
                      else walkIpv6Loop stopAtFragment inspectRoutingHeader remaining next packet
                    else walkIpv6Loop stopAtFragment inspectRoutingHeader remaining next packet
              else (headers, packet)
      | .hopByHop | .ipv6Route | .ipv6Opts =>
          match remaining with
          | 0 => (headers, packet)
          | remaining + 1 =>
              let offset := headers.transportOffset
              match PacketData.readPrefix packet (offset + 2) with
              | (none, packet) => (headers, packet)
              | (some read, packet) =>
                  let nextHeader := IpProtocol.ofNumber (byteAt read offset)
                  let length := ((byteAt read (offset + 1)).toNat + 1) * 8
                  if offset + length ≤ PacketData.len packet then
                    let (active, packet) :=
                      if inspectRoutingHeader && headers.protocol == .ipv6Route then
                        let (routing, packet) := PacketData.readPrefix packet (offset + 4)
                        ((routing.map fun read => byteAt read (offset + 3) != 0).getD false, packet)
                      else (false, packet)
                    walkIpv6Loop stopAtFragment inspectRoutingHeader remaining
                      { headers with
                        protocol := nextHeader
                        transportOffset := offset + length
                        activeRoutingHeader := headers.activeRoutingHeader || active }
                      packet
                  else (headers, packet)
      | _ => ({ headers with resolved := true }, packet)

def walkIpv6HeadersReader (packet : S) (stopAtFragment inspectRoutingHeader : Bool) :
    Ipv6Headers × S :=
  let headers : Ipv6Headers :=
    { protocol := .unknown 0
      transportOffset := ipv6BaseLen
      isFragment := false
      activeRoutingHeader := false
      resolved := false }
  match PacketData.readPrefix packet ipv6BaseLen with
  | (none, packet) => (headers, packet)
  | (some baseHeader, packet) =>
      walkIpv6Loop stopAtFragment inspectRoutingHeader maxIpv6ExtHeaders
        { headers with protocol := Ipv6Packet.nextHeader baseHeader } packet

end Walk

def walkIpv6Headers (packet : Bytes) (stopAtFragment : Bool) : Ipv6Headers :=
  (walkIpv6HeadersReader packet stopAtFragment true).1

inductive Ipv6TransportError where
  | invalidPacket
  | unresolvedHeaders
  | fragmentedPacket
  | activeRoutingHeader
  | unsupportedProtocol
  | invalidTransportHeader
deriving DecidableEq

def Ipv6TransportError.toString : Ipv6TransportError → String
  | .invalidPacket => "invalid IPv6 packet"
  | .unresolvedHeaders => "IPv6 extension header chain did not resolve"
  | .fragmentedPacket => "cannot rewrite an individual IPv6 fragment"
  | .activeRoutingHeader => "cannot calculate a checksum through an active IPv6 routing header"
  | .unsupportedProtocol => "IPv6 packet does not contain TCP or UDP"
  | .invalidTransportHeader => "invalid IPv6 transport header"

inductive PortRewrite where
  | source (port : UInt16)
  | destination (port : UInt16)

structure TransportContext where
  protocol : IpProtocol
  offset : Nat
  totalLen : Nat
  source : Ipv6Address
  destination : Ipv6Address

def transportContext (smoltcp : Smoltcp) (packet : Bytes) :
    Except Ipv6TransportError TransportContext :=
  if !smoltcp.ipv6NewChecked packet then .error .invalidPacket
  else if Ipv6Packet.version packet != 6 then .error .invalidPacket
  else
    let totalLen := Ipv6Packet.totalLen packet
    if Ipv6Packet.payloadLen packet == 0 && packet.length > ipv6BaseLen then
      .error .invalidPacket
    else
      let headers := walkIpv6Headers (packet.take totalLen) false
      if !headers.resolved || headers.transportOffset > totalLen then .error .unresolvedHeaders
      else if headers.isFragment then .error .fragmentedPacket
      else if headers.activeRoutingHeader then .error .activeRoutingHeader
      else
        .ok {
          protocol := headers.protocol
          offset := headers.transportOffset
          totalLen := totalLen
          source := Ipv6Packet.srcAddr packet
          destination := Ipv6Packet.dstAddr packet }

/-- `packet.get(offset..total_len)`. -/
def transportSlice (packet : Bytes) (context : TransportContext) : Option Bytes :=
  if context.offset ≤ context.totalLen ∧ context.totalLen ≤ packet.length then
    some (slice packet context.offset context.totalLen)
  else none

def validateTransport (smoltcp : Smoltcp) (packet : Bytes) (context : TransportContext) :
    Except Ipv6TransportError Unit :=
  match transportSlice packet context with
  | none => .error .invalidTransportHeader
  | some transport =>
      match context.protocol with
      | .udp =>
          if smoltcp.udpNewChecked transport then .ok () else .error .invalidTransportHeader
      | .tcp =>
          if smoltcp.tcpNewChecked transport then .ok () else .error .invalidTransportHeader
      | _ => .error .unsupportedProtocol

/-- Rewrites both IPv6 addresses and one TCP/UDP port, then computes the upper-layer checksum.
The packet after the call is the second component. -/
def rewriteIpv6TcpUdp (smoltcp : Smoltcp) (packet : Bytes) (source destination : Ipv6Address)
    (port : PortRewrite) : Except Ipv6TransportError Unit × Bytes :=
  match transportContext smoltcp packet with
  | .error error => (.error error, packet)
  | .ok context =>
      match validateTransport smoltcp packet context with
      | .error error => (.error error, packet)
      | .ok () =>
          let packet := Ipv6Packet.setDstAddr (Ipv6Packet.setSrcAddr packet source) destination
          match transportSlice packet context with
          | none => (.error .invalidTransportHeader, packet)
          | some transport =>
              match context.protocol with
              | .udp =>
                  if !smoltcp.udpNewChecked transport then
                    (.error .invalidTransportHeader, packet)
                  else
                    (.ok (), modifySlice packet context.offset context.totalLen fun transport =>
                      smoltcp.udpFillChecksum
                        (match port with
                        | .source value => UdpPacket.setSrcPort transport value
                        | .destination value => UdpPacket.setDstPort transport value)
                        (.ipv6 source) (.ipv6 destination))
              | .tcp =>
                  if !smoltcp.tcpNewChecked transport then
                    (.error .invalidTransportHeader, packet)
                  else
                    (.ok (), modifySlice packet context.offset context.totalLen fun transport =>
                      smoltcp.tcpFillChecksum
                        (match port with
                        | .source value => TcpPacket.setSrcPort transport value
                        | .destination value => TcpPacket.setDstPort transport value)
                        (.ipv6 source) (.ipv6 destination))
              | _ => (.error .unsupportedProtocol, packet)

/-- Recomputes a TCP or UDP checksum using the upper-layer length. -/
def recalculateIpv6TransportChecksum (smoltcp : Smoltcp) (packet : Bytes) :
    Except Ipv6TransportError Unit × Bytes :=
  match transportContext smoltcp packet with
  | .error error => (.error error, packet)
  | .ok context =>
      if context.protocol != .tcp && context.protocol != .udp then (.ok (), packet)
      else
        match validateTransport smoltcp packet context with
        | .error error => (.error error, packet)
        | .ok () =>
            match transportSlice packet context with
            | none => (.error .invalidTransportHeader, packet)
            | some transport =>
                match context.protocol with
                | .udp =>
                    if !smoltcp.udpNewChecked transport then
                      (.error .invalidTransportHeader, packet)
                    else
                      (.ok (), modifySlice packet context.offset context.totalLen fun transport =>
                        smoltcp.udpFillChecksum transport (.ipv6 context.source)
                          (.ipv6 context.destination))
                | .tcp =>
                    if !smoltcp.tcpNewChecked transport then
                      (.error .invalidTransportHeader, packet)
                    else
                      (.ok (), modifySlice packet context.offset context.totalLen fun transport =>
                        smoltcp.tcpFillChecksum transport (.ipv6 context.source)
                          (.ipv6 context.destination))
                | _ => (.ok (), packet)

end WindowsKext
