import WindowsKext.Ipv6PacketCore

/-! The packets that the driver owns and the in-place rewriting of `packet_util.rs`. Functions
that change a packet return it beside their result. -/

namespace WindowsKext

open ByteString

/-- An owned packet clone. Only a clone has data that may be changed. -/
structure NetBufferList where
  data : Option Bytes
deriving DecidableEq

structure InjectInfo where
  ipv6 : Bool
  inbound : Bool
  loopback : Bool
  compartmentId : Option Nat
  interfaceIndex : Nat
  subInterfaceIndex : Nat
deriving DecidableEq

inductive TransportProtocol where
  | tcp
  | udp
deriving DecidableEq

/-- A packet saved at an ALE layer for transport injection. -/
structure TransportPacketList where
  protocol : TransportProtocol
  ipv6 : Bool
  netBufferList : NetBufferList
  eventDataOffset : Nat
  remoteIp : IpAddress
  endpointHandle : Nat
  inbound : Bool
  loopback : Bool
  compartmentId : Option Nat
  interfaceIndex : Nat
  subInterfaceIndex : Nat
deriving DecidableEq

/-- Packet bytes exposed to user space: the part behind the IP header. -/
def TransportPacketList.getEventData (packetList : TransportPacketList) : Option Bytes :=
  packetList.netBufferList.data.bind fun data =>
    if packetList.eventDataOffset ≤ data.length then some (data.drop packetList.eventDataOffset)
    else none

inductive ClassifyDeferKind where
  /-- A pended operation, with its completion context. -/
  | initial (context : Nat)
  | reauthorization
deriving DecidableEq

structure ClassifyDefer where
  kind : ClassifyDeferKind
  packetList : Option TransportPacketList
deriving DecidableEq

inductive Packet where
  | network (nbl : NetBufferList) (injectInfo : InjectInfo)
  | networkBatch (nbls : List NetBufferList) (injectInfo : InjectInfo)
  | aleLayer (defer : ClassifyDefer)
deriving DecidableEq

/-- The transport part that the three IPv4 functions share. `editUdp` and `editTcp` change the
header before its checksum is written. A payload that is not a checked TCP or UDP segment stays
as it is. -/
def updateIpv4Transport (smoltcp : Smoltcp) (editUdp editTcp : Bytes → Bytes) (packet : Bytes) :
    Bytes :=
  let protocol := Ipv4Packet.nextHeader packet
  let source := IpAddress.ipv4 (Ipv4Packet.srcAddr packet)
  let destination := IpAddress.ipv4 (Ipv4Packet.dstAddr packet)
  match protocol with
  | .udp =>
      if smoltcp.udpNewChecked (Ipv4Packet.payload packet) then
        modifySlice packet (Ipv4Packet.headerLen packet) (Ipv4Packet.totalLen packet) fun segment =>
          smoltcp.udpFillChecksum (editUdp segment) source destination
      else packet
  | .tcp =>
      if smoltcp.tcpNewChecked (Ipv4Packet.payload packet) then
        modifySlice packet (Ipv4Packet.headerLen packet) (Ipv4Packet.totalLen packet) fun segment =>
          smoltcp.tcpFillChecksum (editTcp segment) source destination
      else packet
  | _ => packet

def redirectOutboundPacket (smoltcp : Smoltcp) (packet : Bytes) (remoteAddress : IpAddress)
    (remotePort : UInt16) (unify : Bool) : Except String Unit × Bytes :=
  match remoteAddress with
  | .ipv4 remoteAddress =>
      if smoltcp.ipv4NewChecked packet then
        let packet :=
          if unify then Ipv4Packet.setDstAddr packet (Ipv4Packet.srcAddr packet)
          else
            let packet := Ipv4Packet.setDstAddr packet remoteAddress
            if remoteAddress.isLoopback then
              Ipv4Packet.setSrcAddr packet (Ipv4Address.new 127 0 0 1)
            else packet
        (.ok (), updateIpv4Transport smoltcp (UdpPacket.setDstPort · remotePort)
          (TcpPacket.setDstPort · remotePort) (smoltcp.ipv4FillChecksum packet))
      -- A packet that is not IPv4 is passed on as if it had been redirected.
      else (.ok (), packet)
  | .ipv6 remoteAddress =>
      if smoltcp.ipv6NewChecked packet then
        let originalSource := Ipv6Packet.srcAddr packet
        let destination := if unify then originalSource else remoteAddress
        let source :=
          if !unify && remoteAddress.isLoopback then Ipv6Address.loopback else originalSource
        let (result, packet) :=
          rewriteIpv6TcpUdp smoltcp packet source destination (.destination remotePort)
        (result.mapError Ipv6TransportError.toString, packet)
      else (.error "invalid outbound IPv6 packet", packet)

def redirectInboundPacket (smoltcp : Smoltcp) (packet : Bytes)
    (localAddress originalRemoteAddress : IpAddress) (originalRemotePort : UInt16) :
    Except String Unit × Bytes :=
  match localAddress, originalRemoteAddress with
  | .ipv4 localAddress, .ipv4 originalRemoteAddress =>
      if smoltcp.ipv4NewChecked packet then
        let packet :=
          Ipv4Packet.setSrcAddr (Ipv4Packet.setDstAddr packet localAddress) originalRemoteAddress
        (.ok (), updateIpv4Transport smoltcp (UdpPacket.setSrcPort · originalRemotePort)
          (TcpPacket.setSrcPort · originalRemotePort) (smoltcp.ipv4FillChecksum packet))
      else (.ok (), packet)
  | .ipv4 _, .ipv6 _ => (.error "IPv4 redirect has an IPv6 remote address", packet)
  | .ipv6 localAddress, .ipv6 originalRemoteAddress =>
      let (result, packet) := rewriteIpv6TcpUdp smoltcp packet originalRemoteAddress localAddress
        (.source originalRemotePort)
      (result.mapError Ipv6TransportError.toString, packet)
  | .ipv6 _, .ipv4 _ => (.error "IPv6 redirect has an IPv4 remote address", packet)

def recalcHeaderChecksums (smoltcp : Smoltcp) (packet : Bytes) (ipv6 : Bool) :
    Except String Unit × Bytes :=
  if ipv6 then
    let (result, packet) := recalculateIpv6TransportChecksum smoltcp packet
    (result.mapError Ipv6TransportError.toString, packet)
  else if smoltcp.ipv4NewChecked packet then
    (.ok (), updateIpv4Transport smoltcp id id (smoltcp.ipv4FillChecksum packet))
  else (.ok (), packet)

def redirectNetBuffer (smoltcp : Smoltcp) (nbl : NetBufferList) (inbound : Bool)
    (redirectInfo : RedirectInfo) : Except String Unit × NetBufferList :=
  match nbl.data with
  | none => (.error "trying to redirect immutable NBL", nbl)
  | some data =>
      let (result, data) :=
        if inbound then
          redirectInboundPacket smoltcp data redirectInfo.localAddress redirectInfo.remoteAddress
            redirectInfo.remotePort
        else
          redirectOutboundPacket smoltcp data redirectInfo.redirectAddress
            redirectInfo.redirectPort redirectInfo.unify
      (result, { data := some data })

/-- The loop over a batch. The first failure ends it. -/
def redirectNetBuffers (smoltcp : Smoltcp) (inbound : Bool) (redirectInfo : RedirectInfo) :
    List NetBufferList → Except String Unit × List NetBufferList
  | [] => (.ok (), [])
  | nbl :: rest =>
      match redirectNetBuffer smoltcp nbl inbound redirectInfo with
      | (.error error, nbl) => (.error error, nbl :: rest)
      | (.ok (), nbl) =>
          let (result, rest) := redirectNetBuffers smoltcp inbound redirectInfo rest
          (result, nbl :: rest)

/-- `Redirect for Packet`. -/
def Packet.redirect (smoltcp : Smoltcp) (packet : Packet) (redirectInfo : RedirectInfo) :
    Except String Unit × Packet :=
  match packet with
  | .network nbl injectInfo =>
      let (result, nbl) := redirectNetBuffer smoltcp nbl injectInfo.inbound redirectInfo
      (result, .network nbl injectInfo)
  | .networkBatch nbls injectInfo =>
      let (result, nbls) := redirectNetBuffers smoltcp injectInfo.inbound redirectInfo nbls
      (result, .networkBatch nbls injectInfo)
  | .aleLayer defer => (.ok (), .aleLayer defer)

end WindowsKext
