import WindowsKext.PacketMetadataCore

/-! The frozen parser of `packet_metadata_original.rs`, which reads a whole byte string at once.
Its key, port and ICMP helpers have the text of the current ones and are not repeated. -/

namespace WindowsKext

open ByteString

namespace Ipv6FragmentHeader

def fragOffset (header : Bytes) : Nat := wordAt header 0 / 8
def moreFrags (header : Bytes) : Bool := (byteAt header 1).toNat % 2 == 1

end Ipv6FragmentHeader

namespace Ipv6ExtHeader

def nextHeader (header : Bytes) : IpProtocol := IpProtocol.ofNumber (byteAt header 0)
def headerLen (header : Bytes) : Nat := (byteAt header 1).toNat

end Ipv6ExtHeader

structure PacketMetadata where
  key : Key
  icmpEcho : Option IcmpEcho
  icmpError : Option IcmpError
  isLocalIcmpError : Bool
  isTcpReset : Bool
deriving DecidableEq

structure PacketInspection where
  isFragment : Bool
  metadata : Except PacketMetadataError PacketMetadata

def PacketInspection.unreadable : PacketInspection where
  isFragment := false
  metadata := .error .unreadablePacket

namespace Original

variable (smoltcp : Smoltcp)

def walkIpv6Loop (packet : Bytes) (stopAtFragment : Bool) : Nat → Ipv6Headers → Ipv6Headers
  | remaining, headers =>
      match headers.protocol with
      | .ipv6Frag =>
          match remaining with
          | 0 => headers
          | remaining + 1 =>
              let offset := headers.transportOffset
              if offset + 8 ≤ packet.length then
                let header := slice packet offset (offset + 8)
                -- The library's header models the six bytes after Next Header and Reserved.
                let fragment := header.drop 2
                if smoltcp.ipv6FragmentHeaderNewChecked fragment then
                  let next := { headers with
                    protocol := IpProtocol.ofNumber (byteAt header 0)
                    transportOffset := offset + 8 }
                  if Ipv6FragmentHeader.fragOffset fragment != 0 ||
                      Ipv6FragmentHeader.moreFrags fragment then
                    let next := { next with isFragment := true }
                    if stopAtFragment then next
                    else walkIpv6Loop packet stopAtFragment remaining next
                  else walkIpv6Loop packet stopAtFragment remaining next
                else headers
              else headers
      | .hopByHop | .ipv6Route | .ipv6Opts =>
          match remaining with
          | 0 => headers
          | remaining + 1 =>
              let offset := headers.transportOffset
              if offset ≤ packet.length then
                let rest := packet.drop offset
                if smoltcp.ipv6ExtHeaderNewChecked rest then
                  walkIpv6Loop packet stopAtFragment remaining
                    { headers with
                      protocol := Ipv6ExtHeader.nextHeader rest
                      transportOffset := offset + (Ipv6ExtHeader.headerLen rest + 1) * 8
                      activeRoutingHeader := headers.activeRoutingHeader ||
                        (headers.protocol == .ipv6Route && byteAt rest 3 != 0) }
                else headers
              else headers
      | _ => { headers with resolved := true }

def walkIpv6Headers (packet : Bytes) (stopAtFragment : Bool) : Ipv6Headers :=
  let headers : Ipv6Headers :=
    { protocol := .unknown 0
      transportOffset := ipv6BaseLen
      isFragment := false
      activeRoutingHeader := false
      resolved := false }
  if packet.length < ipv6BaseLen then headers
  else
    walkIpv6Loop smoltcp packet stopAtFragment maxIpv6ExtHeaders
      { headers with protocol := Ipv6Packet.nextHeader packet }

/-- Errors quote the original packet, whose destination need not be the router. -/
def getIcmpv4Error (transport : Bytes) (localAddress : Ipv4Address) : Option IcmpError :=
  if transport.length < icmpHeaderLen then none
  else
    let quoted := transport.drop icmpHeaderLen
    if quoted.length < ipv4BaseLen then none
    else
      let offset := Ipv4Packet.headerLen quoted
      if Ipv4Packet.version quoted != 4 || offset < ipv4BaseLen ||
          Ipv4Packet.srcAddr quoted != localAddress || Ipv4Packet.fragOffset quoted != 0 then none
      else
        let stop := min quoted.length (Ipv4Packet.totalLen quoted)
        if offset ≤ stop then
          getIcmpError (Ipv4Packet.nextHeader quoted) (.ipv4 localAddress)
            (.ipv4 (Ipv4Packet.dstAddr quoted)) (slice quoted offset stop)
        else none

def getIcmpv6Error (transport : Bytes) (localAddress : Ipv6Address) : Option IcmpError :=
  if transport.length < icmpHeaderLen then none
  else
    let quoted := transport.drop icmpHeaderLen
    if quoted.length < ipv6BaseLen then none
    else if Ipv6Packet.version quoted != 6 || Ipv6Packet.srcAddr quoted != localAddress then none
    else
      let destination := Ipv6Packet.dstAddr quoted
      let quoted := quoted.take (min quoted.length (Ipv6Packet.totalLen quoted))
      let headers := walkIpv6Headers smoltcp quoted false
      if !headers.resolved || headers.isFragment then none
      else if headers.transportOffset ≤ quoted.length then
        getIcmpError headers.protocol (.ipv6 localAddress) (.ipv6 destination)
          (quoted.drop headers.transportOffset)
      else none

def hasTcpReset (packet : Bytes) (transportOffset : Nat) : Bool :=
  (packet[transportOffset + tcpFlagsOffset]?.map fun flags => flags &&& tcpRstFlag != 0).getD false

/-- The ICMP fields of `inspect_ipv4_packet`: echo, quoted error and local-error flag. -/
def icmpv4Fields (packet : Bytes) (direction : Direction) (key : Key) :
    Option IcmpEcho × Option IcmpError × Bool :=
  let rawTransportOffset := Ipv4Packet.headerLen packet
  let transport := packet.drop (max rawTransportOffset ipv4BaseLen)
  if Ipv4Packet.nextHeader packet == .icmp && decide (icmpHeaderLen ≤ transport.length) then
    let messageType := (byteAt transport 0).toNat
    let echo := getIcmpEcho transport false
    let isError := (messageType == 3 || messageType == 11 || messageType == 12) &&
      Ipv4Packet.version packet == 4 && decide (ipv4BaseLen ≤ rawTransportOffset) &&
      decide (rawTransportOffset + icmpHeaderLen ≤ Ipv4Packet.totalLen packet)
    let localError := isError && direction == .outbound && key.localAddress == key.remoteAddress
    let error :=
      if isError && (direction == .inbound || localError) then
        let stop := min packet.length (Ipv4Packet.totalLen packet)
        if rawTransportOffset ≤ stop then
          getIcmpv4Error (slice packet rawTransportOffset stop) (Ipv4Packet.dstAddr packet)
        else none
      else none
    (echo, error, localError)
  else (none, none, false)

def ipv4Metadata (packet : Bytes) (direction : Direction) : PacketMetadata :=
  let protocol := Ipv4Packet.nextHeader packet
  let rawTransportOffset := Ipv4Packet.headerLen packet
  let transport := packet.drop (max rawTransportOffset ipv4BaseLen)
  let (sourcePort, destinationPort) := getPorts transport protocol
  let key := buildKey direction protocol (.ipv4 (Ipv4Packet.srcAddr packet)) sourcePort
    (.ipv4 (Ipv4Packet.dstAddr packet)) destinationPort
  let (icmpEcho, icmpError, isLocalIcmpError) := icmpv4Fields packet direction key
  { key := key
    icmpEcho := icmpEcho
    icmpError := icmpError
    isLocalIcmpError := isLocalIcmpError
    isTcpReset := protocol == .tcp &&
      decide (ipv4BaseLen ≤ rawTransportOffset ∧ rawTransportOffset ≤ ipv4MaxHeaderLen) &&
      hasTcpReset packet rawTransportOffset }

def inspectIpv4Packet (packet : Bytes) (direction : Direction) (permitFragments : Bool) :
    PacketInspection :=
  if packet.length < ipv4BaseLen then .unreadable
  else
    let isFragment := Ipv4Packet.fragOffset packet != 0 || Ipv4Packet.moreFrags packet
    if permitFragments && isFragment then
      { isFragment := isFragment
        metadata := .error .fragmentRequiresReassembly }
    -- Four bytes beyond the base header must be readable for every protocol.
    else if packet.length < ipv4BaseLen + 4 then
      { isFragment := isFragment
        metadata := .error .unreadablePacket }
    else
      { isFragment := isFragment
        metadata := .ok (ipv4Metadata packet direction) }

def icmpv6Fields (packet : Bytes) (direction : Direction) (headers : Ipv6Headers) (key : Key) :
    Option IcmpEcho × Option IcmpError × Bool :=
  let transport := packet.drop headers.transportOffset
  if headers.protocol == .icmpv6 && decide (icmpHeaderLen ≤ transport.length) then
    let messageType := (byteAt transport 0).toNat
    let echo := getIcmpEcho transport true
    let isError := decide (1 ≤ messageType ∧ messageType ≤ 4) &&
      Ipv6Packet.version packet == 6 &&
      decide (headers.transportOffset + icmpHeaderLen ≤ Ipv6Packet.totalLen packet)
    let localError := isError && direction == .outbound && key.localAddress == key.remoteAddress
    let error :=
      if isError && (direction == .inbound || localError) then
        let stop := min packet.length (Ipv6Packet.totalLen packet)
        if headers.transportOffset ≤ stop then
          getIcmpv6Error smoltcp (slice packet headers.transportOffset stop)
            (Ipv6Packet.dstAddr packet)
        else none
      else none
    (echo, error, localError)
  else (none, none, false)

def ipv6Metadata (packet : Bytes) (direction : Direction) (headers : Ipv6Headers) :
    PacketMetadata :=
  let transport := packet.drop headers.transportOffset
  let (sourcePort, destinationPort) := getPorts transport headers.protocol
  let key := buildKey direction headers.protocol (.ipv6 (Ipv6Packet.srcAddr packet)) sourcePort
    (.ipv6 (Ipv6Packet.dstAddr packet)) destinationPort
  let (icmpEcho, icmpError, isLocalIcmpError) := icmpv6Fields smoltcp packet direction headers key
  { key := key
    icmpEcho := icmpEcho
    icmpError := icmpError
    isLocalIcmpError := isLocalIcmpError
    isTcpReset := headers.protocol == .tcp && hasTcpReset packet headers.transportOffset }

def inspectIpv6Packet (packet : Bytes) (direction : Direction) (permitFragments : Bool) :
    PacketInspection :=
  if packet.length < ipv6BaseLen then .unreadable
  else
    let headers := walkIpv6Headers smoltcp packet permitFragments
    if permitFragments && headers.isFragment then
      { isFragment := true
        metadata := .error .fragmentRequiresReassembly }
    else if !headers.resolved then
      { isFragment := headers.isFragment
        metadata := .error .unresolvedIpv6Headers }
    else
      { isFragment := headers.isFragment
        metadata := .ok (ipv6Metadata smoltcp packet direction headers) }

/-- Parses the metadata of the packet callout from one prefix. -/
def inspectPacket (packet : Bytes) (ipv6 : Bool) (direction : Direction)
    (permitFragments : Bool) : PacketInspection :=
  if ipv6 then inspectIpv6Packet smoltcp packet direction permitFragments
  else inspectIpv4Packet packet direction permitFragments

end Original

end WindowsKext
