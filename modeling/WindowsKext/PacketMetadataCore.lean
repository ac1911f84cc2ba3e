import WindowsKext.Ipv6PacketCore

/-! The on-demand packet inspector of `packet_metadata.rs`. Its accessors read a packet source
and cache the header, so they pass the inspector on. -/

namespace WindowsKext

open ByteString

def maxPacketInspectLen : Nat := 128

def ipv4MaxHeaderLen : Nat := 60
def icmpHeaderLen : Nat := 8
def tcpFlagsOffset : Nat := 13
def tcpRstFlag : UInt8 := 0x04

inductive PacketMetadataError where
  | unreadablePacket
  | unresolvedIpv6Headers
  | fragmentRequiresReassembly
deriving DecidableEq

def PacketMetadataError.toString : PacketMetadataError → String
  | .unreadablePacket => "failed to get net_buffer data"
  | .unresolvedIpv6Headers => "IPv6 extension header chain did not resolve"
  | .fragmentRequiresReassembly => "IP fragment requires reassembly"

structure IcmpEcho where
  isRequest : Bool
  identifier : UInt16
  sequence : UInt16
deriving DecidableEq

/-- An outbound loopback reply has the remote address of its request as its source. -/
def IcmpEcho.loopbackReplyKey (echo : IcmpEcho) (key : Key) : Option Key :=
  if !echo.isRequest && key.isLoopbackLike then some key.reverse else none

inductive IcmpError where
  | transport (protocol : IpProtocol) (remoteAddress : IpAddress) (localPort remotePort : UInt16)
  | echo (remoteAddress : IpAddress) (identifier sequence : UInt16)
deriving DecidableEq

structure IcmpMetadata where
  echo : Option IcmpEcho
  error : Option IcmpError
  isLocalError : Bool
deriving DecidableEq

def IcmpMetadata.default : IcmpMetadata where
  echo := none
  error := none
  isLocalError := false

def buildKey (direction : Direction) (protocol : IpProtocol) (sourceAddress : IpAddress)
    (sourcePort : UInt16) (destinationAddress : IpAddress) (destinationPort : UInt16) : Key :=
  match direction with
  | .outbound =>
      { protocol := protocol
        localAddress := sourceAddress
        localPort := sourcePort
        remoteAddress := destinationAddress
        remotePort := destinationPort }
  | .inbound =>
      { protocol := protocol
        localAddress := destinationAddress
        localPort := destinationPort
        remoteAddress := sourceAddress
        remotePort := sourcePort }

def getPorts (transport : Bytes) (protocol : IpProtocol) : UInt16 × UInt16 :=
  if !(protocol == .tcp || protocol == .udp) || transport.length < 4 then (0, 0)
  else (portAt transport 0, portAt transport 2)

def getIcmpEcho (transport : Bytes) (ipv6 : Bool) : Option IcmpEcho :=
  if transport.length < icmpHeaderLen then none
  else
    let messageType := byteAt transport 0
    let isRequest := if ipv6 then messageType == 128 else messageType == 8
    let isReply := if ipv6 then messageType == 129 else messageType == 0
    if !isRequest && !isReply then none
    else
      some {
        isRequest := isRequest
        identifier := portAt transport 4
        sequence := portAt transport 6 }

def IpAddress.isIpv6 : IpAddress → Bool
  | .ipv6 _ => true
  | .ipv4 _ => false

def getIcmpError (protocol : IpProtocol) (localAddress remoteAddress : IpAddress)
    (transport : Bytes) : Option IcmpError :=
  match protocol with
  | .tcp | .udp =>
      if transport.length < 4 then none
      else
        let (localPort, remotePort) := getPorts transport protocol
        some (.transport protocol remoteAddress localPort remotePort)
  | .icmp | .icmpv6 =>
      if (protocol == .icmpv6) != localAddress.isIpv6 then none
      else
        match getIcmpEcho transport (protocol == .icmpv6) with
        | none => none
        | some echo =>
            if echo.isRequest && byteAt transport 1 == 0 then
              some (.echo remoteAddress echo.identifier echo.sequence)
            else none
  | _ => none

/-- The cached header. The walk advances over at most eight headers of 2048 bytes, so the offset
fits in 16 bits. -/
structure HeaderInspection where
  protocol : IpProtocol
  transportOffset : Nat
  isFragment : Bool
  validTcpFlags : Bool
  error : Option PacketMetadataError
deriving DecidableEq

def HeaderInspection.unreadable : HeaderInspection where
  protocol := .unknown 0
  transportOffset := 0
  isFragment := false
  validTcpFlags := false
  error := some .unreadablePacket

structure PacketWindow (S : Type) where
  reader : S
  start : Nat
  stop : Nat

instance {S : Type} [PacketData S] : PacketData (PacketWindow S) where
  len window := window.stop - window.start
  readPrefix window length :=
    let stop := window.start + length
    if stop > window.stop then (none, window)
    else
      let (bytes, reader) := PacketData.readPrefix window.reader stop
      (bytes.bind fun bytes =>
          if stop ≤ bytes.length then some (slice bytes window.start stop) else none,
        { window with reader := reader })

structure PacketInspector (S : Type) where
  reader : S
  ipv6 : Bool
  direction : Direction
  permitFragments : Bool
  header : Option HeaderInspection
  tcpReset : Option Bool

namespace PacketInspector

variable {S : Type} [PacketData S]

def new (reader : S) (ipv6 : Bool) (direction : Direction) (permitFragments : Bool) :
    PacketInspector S where
  reader := reader
  ipv6 := ipv6
  direction := direction
  permitFragments := permitFragments
  header := none
  tcpReset := none

def baseLength (ipv6 : Bool) : Nat := if ipv6 then ipv6BaseLen else ipv4BaseLen

def parseBaseHeader (packet : Bytes) (ipv6 permitFragments : Bool) : HeaderInspection :=
  if ipv6 then
    { protocol := IpProtocol.ofNumber (byteAt packet 6)
      transportOffset := ipv6BaseLen
      isFragment := false
      validTcpFlags := true
      error := none }
  else
    let isFragment := Ipv4Packet.fragOffset packet != 0 || Ipv4Packet.moreFrags packet
    let rawOffset := Ipv4Packet.headerLen packet
    { protocol := IpProtocol.ofNumber (byteAt packet 9)
      transportOffset := max rawOffset ipv4BaseLen
      isFragment := isFragment
      validTcpFlags := decide (ipv4BaseLen ≤ rawOffset ∧ rawOffset ≤ ipv4MaxHeaderLen)
      error := if permitFragments && isFragment then some .fragmentRequiresReassembly else none }

def keyAddresses (packet : Bytes) (ipv6 : Bool) : IpAddress × IpAddress :=
  if ipv6 then (.ipv6 (ipv6AddressAt packet 8), .ipv6 (ipv6AddressAt packet 24))
  else (.ipv4 (ipv4AddressAt packet 12), .ipv4 (ipv4AddressAt packet 16))

def parseKey (packet : Bytes) (ipv6 : Bool) (direction : Direction) (header : HeaderInspection) :
    Key :=
  let (source, destination) := keyAddresses packet ipv6
  let (sourcePort, destinationPort) :=
    getPorts (packet.drop header.transportOffset) header.protocol
  buildKey direction header.protocol source sourcePort destination destinationPort

def resolveIpv6Header (inspector : PacketInspector S) (header : HeaderInspection) :
    HeaderInspection × PacketInspector S :=
  if inspector.ipv6 && header.error.isNone && header.protocol.isExtension then
    let (headers, reader) :=
      walkIpv6HeadersReader inspector.reader inspector.permitFragments false
    ({ header with
        protocol := headers.protocol
        transportOffset := headers.transportOffset % 65536
        isFragment := headers.isFragment
        error :=
          if inspector.permitFragments && headers.isFragment then some .fragmentRequiresReassembly
          else if !headers.resolved then some .unresolvedIpv6Headers
          else none },
      { inspector with reader := reader })
  else (header, inspector)

/-- The first read, with four bytes of lookahead for the ports. -/
def readInitial (inspector : PacketInspector S) : Option Bytes × PacketInspector S :=
  let initialLength := min (PacketData.len inspector.reader) (baseLength inspector.ipv6 + 4)
  if baseLength inspector.ipv6 ≤ initialLength then
    let (packet, reader) := PacketData.readPrefix inspector.reader initialLength
    (packet, { inspector with reader := reader })
  else (none, inspector)

def readBase (inspector : PacketInspector S) : Option Bytes × PacketInspector S :=
  let (packet, reader) := PacketData.readPrefix inspector.reader (baseLength inspector.ipv6)
  (packet, { inspector with reader := reader })

def readHeader (inspector : PacketInspector S) : HeaderInspection × PacketInspector S :=
  let (initial, inspector) := inspector.readInitial
  let (packet, inspector) :=
    match initial with
    | some packet => (some packet, inspector)
    | none => inspector.readBase
  let header := (packet.map fun packet =>
    parseBaseHeader packet inspector.ipv6 inspector.permitFragments).getD .unreadable
  let (header, inspector) := inspector.resolveIpv6Header header
  (header, { inspector with header := some header })

def getHeader (inspector : PacketInspector S) : HeaderInspection × PacketInspector S :=
  match inspector.header with
  | some header => (header, inspector)
  | none => inspector.readHeader

def isFragment (inspector : PacketInspector S) : Bool × PacketInspector S :=
  let (header, inspector) := inspector.getHeader
  (header.isFragment, inspector)

/-- The second half of `read_key`, after the header was cached. -/
def readKeyFromHeader (inspector : PacketInspector S) :
    Except PacketMetadataError Key × PacketInspector S :=
  let (header, inspector) := inspector.getHeader
  match header.error with
  | some error => (.error error, inspector)
  | none =>
      -- Four bytes behind an IPv4 header are required even for protocols without ports.
      let length := if inspector.ipv6 then ipv6BaseLen else ipv4BaseLen + 4
      match PacketData.readPrefix inspector.reader length with
      | (none, reader) => (.error .unreadablePacket, { inspector with reader := reader })
      | (some packet, reader) =>
          let inspector := { inspector with reader := reader }
          let (source, destination) := keyAddresses packet inspector.ipv6
          let offset := header.transportOffset
          let finish (ports : UInt16 × UInt16) : Key :=
            buildKey inspector.direction header.protocol source ports.1 destination ports.2
          if header.protocol == .tcp || header.protocol == .udp then
            if offset + 4 ≤ packet.length then
              (.ok (finish (getPorts (slice packet offset (offset + 4)) header.protocol)),
                inspector)
            else if offset + 4 > PacketData.len inspector.reader then (.ok (finish (0, 0)), inspector)
            else
              -- Present but unreadable ports must not produce a cache-miss key.
              match PacketData.readPrefix inspector.reader (offset + 4) with
              | (some packet, reader) =>
                  (.ok (finish (getPorts (packet.drop offset) header.protocol)),
                    { inspector with reader := reader })
              | (none, reader) => (.error .unreadablePacket, { inspector with reader := reader })
          else (.ok (finish (0, 0)), inspector)

/-- The part of `read_key` for a successful first read. -/
def keyFromInitial (inspector : PacketInspector S) (packet : Bytes) :
    Except PacketMetadataError Key × PacketInspector S :=
  let header := parseBaseHeader packet inspector.ipv6 inspector.permitFragments
  let inspector := { inspector with header := some header }
  match header.error with
  | some error => (.error error, inspector)
  | none =>
      let extension := inspector.ipv6 && header.protocol.isExtension
      let keyEnd :=
        if header.protocol == .tcp || header.protocol == .udp then header.transportOffset + 4
        else if inspector.ipv6 then ipv6BaseLen
        else ipv4BaseLen + 4
      if !extension && keyEnd ≤ packet.length then
        -- The common path parses the key from the first read itself.
        (.ok (parseKey packet inspector.ipv6 inspector.direction header), inspector)
      else if extension then
        let (header, inspector) := inspector.resolveIpv6Header header
        { inspector with header := some header }.readKeyFromHeader
      else inspector.readKeyFromHeader

def key (inspector : PacketInspector S) : Except PacketMetadataError Key × PacketInspector S :=
  match inspector.header with
  | some _ => inspector.readKeyFromHeader
  | none =>
      match inspector.readInitial with
      | (some packet, inspector) => inspector.keyFromInitial packet
      | (none, inspector) =>
          let (packet, inspector) := inspector.readBase
          let header := (packet.map fun packet =>
            parseBaseHeader packet inspector.ipv6 inspector.permitFragments).getD .unreadable
          let (header, inspector) := inspector.resolveIpv6Header header
          { inspector with header := some header }.readKeyFromHeader

/-- One retry after an actual failure. -/
def retryKey (inspector : PacketInspector S) : Except PacketMetadataError Key × PacketInspector S :=
  { inspector with
    permitFragments := false
    header := none
    tcpReset := none }.key

def isTcpReset (inspector : PacketInspector S) : Bool × PacketInspector S :=
  match inspector.tcpReset with
  | some reset => (reset, inspector)
  | none =>
      let (header, inspector) := inspector.getHeader
      if header.error.isNone && header.protocol == .tcp && header.validTcpFlags then
        let (flags, reader) :=
          PacketData.readByte inspector.reader (header.transportOffset + tcpFlagsOffset)
        let reset := (flags.map fun flags => flags &&& tcpRstFlag != 0).getD false
        (reset, { inspector with
          reader := reader
          tcpReset := some reset })
      else (false, { inspector with tcpReset := some false })

/-- The bytes of a quoted transport header that an error needs. -/
def quotedTransportLength (ipv6 : Bool) : IpProtocol → Option Nat
  | .tcp | .udp => some 4
  | .icmp => if !ipv6 then some icmpHeaderLen else none
  | .icmpv6 => if ipv6 then some icmpHeaderLen else none
  | _ => none

/-- The part of `read_icmp_error` behind the quoted IP headers. -/
def readQuotedTransport (ipv6 : Bool) (key : Key) (quote : PacketWindow S)
    (protocol : IpProtocol) (offset : Nat) : Option IcmpError × PacketWindow S :=
  match quotedTransportLength ipv6 protocol with
  | none => (none, quote)
  | some transportLength =>
      match PacketData.readPrefix quote (offset + transportLength) with
      | (none, quote) => (none, quote)
      | (some quoted, quote) =>
          let destination : IpAddress :=
            if ipv6 then .ipv6 (Ipv6Packet.dstAddr quoted) else .ipv4 (Ipv4Packet.dstAddr quoted)
          (getIcmpError protocol key.localAddress destination (quoted.drop offset), quote)

def readIcmpError (inspector : PacketInspector S) (key : Key) (quoteOffset packetEnd : Nat) :
    Option IcmpError × PacketInspector S :=
  let quote : PacketWindow S :=
    { reader := inspector.reader
      start := quoteOffset
      stop := min (PacketData.len inspector.reader) packetEnd }
  let (error, quote) :=
    match PacketData.readPrefix quote (baseLength inspector.ipv6) with
    | (none, quote) => (none, quote)
    | (some quoted, quote) =>
        if inspector.ipv6 then
          if Ipv6Packet.version quoted != 6 || IpAddress.ipv6 (Ipv6Packet.srcAddr quoted) !=
              key.localAddress then (none, quote)
          else
            let quote :=
              { quote with stop := min quote.stop (quoteOffset + Ipv6Packet.totalLen quoted) }
            let (headers, quote) := walkIpv6HeadersReader quote false false
            if !headers.resolved || headers.isFragment then (none, quote)
            else readQuotedTransport true key quote headers.protocol headers.transportOffset
        else
          let offset := Ipv4Packet.headerLen quoted
          if Ipv4Packet.version quoted != 4 || offset < ipv4BaseLen ||
              IpAddress.ipv4 (Ipv4Packet.srcAddr quoted) != key.localAddress ||
              Ipv4Packet.fragOffset quoted != 0 then (none, quote)
          else
            let quote :=
              { quote with stop := min quote.stop (quoteOffset + Ipv4Packet.totalLen quoted) }
            readQuotedTransport false key quote (Ipv4Packet.nextHeader quoted) offset
  (error, { inspector with reader := quote.reader })

/-- The declared end of a packet, and whether its ICMP message is of an error type. -/
def icmpErrorBounds (packet transport : Bytes) (ipv6 : Bool) : Nat × Bool :=
  let messageType := (byteAt transport 0).toNat
  if ipv6 then
    (Ipv6Packet.totalLen packet,
      Ipv6Packet.version packet == 6 && decide (1 ≤ messageType ∧ messageType ≤ 4))
  else
    (Ipv4Packet.totalLen packet,
      Ipv4Packet.version packet == 4 && decide (ipv4BaseLen ≤ Ipv4Packet.headerLen packet) &&
        (messageType == 3 || messageType == 11 || messageType == 12))

/-- The part of `read_icmp_metadata` for a readable message. -/
def readIcmpMessage (inspector : PacketInspector S) (key : Key) (packet : Bytes) (offset : Nat) :
    IcmpMetadata × PacketInspector S :=
  let stop := offset + icmpHeaderLen
  let transport := packet.drop offset
  let echo := getIcmpEcho transport inspector.ipv6
  let (packetEnd, validError) := icmpErrorBounds packet transport inspector.ipv6
  let isError := validError && decide (stop ≤ packetEnd)
  let isLocalError := isError && inspector.direction == .outbound &&
    key.localAddress == key.remoteAddress
  let (error, inspector) :=
    if isError && (inspector.direction == .inbound || isLocalError) then
      inspector.readIcmpError key stop packetEnd
    else (none, inspector)
  ({ echo := echo
     error := error
     isLocalError := isLocalError }, inspector)

def readIcmpMetadata (inspector : PacketInspector S) (key : Key) :
    Option IcmpMetadata × PacketInspector S :=
  let (header, inspector) := inspector.getHeader
  if header.error.isSome || header.protocol != (if inspector.ipv6 then .icmpv6 else .icmp) then
    (none, inspector)
  else
    let offset := header.transportOffset
    match PacketData.readPrefix inspector.reader (offset + icmpHeaderLen) with
    | (none, reader) => (none, { inspector with reader := reader })
    | (some packet, reader) =>
        let (metadata, inspector) :=
          { inspector with reader := reader }.readIcmpMessage key packet offset
        (some metadata, inspector)

def icmpMetadata (inspector : PacketInspector S) (key : Key) :
    IcmpMetadata × PacketInspector S :=
  let (metadata, inspector) := inspector.readIcmpMetadata key
  (metadata.getD .default, inspector)

end PacketInspector

end WindowsKext
