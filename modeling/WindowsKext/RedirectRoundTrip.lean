import WindowsKext.PacketEndpoints
import WindowsKext.RedirectReplies

/-! A redirected packet and the reply of the local service. The reply is found through the redirect
rule and carries the endpoints of the connection again. -/

namespace WindowsKext

open ByteString

variable {A : Type} [AddressFamily A] [DecidableEq A]

/-- The connection is the only live entry that a key matches, and it does so by redirect. -/
structure OnlyReplyEntry (map : ConnectionMap A) (key : Key) (connection : Connection A) :
    Prop where
  member : connection ∈ map.scan key
  redirect : ∀ entry ∈ map.scan key, isLiveRedirect key entry = true → entry = connection
  exact : ∀ entry ∈ map.scan key, isLiveExact key entry = false

omit [DecidableEq A] in
theorem mem_iter_of_get {connections : RemoteConnections A} {endpoint : RemoteEndpoint A}
    {bucket : ConnectionBucket (Connection A)} (found : connections.get endpoint = some bucket) :
    ∀ entry ∈ bucket.iter, entry ∈ connections.iter := by
  intro entry member
  rw [RemoteConnections.iter, List.mem_flatMap]
  refine ⟨bucket, ?_, member⟩
  cases connections with
  | empty => cases found
  | one stored =>
      simp only [RemoteConnections.get] at found
      split at found
      · cases found
        exact List.mem_singleton_self _
      · cases found
  | many stored =>
      have listed := Std.TreeMap.mem_toList_iff_getElem?_eq_some.mpr found
      exact List.mem_map.mpr ⟨_, listed, rfl⟩

theorem OnlyReplyEntry.readForPacket {map : ConnectionMap A} {key : Key}
    {connection : Connection A} (only : OnlyReplyEntry map key connection)
    (live : connection.hasEnded = false) (redirects : connection.redirectEquals key = true)
    (now : Nat) :
    (map.readForPacket false now key .inbound some).1 =
      some (refreshUntrackedActivity now connection) := by
  cases inMap : map[key.small]? with
  | none =>
      have member := only.member
      rw [ConnectionMap.scan, inMap] at member
      cases member
  | some connections =>
      have scan : map.scan key = connections.iter := by rw [ConnectionMap.scan, inMap]; rfl
      have liveRedirect : (ConnectionMap.redirectMatches false connections key).1 =
          some connection := by
        rw [ConnectionMap.redirectMatches, if_pos (Connection.redirectEquals_port redirects),
          (ConnectionMap.liveAndEndedMatch_spec _ _ _).1]
        cases found : connections.iter.find? fun entry =>
            entry.redirectEquals key && !entry.hasEnded with
        | none =>
            have rejected := List.find?_eq_none.mp found connection (scan ▸ only.member)
            simp [redirects, live] at rejected
        | some entry =>
            have listed := List.mem_of_find?_eq_some found
            rw [← scan] at listed
            rw [only.redirect entry listed (List.find?_some found)]
      have noExact : (ConnectionMap.exactMatches connections key).1 = none := by
        unfold ConnectionMap.exactMatches
        cases found : (remoteEndpointFromKey A key).bind connections.get with
        | none => rfl
        | some bucket =>
            dsimp only
            rw [(ConnectionMap.liveAndEndedMatch_spec _ _ _).1, List.find?_eq_none]
            intro entry member
            obtain ⟨endpoint, -, got⟩ := Option.bind_eq_some_iff.mp found
            have listed := mem_iter_of_get got entry member
            rw [← scan] at listed
            simpa [isLiveExact] using only.exact entry listed
      unfold ConnectionMap.readForPacket ConnectionMap.read ConnectionMap.readMatching
      simp only [inMap]
      rw [noExact, liveRedirect]

/-- The reply of a local service: the packet with its endpoints exchanged. -/
def swapEndpoints (ipv6 : Bool) (packet : Bytes) : Bytes :=
  if ipv6 then swapIpv6Endpoints packet else swapIpv4Endpoints packet

theorem isIpv6_ipv4 : AddressFamily.isIpv6 Ipv4Address = false := rfl

theorem isIpv6_ipv6 : AddressFamily.isIpv6 Ipv6Address = true := rfl

/-- The checksums of a packet verify. IPv6 has none of its own. -/
def ChecksumsVerify (ipv6 : Bool) (packet : Bytes) : Prop :=
  if ipv6 then
    ∃ context, Located packet context ∧
      TransportVerifies (.ipv6 (Ipv6Packet.srcAddr packet)) (.ipv6 (Ipv6Packet.dstAddr packet))
        (protocolNumber context.protocol) (coveredTransport packet context)
  else Ipv4HeaderVerifies packet ∧ Ipv4TransportVerifies packet

/-- A packet of a redirected connection reaches the local service, and the reply of the service
comes back from the original remote endpoint. -/
def RoundTrips (smoltcp : Smoltcp) (map : ConnectionMap A) (connection : Connection A)
    (packet : Bytes) : Prop :=
  ∃ redirectInfo redirected replyKey restored,
    connection.redirectInfo = some redirectInfo ∧
      redirectNetBuffer smoltcp ⟨some packet⟩ false redirectInfo = (.ok (), ⟨some redirected⟩) ∧
      (∀ permitFragments,
        (PacketInspector.new (swapEndpoints (AddressFamily.isIpv6 A) redirected)
          (AddressFamily.isIpv6 A) .inbound permitFragments).key.1 = .ok replyKey) ∧
      (OnlyReplyEntry map replyKey connection →
        ∀ now, (map.readForPacket false now replyKey .inbound some).1 =
          some (refreshUntrackedActivity now connection)) ∧
      redirectNetBuffer smoltcp ⟨some (swapEndpoints (AddressFamily.isIpv6 A) redirected)⟩ true
        redirectInfo = (.ok (), ⟨some restored⟩) ∧
      Carries smoltcp restored connection.getKey.reverse ∧
      ChecksumsVerify (AddressFamily.isIpv6 A) restored

omit [DecidableEq A] in
/-- The two ways to redirect: to the loopback address of the family, or to the own address of the
packet. Either is recognized in the reply key. -/
theorem redirectInfo_cases (connection : Connection A)
    (redirects : connection.verdict.isRedirect = true) :
    ∃ port unify, connection.redirectInfo = some
        { localAddress := connection.getLocalAddress
          remoteAddress := connection.getRemoteAddress
          remotePort := connection.remotePort
          redirectPort := port
          unify := unify
          redirectAddress := AddressFamily.redirectAddress A } ∧
      ∀ key : Key, key.remotePort = port →
        (unify = true → key.localAddress = key.remoteAddress) →
        (unify = false → ∃ address : A, AddressFamily.ofIpAddress key.remoteAddress = some address ∧
          AddressFamily.isLoopback address = true) →
        connection.redirectEquals key = true := by
  unfold Connection.redirectInfo Connection.redirectEquals
  cases verdict : connection.verdict with
  | redirectNameServer =>
      refine ⟨_, _, rfl, ?_⟩
      intro key port _ loopback
      obtain ⟨address, found, isLoopback⟩ := loopback rfl
      simp [port, found, isLoopback]
  | redirectTunnel | redirectSplitTunnel =>
      refine ⟨_, _, rfl, ?_⟩
      intro key port unified _
      simp [port, unified rfl]
  | _ =>
      rw [verdict] at redirects
      cases redirects

theorem roundTrips_of_steps {smoltcp : Smoltcp} {map : ConnectionMap A}
    {connection : Connection A} {packet redirected restored : Bytes} {redirectInfo : RedirectInfo}
    {replyKey : Key} (live : connection.hasEnded = false)
    (info : connection.redirectInfo = some redirectInfo)
    (outbound : redirectOutboundPacket smoltcp packet redirectInfo.redirectAddress
      redirectInfo.redirectPort redirectInfo.unify = (.ok (), redirected))
    (inspected : ∀ permitFragments,
      keyOf (swapEndpoints (AddressFamily.isIpv6 A) redirected) (AddressFamily.isIpv6 A) .inbound
        (fullHeader (swapEndpoints (AddressFamily.isIpv6 A) redirected) (AddressFamily.isIpv6 A)
          permitFragments) = .ok replyKey)
    (recognizes : connection.redirectEquals replyKey = true)
    (inbound : redirectInboundPacket smoltcp (swapEndpoints (AddressFamily.isIpv6 A) redirected)
      redirectInfo.localAddress redirectInfo.remoteAddress redirectInfo.remotePort =
        (.ok (), restored))
    (carries : Carries smoltcp restored connection.getKey.reverse)
    (verifies : ChecksumsVerify (AddressFamily.isIpv6 A) restored) :
    RoundTrips smoltcp map connection packet := by
  refine ⟨redirectInfo, redirected, replyKey, restored, info, ?_, ?_, ?_, ?_, carries, verifies⟩
  · simp only [redirectNetBuffer, Bool.false_eq_true, ↓reduceIte, outbound]
  · intro permitFragments
    have inspects := inspects_new (serves_bytes (swapEndpoints (AddressFamily.isIpv6 A) redirected))
      (AddressFamily.isIpv6 A) .inbound permitFragments
    rw [inspects.key]
    exact inspected permitFragments
  · intro only now
    exact only.readForPacket live recognizes now
  · simp only [redirectNetBuffer, ↓reduceIte, inbound]

section Families

variable {smoltcp : Smoltcp} {packet : Bytes}

theorem roundTrips_ipv4 (lengths : smoltcp.ChecksLengths) (fills : smoltcp.FillsChecksums)
    (map : ConnectionMap Ipv4Address) (connection : ConnectionV4)
    (live : connection.hasEnded = false) (redirects : connection.verdict.isRedirect = true)
    (carries : CarriesIpv4 smoltcp packet connection.getKey) :
    RoundTrips smoltcp map connection packet := by
  obtain ⟨port, unify, info, recognized⟩ := redirectInfo_cases connection redirects
  have outbound := @redirectOutboundPacket_ipv4 smoltcp packet
    (Ipv4Address.new 127 0 0 1) port unify
  rw [if_pos carries.wellFormed.unfragmented.checked] at outbound
  have loopback : (Ipv4Address.new 127 0 0 1).isLoopback = true := by decide
  rw [loopback, Bool.and_true] at outbound
  generalize sourceEq : (if (!unify) = true then Ipv4Address.new 127 0 0 1
    else Ipv4Packet.srcAddr packet) = newSource at outbound
  generalize destinationEq : (if unify = true then Ipv4Packet.srcAddr packet
    else Ipv4Address.new 127 0 0 1) = newDestination at outbound
  have redirected := carries.rewritten lengths fills newSource newDestination (.destination port)
  have reply := redirected.swapped lengths
  have restored := reply.rewritten lengths fills connection.remoteAddress connection.localAddress
    (.source connection.remotePort)
  have verifies := ipv4Rewritten_redirected lengths fills reply.wellFormed
    connection.remoteAddress connection.localAddress (.source connection.remotePort)
  have swapped : swapEndpoints (AddressFamily.isIpv6 Ipv4Address) (ipv4Rewritten smoltcp packet
      newSource newDestination (.destination port)) = swapIpv4Endpoints (ipv4Rewritten smoltcp
        packet newSource newDestination (.destination port)) := by
    rw [swapEndpoints, isIpv6_ipv4, if_neg Bool.false_ne_true]
  have inspected := reply.inspected lengths .inbound
  rw [← swapped, ← isIpv6_ipv4] at inspected
  refine roundTrips_of_steps live info outbound inspected ?_ ?_ (.ipv4 restored) ?_
  · refine recognized _ rfl ?_ ?_
    · rintro rfl
      exact congrArg IpAddress.ipv4 (sourceEq.symm.trans destinationEq)
    · rintro rfl
      exact ⟨newDestination, rfl, destinationEq ▸ loopback⟩
  · rw [swapped]
    have inbound := @redirectInboundPacket_ipv4 smoltcp
      (swapIpv4Endpoints (ipv4Rewritten smoltcp packet newSource newDestination
        (.destination port))) connection.localAddress connection.remoteAddress
      connection.remotePort
    rw [if_pos reply.wellFormed.unfragmented.checked] at inbound
    exact inbound
  · rw [ChecksumsVerify, isIpv6_ipv4, if_neg Bool.false_ne_true]
    exact ⟨verifies.header, verifies.transport⟩

theorem roundTrips_ipv6 (lengths : smoltcp.ChecksLengths) (fills : smoltcp.FillsChecksums)
    (map : ConnectionMap Ipv6Address) (connection : ConnectionV6)
    (live : connection.hasEnded = false) (redirects : connection.verdict.isRedirect = true)
    {context : TransportContext} (carries : CarriesIpv6 smoltcp packet context connection.getKey) :
    RoundTrips smoltcp map connection packet := by
  obtain ⟨port, unify, info, recognized⟩ := redirectInfo_cases connection redirects
  have loopback : Ipv6Address.loopback.isLoopback = true := by decide
  generalize sourceEq : (if (!unify) = true then Ipv6Address.loopback
    else Ipv6Packet.srcAddr packet) = newSource
  generalize destinationEq : (if unify = true then Ipv6Packet.srcAddr packet
    else Ipv6Address.loopback) = newDestination
  have found := carries.wellFormed.located.transportContext lengths
  have outbound : redirectOutboundPacket smoltcp packet (.ipv6 Ipv6Address.loopback) port unify =
      (.ok (), rewritten smoltcp packet context newSource newDestination (.destination port)) := by
    simp only [redirectOutboundPacket, carries.wellFormed.newChecked lengths, ↓reduceIte, loopback,
      Bool.and_true, sourceEq, destinationEq, rewriteIpv6TcpUdp_of_checked lengths found
      carries.wellFormed.transport]
    rfl
  have redirected := carries.rewritten lengths fills newSource newDestination (.destination port)
  have reply := redirected.swapped lengths
  have restored := reply.rewritten lengths fills connection.remoteAddress connection.localAddress
    (.source connection.remotePort)
  have addresses := rewritten_addresses lengths fills reply.wellFormed.located
    reply.wellFormed.transport connection.remoteAddress connection.localAddress
    (.source connection.remotePort)
  have verifies := rewritten_verifies lengths fills reply.wellFormed.located
    reply.wellFormed.transport connection.remoteAddress connection.localAddress
    (.source connection.remotePort)
  have swapped : swapEndpoints (AddressFamily.isIpv6 Ipv6Address) (rewritten smoltcp packet
      context newSource newDestination (.destination port)) = swapIpv6Endpoints (rewritten smoltcp
        packet context newSource newDestination (.destination port)) := by
    rw [swapEndpoints, isIpv6_ipv6, if_pos rfl]
  have inspected := reply.inspected lengths .inbound
  rw [← swapped, ← isIpv6_ipv6] at inspected
  refine roundTrips_of_steps live info outbound inspected ?_ ?_ (.ipv6 _ restored) ?_
  · refine recognized _ rfl ?_ ?_
    · rintro rfl
      exact congrArg IpAddress.ipv6 (sourceEq.symm.trans destinationEq)
    · rintro rfl
      exact ⟨newDestination, rfl, destinationEq ▸ loopback⟩
  · rw [swapped]
    have rewrite := rewriteIpv6TcpUdp_of_checked lengths
      (reply.wellFormed.located.transportContext lengths) reply.wellFormed.transport
      connection.remoteAddress connection.localAddress (.source connection.remotePort)
    have inbound : redirectInboundPacket smoltcp (swapIpv6Endpoints (rewritten smoltcp packet
        context newSource newDestination (.destination port))) (.ipv6 connection.localAddress)
        (.ipv6 connection.remoteAddress) connection.remotePort =
          (.ok (), rewritten smoltcp (swapIpv6Endpoints (rewritten smoltcp packet context newSource
            newDestination (.destination port)))
            { context with
              source := newDestination
              destination := newSource } connection.remoteAddress connection.localAddress
            (.source connection.remotePort)) := by
      simp only [redirectInboundPacket, rewrite]
      rfl
    exact inbound
  · rw [ChecksumsVerify, isIpv6_ipv6, if_pos rfl]
    refine ⟨_, restored.wellFormed.located, ?_⟩
    rw [addresses.1, addresses.2]
    exact verifies

end Families

/-- A well-formed unfragmented TCP or UDP packet over IPv6, whatever its Routing headers say. -/
structure UnfragmentedIpv6 (smoltcp : Smoltcp) (packet : Bytes) (headers : Ipv6Headers) :
    Prop where
  checked : smoltcp.ipv6NewChecked packet = true
  version : Ipv6Packet.version packet = 6
  payload : Ipv6Packet.payloadLen packet ≠ 0
  walked : walkIpv6Headers (packet.take (Ipv6Packet.totalLen packet)) false = headers
  resolved : headers.resolved = true
  unfragmented : headers.isFragment = false
  transport : transportChecked smoltcp headers.protocol
    (slice packet headers.transportOffset (Ipv6Packet.totalLen packet)) = true

/-- Only an active Routing header keeps such a packet from being rewritten. -/
theorem UnfragmentedIpv6.wellFormed {smoltcp : Smoltcp} (lengths : smoltcp.ChecksLengths)
    {packet : Bytes} {headers : Ipv6Headers} (unfragmented : UnfragmentedIpv6 smoltcp packet headers)
    (unrouted : headers.activeRoutingHeader = false) :
    ∃ context, WellFormedIpv6 smoltcp packet context ∧ context.protocol = headers.protocol ∧
      context.offset = headers.transportOffset := by
  have takeLength := take_totalLen_length lengths unfragmented.checked
  have base : ipv6BaseLen ≤ (packet.take (Ipv6Packet.totalLen packet)).length := by
    rw [takeLength]
    exact Nat.le_add_right _ _
  have ordered : headers.transportOffset ≤ Ipv6Packet.totalLen packet := by
    have inside := headerChain_offset_le_length base false maxIpv6ExtHeaders
      (Ipv6Packet.nextHeader (packet.take (Ipv6Packet.totalLen packet)))
    rw [takeLength] at inside
    rw [← unfragmented.walked, walkIpv6Headers_eq base]
    exact inside
  have found : transportContext smoltcp packet = .ok
      { protocol := headers.protocol
        offset := headers.transportOffset
        totalLen := Ipv6Packet.totalLen packet
        source := Ipv6Packet.srcAddr packet
        destination := Ipv6Packet.dstAddr packet } := by
    simp [transportContext, unfragmented.checked, unfragmented.version, unfragmented.payload,
      unfragmented.walked, unfragmented.resolved, unfragmented.unfragmented, unrouted,
      Nat.not_lt.mpr ordered]
  exact ⟨_, ⟨transportContext_located lengths found, unfragmented.transport⟩, rfl, rfl⟩

/-- Every packet of a live redirected connection makes the round trip. Over IPv6 only packets with
an active Routing header are not among them, because their checksum cannot be computed. -/
theorem redirect_roundTrip (smoltcp : Smoltcp) (lengths : smoltcp.ChecksLengths)
    (fills : smoltcp.FillsChecksums) :
    (∀ (map : ConnectionMap Ipv4Address) (connection : ConnectionV4) (packet : Bytes),
        connection.hasEnded = false → connection.verdict.isRedirect = true →
        Carries smoltcp packet connection.getKey → RoundTrips smoltcp map connection packet) ∧
      (∀ (map : ConnectionMap Ipv6Address) (connection : ConnectionV6) (packet : Bytes),
        connection.hasEnded = false → connection.verdict.isRedirect = true →
        Carries smoltcp packet connection.getKey → RoundTrips smoltcp map connection packet) ∧
      ∀ packet headers, UnfragmentedIpv6 smoltcp packet headers →
        headers.activeRoutingHeader = false →
        ∃ context, WellFormedIpv6 smoltcp packet context ∧ context.protocol = headers.protocol ∧
          context.offset = headers.transportOffset := by
  refine ⟨?_, ?_, fun packet headers unfragmented => unfragmented.wellFormed lengths⟩
  · intro map connection packet live redirects carries
    cases carries with
    | ipv4 carries => exact roundTrips_ipv4 lengths fills map connection live redirects carries
    | ipv6 context carries => cases carries.localAddress
  · intro map connection packet live redirects carries
    cases carries with
    | ipv4 carries => cases carries.localAddress
    | ipv6 context carries =>
        exact roundTrips_ipv6 lengths fills map connection live redirects carries

/-- A DNS request from port 50000 of 10.0.0.1 to 1.1.1.1. -/
def resolverRequest : Bytes :=
  [0x45, 0, 0, 28, 0, 0, 0, 0, 64, 17, 0, 0, 10, 0, 0, 1, 1, 1, 1, 1] ++
    [0xc3, 0x50, 0, 53, 0, 8, 0, 0]

/-- The entry of `resolverKey` after its first verdict. -/
def redirectedResolver : ConnectionV4 :=
  { resolverConnection 1 with verdict := .redirectNameServer }

def nameServerResolver : List (MapOp Ipv4Address) :=
  [.insertIfAbsentWith (resolverConnection 1) .unchanged,
    .getMutInstance 1 resolverKey 1 (.setVerdict .redirectNameServer)]

def nameServerReplyKey : Key where
  protocol := .udp
  localAddress := .ipv4 (Ipv4Address.new 127 0 0 1)
  localPort := 50000
  remoteAddress := .ipv4 (Ipv4Address.new 127 0 0 1)
  remotePort := 53

theorem redirect_roundTrip_resolverRequest :
    Carries Smoltcp.documented resolverRequest redirectedResolver.getKey ∧
      OnlyReplyEntry (runMap nameServerResolver).state nameServerReplyKey redirectedResolver ∧
      RoundTrips Smoltcp.documented (runMap nameServerResolver).state redirectedResolver
        resolverRequest := by
  have carries : Carries Smoltcp.documented resolverRequest redirectedResolver.getKey :=
    .ipv4 {
      wellFormed := {
        version := by decide
        unfragmented := {
          checked := by decide
          header := by decide
          last := by decide
          first := by decide
          transport := by decide } }
      protocol := by decide
      localAddress := by decide
      localPort := by decide
      remoteAddress := by decide
      remotePort := by decide }
  have scan : (runMap nameServerResolver).state.scan nameServerReplyKey = [redirectedResolver] := by
    decide +kernel
  refine ⟨carries, ⟨?_, ?_, ?_⟩, ?_⟩
  · rw [scan]
    exact List.mem_singleton_self _
  · intro entry member _
    rw [scan] at member
    exact List.mem_singleton.mp member
  · intro entry member
    rw [scan] at member
    obtain rfl := List.mem_singleton.mp member
    decide
  · exact (redirect_roundTrip Smoltcp.documented Smoltcp.documented_checksLengths
      Smoltcp.documented_fillsChecksums).1 _ redirectedResolver resolverRequest (by decide)
      (by decide) carries

/-- A DNS request from fd00::1 to fd00::2 with a type 2 Routing header that has a segment left. -/
def routedRequest : Bytes :=
  [0x60, 0, 0, 0, 0, 32, 43, 64] ++
    [0xfd, 0, 0, 0, 0, 0, 0, 0, 0, 0, 0, 0, 0, 0, 0, 1] ++
    [0xfd, 0, 0, 0, 0, 0, 0, 0, 0, 0, 0, 0, 0, 0, 0, 2] ++
    [17, 2, 2, 1, 0, 0, 0, 0] ++ [0xfd, 0, 0, 0, 0, 0, 0, 0, 0, 0, 0, 0, 0, 0, 0, 3] ++
    [0xc3, 0x50, 0, 53, 0, 8, 0, 0]

def routedResolver : ConnectionV6 where
  protocol := .udp
  localAddress := ipv6AddressAt routedRequest 8
  localPort := 50000
  remoteAddress := ipv6AddressAt routedRequest 24
  remotePort := 53
  verdict := .redirectNameServer
  processId := 8
  threadId := 0
  instanceId := 1
  lastAccessedTimestamp := 1
  extra := {
    endTimestamp := 0
    direction := .outbound
    nativeLifecycle := false
    idleExpiration := true }

/-- The packet has the tuple of the connection, and the redirect refuses it. -/
theorem routedRequest_not_roundTrips :
    UnfragmentedIpv6 Smoltcp.documented routedRequest
        { protocol := .udp
          transportOffset := 64
          isFragment := false
          activeRoutingHeader := true
          resolved := true } ∧
      (PacketInspector.new routedRequest true .outbound true).key.1 = .ok routedResolver.getKey ∧
      routedResolver.hasEnded = false ∧ routedResolver.verdict.isRedirect = true ∧
      ∀ map, ¬ RoundTrips Smoltcp.documented map routedResolver routedRequest := by
  refine ⟨⟨by decide, by decide, by decide, by decide, rfl, rfl, by decide⟩, by rfl, by decide,
    by decide, ?_⟩
  rintro map ⟨redirectInfo, redirected, replyKey, restored, info, outbound, -⟩
  cases info
  have refused := congrArg Prod.fst outbound
  cases refused

end WindowsKext
