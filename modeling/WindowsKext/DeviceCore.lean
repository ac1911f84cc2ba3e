import WindowsKext.ConnectionCacheCore
import WindowsKext.IdCacheCore
import WindowsKext.TcpEndpointCacheCore

/-! Publication of pending packets and the Verdict command of `device.rs`. Calls into WFP are
recorded as effects; their results are arguments. -/

namespace WindowsKext

/-- The calls into WFP that pend, complete or inject something or change filters. A context or
classification is named by the number of the call that returned it. -/
inductive Effect where
  | resetFilters
  | pendOperation (context : Nat)
  /-- `FwpsCompleteOperation0` with the packet to be injected, or a null packet. -/
  | completeOperation (context : Nat) (packet : Option NetBufferList)
  | injectNetwork (nbl : NetBufferList) (injectInfo : InjectInfo)
  | injectTransport (packetList : TransportPacketList)
  | pendClassify (classify : Nat)
  | completeClassify (classify : Nat)
deriving DecidableEq

structure Wfp where
  resetFilters : Except String Unit
  injectNetwork : NetBufferList → InjectInfo → Except String Unit
  injectTransport : TransportPacketList → Except String Unit

/-- What the driver's surroundings supply to the packet paths. -/
structure Environment where
  smoltcp : Smoltcp
  wfp : Wfp
  ignoreSpecialPorts : Bool
  inboundUdpPidFallbackEnabled : Bool
  currentProcessId : Nat
  currentThreadId : Nat
  ownerPid : Nat

/-- A TCP endpoint closure that waits for packet decisions of its flow, with its pended
classification. -/
structure PendingTcpClosure where
  endpoint : TcpEndpointConnection
  processId : Nat
  classify : Nat
  requestIds : List Nat

abbrev TcpClosureCache := Std.TreeMap Nat PendingTcpClosure

namespace TcpClosureCache

/-- A generation that is already closing keeps its closure, and the supplied one is returned. -/
def insert (cache : TcpClosureCache) (closure : PendingTcpClosure) :
    Option PendingTcpClosure × TcpClosureCache :=
  if Std.TreeMap.contains cache closure.endpoint.instanceId then (some closure, cache)
  else (none, Std.TreeMap.insert cache closure.endpoint.instanceId closure)

/-- Adds a request published while a matching closure is already pended. -/
def addRequest (key : Key) (instanceId : Option Nat) (cache : TcpClosureCache) (requestId : Nat) :
    TcpClosureCache :=
  cache.map fun _ closure =>
    if requestMatchesTcpEndpoint closure.endpoint.key closure.endpoint.instanceId key instanceId &&
        !closure.requestIds.contains requestId then
      { closure with
        requestIds := closure.requestIds.takeWhile (fun id => id < requestId) ++
          requestId :: closure.requestIds.dropWhile fun id => id < requestId }
    else closure

/-- Resolves one request and returns the endpoints whose closure waits for nothing else. -/
def finishRequest (cache : TcpClosureCache) (requestId : Nat) :
    List TcpEndpointConnection × TcpClosureCache :=
  let cache : TcpClosureCache := cache.map fun _ closure =>
    { closure with requestIds := closure.requestIds.erase requestId }
  (((cache.toList.map Prod.snd).filter fun closure => closure.requestIds.isEmpty).map
    PendingTcpClosure.endpoint, cache)

def takeReady (cache : TcpClosureCache) (instanceId : Nat) :
    Option PendingTcpClosure × TcpClosureCache :=
  match Std.TreeMap.get? cache instanceId with
  | some closure =>
      if closure.requestIds.isEmpty then (some closure, Std.TreeMap.erase cache instanceId)
      else (none, cache)
  | none => (none, cache)

def drain (cache : TcpClosureCache) : List PendingTcpClosure × TcpClosureCache :=
  (cache.toList.map Prod.snd, ∅)

end TcpClosureCache

structure EndedConnection where
  instanceId : Nat
  processId : Nat
  direction : Direction
  key : Key

def Connection.toEnded {A : Type} [AddressFamily A] (connection : Connection A) :
    EndedConnection where
  instanceId := connection.instanceId
  processId := connection.processId
  direction := connection.extra.direction
  key := connection.getKey

structure ConnectionEnd where
  processId : Nat
  direction : Direction
  protocol : IpProtocol
  localIp : IpAddress
  remoteIp : IpAddress
  localPort : UInt16
  remotePort : UInt16

/-- A record of the event queue. The generation it is about is not part of the record. -/
inductive Event where
  | request (info : ConnectionRequest) (connectionInstanceId : Option Nat)
  | connectionEnd (info : ConnectionEnd) (instanceId : Nat)

/-- What the reply to an echo request, or an error that quotes it, is matched against. -/
structure EchoKey where
  remoteAddress : IpAddress
  identifier : UInt16
  sequence : UInt16
deriving DecidableEq

structure EchoEntry where
  processId : Nat
  threadId : Nat
  insertedAtMs : Nat

def entryTtlMs : Nat := 10000

def maxEntries : Nat := 512

/-- Outstanding echo requests, with one entry for a key. -/
structure IcmpEchoCache where
  entries : List (EchoKey × EchoEntry)

namespace IcmpEchoCache

def new : IcmpEchoCache where
  entries := []

def containsKey (cache : IcmpEchoCache) (key : EchoKey) : Bool :=
  cache.entries.any fun entry => entry.1 == key

def insertEntry (cache : IcmpEchoCache) (key : EchoKey) (entry : EchoEntry) : IcmpEchoCache where
  entries := (key, entry) :: cache.entries.filter fun other => other.1 != key

def cleanExpiredEntries (cache : IcmpEchoCache) (now : Nat) : IcmpEchoCache where
  entries := cache.entries.filter fun entry => decide (now - entry.2.insertedAtMs ≤ entryTtlMs)

def insertRequest (cache : IcmpEchoCache) (now : Nat) (remoteAddress : IpAddress)
    (identifier sequence : UInt16) (processId threadId : Nat) : IcmpEchoCache :=
  if processId == 0 then cache
  else
    let key : EchoKey :=
      { remoteAddress := remoteAddress
        identifier := identifier
        sequence := sequence }
    let entry : EchoEntry :=
      { processId := processId
        threadId := threadId
        insertedAtMs := now }
    if maxEntries ≤ cache.entries.length && !cache.containsKey key then
      let cache := cache.cleanExpiredEntries now
      -- Every entry is live. The request is given up rather than a live entry.
      if maxEntries ≤ cache.entries.length then cache else cache.insertEntry key entry
    else cache.insertEntry key entry

/-- The process and thread that sent the matching request. The entry is consumed. -/
def takeRequestIdentity (cache : IcmpEchoCache) (now : Nat) (remoteAddress : IpAddress)
    (identifier sequence : UInt16) : Option (Nat × Nat) × IcmpEchoCache :=
  let key : EchoKey :=
    { remoteAddress := remoteAddress
      identifier := identifier
      sequence := sequence }
  match cache.entries.find? fun entry => entry.1 == key with
  | none => (none, cache)
  | some (_, entry) =>
      let cache : IcmpEchoCache := { entries := cache.entries.filter fun other => other.1 != key }
      if now - entry.insertedAtMs > entryTtlMs then (none, cache)
      else (some (entry.processId, entry.threadId), cache)

end IcmpEchoCache

structure Device where
  connectionCache : ConnectionCache
  packetCache : IdCache
  tcpClosureCache : TcpClosureCache
  icmpEchoCache : IcmpEchoCache
  /-- The records in the order in which they were pushed. Reads take them from the front. -/
  eventQueue : List Event

def Packet.requiresReauthorization : Packet → Bool
  | .aleLayer defer => defer.kind == .reauthorization
  | _ => false

section Injection

variable (wfp : Wfp)

def injectNetBufferLists (injectInfo : InjectInfo) :
    List NetBufferList → Except String Unit × List Effect
  | [] => (.ok (), [])
  | nbl :: rest =>
      match wfp.injectNetwork nbl injectInfo with
      | .error error => (.error error, [.injectNetwork nbl injectInfo])
      | .ok () =>
          let (result, effects) := injectNetBufferLists injectInfo rest
          (result, .injectNetwork nbl injectInfo :: effects)

/-- Injects a saved ALE packet. Inbound loopback packets go back through network send. -/
def injectAlePacket (packetList : TransportPacketList) : Except String Unit × List Effect :=
  if packetList.inbound && packetList.loopback then
    let injectInfo : InjectInfo :=
      { ipv6 := packetList.ipv6
        inbound := true
        loopback := true
        compartmentId := packetList.compartmentId
        interfaceIndex := packetList.interfaceIndex
        subInterfaceIndex := packetList.subInterfaceIndex }
    (wfp.injectNetwork packetList.netBufferList injectInfo,
      [.injectNetwork packetList.netBufferList injectInfo])
  else (wfp.injectTransport packetList, [.injectTransport packetList])

/-- `ClassifyDefer::complete`. Only an initial authorization has a pended operation. -/
def ClassifyDefer.complete (defer : ClassifyDefer) (injectPacket : Bool) : List Effect :=
  match defer.kind with
  | .initial context =>
      [.completeOperation context
        (if injectPacket then defer.packetList.map TransportPacketList.netBufferList else none)]
  | .reauthorization => []

def injectPacket (packet : Packet) (blocked : Bool) : Except String Unit × List Effect :=
  match packet with
  | .network nbl injectInfo =>
      if !blocked then (wfp.injectNetwork nbl injectInfo, [.injectNetwork nbl injectInfo])
      else (.ok (), [])
  | .networkBatch nbls injectInfo =>
      if !blocked then injectNetBufferLists wfp injectInfo nbls else (.ok (), [])
  | .aleLayer defer =>
      let completion := defer.complete (!blocked)
      if !blocked then
        match defer.packetList with
        | some packetList =>
            let (result, effects) := injectAlePacket wfp packetList
            (result, completion ++ effects)
        | none => (.ok (), completion)
      else (.ok (), completion)

/-- Losing the transaction race to another passive worker counts as a reset. -/
def resetFiltersForDefer : Except String Unit :=
  match wfp.resetFilters with
  | .error error =>
      if error.contains "STATUS_FWP_TXN_IN_PROGRESS" then .ok () else .error error
  | .ok () => .ok ()

/-- A reauthorization marker is consumed only after the filters were reset. -/
def injectVerdictPacket (packet : Packet) (blocked : Bool) : Except String Unit × List Effect :=
  if packet.requiresReauthorization then
    match resetFiltersForDefer wfp with
    | .error error => (.error error, [.resetFilters])
    | .ok () =>
        let (result, effects) := injectPacket wfp packet blocked
        (result, .resetFilters :: effects)
  else injectPacket wfp packet blocked

/-- The action of a verdict on the saved packet. Errors are logged only. -/
def verdictEffects (smoltcp : Smoltcp) (action : Verdict) (redirectInfo : Option RedirectInfo)
    (packet : Packet) : List Effect :=
  match action with
  | .accept | .permanentAccept => (injectVerdictPacket wfp packet false).2
  | .redirectNameServer | .redirectTunnel | .redirectSplitTunnel =>
      match redirectInfo with
      | some redirectInfo =>
          match packet.redirect smoltcp redirectInfo with
          | (.ok (), packet) => (injectVerdictPacket wfp packet false).2
          -- The packet is dropped instead of escaping unredirected.
          | (.error _, _) => []
      | none => (injectVerdictPacket wfp packet true).2
  | _ => (injectVerdictPacket wfp packet true).2

end Injection

namespace Device

variable (environment : Environment)

def new : Device where
  connectionCache := ConnectionCache.new
  packetCache := IdCache.new
  tcpClosureCache := ∅
  icmpEchoCache := IcmpEchoCache.new
  eventQueue := []

def isOwnerPid (pid : Nat) : Bool :=
  environment.ownerPid != 0 && environment.ownerPid == pid

def enqueuePendingPacket (device : Device) (pending : PendingPacket) (processId threadId : Nat)
    (direction : Direction) (aleLayer : Bool) : List (Nat × ConnectionRequest) × Device :=
  -- Last-resort attribution of outbound UDP packet events to the calling thread.
  let (processId, threadId) :=
    if !aleLayer && pending.key.protocol == .udp && direction == .outbound then
      let processId := if processId == 0 then environment.currentProcessId else processId
      let threadId :=
        if threadId == 0 && !(processId == 0 || processId == 4) &&
            !isOwnerPid environment (processId % 2 ^ 32) then environment.currentThreadId
        else threadId
      (processId, threadId)
    else (processId, threadId)
  let (queued, packetCache) := device.packetCache.push pending.key pending.packet
    pending.connectionInstanceId processId threadId direction aleLayer
  (queued,
    { device with
      packetCache := packetCache
      tcpClosureCache := (queued.map Prod.fst).foldl
        (TcpClosureCache.addRequest pending.key pending.connectionInstanceId)
        device.tcpClosureCache
      eventQueue := device.eventQueue ++ queued.map fun request =>
        .request request.2 pending.connectionInstanceId })

/-- Publishes a packet decision request. A request of a connection is published only while that
generation is live, and takes its thread id; a rejected packet is returned. -/
def publishPendingPacket (device : Device) (key : Key) (packet : Packet)
    (connectionInstanceId : Option Nat) (processId threadId : Nat) (direction : Direction)
    (aleLayer : Bool) : Option PendingPacket × List (Nat × ConnectionRequest) × Device :=
  let pending : PendingPacket :=
    { key := key
      packet := packet
      connectionInstanceId := connectionInstanceId }
  match connectionInstanceId with
  | some instanceId =>
      match device.connectionCache.liveConnectionInstanceMatching environment.ignoreSpecialPorts
          key instanceId with
      | some threadId =>
          (none, device.enqueuePendingPacket environment pending processId threadId direction
            aleLayer)
      | none => (some pending, [], device)
  | none =>
      (none, device.enqueuePendingPacket environment pending processId threadId direction aleLayer)

/-- Claims the request of a Verdict command. An invalid verdict value consumes nothing. -/
def claimVerdict (device : Device) (id : Nat) (value : UInt8) :
    Option (PendingPacket × Verdict) × Device :=
  match Verdict.fromU8 value with
  | none => (none, device)
  | some action =>
      let (pending, packetCache) := device.packetCache.popId id
      (pending.map fun pending => (pending, action), { device with packetCache := packetCache })

/-- Applies a verdict to a claimed request: to the exact cache instance that queued it, and then
to its packet. -/
def applyVerdict (device : Device) (now : Nat) (pending : PendingPacket) (action : Verdict) :
    List Effect × Device :=
  let survives := pending.packet.survivesConnectionEnd pending.key
  match pending.connectionInstanceId with
  | some instanceId =>
      match device.connectionCache.updateConnectionInstance environment.ignoreSpecialPorts now
          pending.key instanceId action with
      | (some update, connectionCache) =>
          (verdictEffects environment.wfp environment.smoltcp action update.redirectInfo
              pending.packet,
            { device with connectionCache := connectionCache })
      | (none, connectionCache) =>
          let device := { device with connectionCache := connectionCache }
          if survives then
            (verdictEffects environment.wfp environment.smoltcp action none pending.packet, device)
          -- The stale packet is completed as blocked, without another filter reset.
          else ((injectPacket environment.wfp pending.packet true).2, device)
  | none =>
      (verdictEffects environment.wfp environment.smoltcp action none pending.packet, device)

/-- Marks one claimed verdict as complete, and returns the closures that became ready. -/
def finishPendingRequest (device : Device) (id : Nat) : List TcpEndpointConnection × Device :=
  let (ready, tcpClosureCache) := device.tcpClosureCache.finishRequest id
  (ready,
    { device with
      packetCache := device.packetCache.finishId id
      tcpClosureCache := tcpClosureCache })

/-- Ends the exact generation of an endpoint, if it is live. -/
def endTcpInstance (device : Device) (now : Nat) (endpoint : TcpEndpointConnection) :
    Option EndedConnection × Device :=
  let cache := device.connectionCache
  if endpoint.key.isIpv6 then
    let (ended, map) := cache.connectionsV6.endInstance now endpoint.key endpoint.instanceId
    (ended.map Connection.toEnded,
      { device with connectionCache := { cache with connectionsV6 := map } })
  else
    let (ended, map) := cache.connectionsV4.endInstance now endpoint.key endpoint.instanceId
    (ended.map Connection.toEnded,
      { device with connectionCache := { cache with connectionsV4 := map } })

/-- Pends an endpoint closure while requests of its flow are open, and ends the generation
otherwise. `pendClassify` is the result of the call that pends. -/
def deferTcpEndpointClosure (device : Device) (now : Nat) (endpoint : TcpEndpointConnection)
    (processId : Nat) (pendClassify : Except String Nat) :
    Except String (Option EndedConnection) × List Effect × Device :=
  let live :=
    if endpoint.key.isIpv6 then
      device.connectionCache.connectionsV6.hasLiveInstance endpoint.key endpoint.instanceId
    else device.connectionCache.connectionsV4.hasLiveInstance endpoint.key endpoint.instanceId
  let requestIds := device.packetCache.tcpEndpointRequestIds endpoint.key endpoint.instanceId
  if !live then (.ok none, [], device)
  else if requestIds.isEmpty then
    let (ended, device) := device.endTcpInstance now endpoint
    (.ok ended, [], device)
  else
    match pendClassify with
    | .error error => (.error error, [], device)
    | .ok classify =>
        let closure : PendingTcpClosure :=
          { endpoint := endpoint
            processId := processId
            classify := classify
            requestIds := requestIds }
        match device.tcpClosureCache.insert closure with
        | (none, closures) =>
            (.ok none, [.pendClassify classify], { device with tcpClosureCache := closures })
        | (some duplicate, closures) =>
            (.error ("duplicate TCP endpoint closure for connection instance " ++
                toString endpoint.instanceId),
              [.pendClassify classify, .completeClassify duplicate.classify],
              { device with tcpClosureCache := closures })

/-- Claims a ready closure and ends its generation. -/
def completeReadyTcpEndpointClosure (device : Device) (now : Nat)
    (endpoint : TcpEndpointConnection) :
    Option (Option EndedConnection × PendingTcpClosure) × Device :=
  match device.tcpClosureCache.takeReady endpoint.instanceId with
  | (none, _) => (none, device)
  | (some closure, tcpClosureCache) =>
      let (ended, device) :=
        { device with tcpClosureCache := tcpClosureCache }.endTcpInstance now endpoint
      (some (ended, closure), device)

/-- Retires queued decisions of ended instances. Removed packets are completed as blocked. -/
def retirePendingConnectionInstances (device : Device) (instanceIds : List Nat) :
    List Entry × List Effect × Device :=
  let (removed, packetCache) := device.packetCache.retireConnectionInstances
    (withoutRepeats none (instanceIds.filter fun instanceId => instanceId != 0).mergeSort)
  (removed, removed.flatMap fun entry => (injectPacket environment.wfp entry.value.packet true).2,
    { device with packetCache := packetCache })

/-- The end record names the process of the connection, or else the one of the end event. -/
def emitConnectionEnd (device : Device) (connection : EndedConnection) (processId : Nat) :
    Device :=
  let info : ConnectionEnd :=
    { processId := if connection.processId == 0 then processId else connection.processId
      direction := connection.direction
      protocol := connection.key.protocol
      localIp := connection.key.localAddress
      remoteIp := connection.key.remoteAddress
      localPort := connection.key.localPort
      remotePort := connection.key.remotePort }
  { device with eventQueue := device.eventQueue ++ [.connectionEnd info connection.instanceId] }

def clearCache (device : Device) : Device :=
  { device with connectionCache := device.connectionCache.clear }

end Device

end WindowsKext
