import Mathlib.Algebra.GroupWithZero.Nat
import WindowsKext.Library.FirstMatch
import WindowsKext.PacketUtilCore
import Std.Data.TreeMap

/-! The queue of packets that wait for a verdict, with its reverse index from connection
instances to request ids. The queue is ordered by id, so its binary searches are searches for
the entry with the id. -/

namespace WindowsKext

open ByteString FirstMatch

structure PendingPacket where
  key : Key
  packet : Packet
  /-- The live connection that queued this packet. Protocols without connection state leave it
  unset. -/
  connectionInstanceId : Option Nat

structure Entry where
  id : Nat
  value : PendingPacket

structure PendingIdentity where
  key : Key
  connectionInstanceId : Option Nat

structure PendingContext where
  key : Key
  connectionInstanceId : Option Nat
  processId : Nat
  direction : Direction
  aleLayer : Bool

structure ConnectionRequest where
  id : Nat
  processId : Nat
  direction : Direction
  protocol : IpProtocol
  localIp : IpAddress
  remoteIp : IpAddress
  localPort : UInt16
  remotePort : UInt16
  payloadLayer : Nat
  payload : Bytes

/-- Whether the packet remains deliverable after its socket connection has ended. -/
def Packet.survivesConnectionEnd (packet : Packet) (key : Key) : Bool :=
  key.protocol == .udp &&
    match packet with
    | .network _ injectInfo | .networkBatch _ injectInfo => !injectInfo.inbound
    | .aleLayer _ => false

inductive PendingIds where
  | one (id : Nat)
  | multiple (ids : List Nat)

namespace PendingIds

def toList : PendingIds → List Nat
  | one id => [id]
  | multiple ids => ids

def len (ids : PendingIds) : Nat := ids.toList.length

def push (ids : PendingIds) (id : Nat) : PendingIds :=
  match ids with
  | one previous => multiple [previous, id]
  | multiple ids => multiple (ids ++ [id])

/-- Removes one claimed request. The result says whether the bucket is empty. -/
def remove (ids : PendingIds) (id : Nat) : Option Bool × PendingIds :=
  match ids with
  | one existing => (if existing = id then some true else none, one existing)
  | multiple ids =>
      if ids.contains id then (some (ids.erase id).isEmpty, multiple (ids.erase id))
      else (none, multiple ids)

end PendingIds

abbrev InstanceIndex := Std.TreeMap Nat PendingIds

def addPendingRequest (pendingByInstance : InstanceIndex) (connectionInstanceId : Option Nat)
    (requestId : Nat) : InstanceIndex :=
  match connectionInstanceId.filter fun instanceId => instanceId != 0 with
  | none => pendingByInstance
  | some instanceId =>
      match pendingByInstance[instanceId]? with
      | some ids => pendingByInstance.insert instanceId (ids.push requestId)
      | none => pendingByInstance.insert instanceId (.one requestId)

def removePendingRequest (pendingByInstance : InstanceIndex) (connectionInstanceId : Option Nat)
    (requestId : Nat) : InstanceIndex :=
  match connectionInstanceId.filter fun instanceId => instanceId != 0 with
  | none => pendingByInstance
  | some instanceId =>
      match pendingByInstance[instanceId]? with
      | none => pendingByInstance
      | some ids =>
          let (removed, ids) := ids.remove requestId
          if removed.getD false then pendingByInstance.erase instanceId
          else pendingByInstance.insert instanceId ids

structure IdCache where
  values : List Entry
  pendingByInstance : InstanceIndex
  active : Std.TreeMap Nat PendingIdentity
  threadIdByRequest : Std.TreeMap Nat Nat
  nextId : Nat

def getPayload : Packet → Option Bytes
  | .network nbl _ => nbl.data
  | .networkBatch nbls _ => nbls.head?.bind NetBufferList.data
  | .aleLayer defer => defer.packetList.bind TransportPacketList.getEventData

/-- A key with addresses of two families has no record. -/
def buildInfo (key : Key) (packetId processId : Nat) (direction : Direction) (packet : Packet)
    (aleLayer : Bool) : Option ConnectionRequest :=
  let (localPort, remotePort) :=
    match key.protocol with
    | .tcp | .udp => (key.localPort, key.remotePort)
    | _ => (0, 0)
  let request : ConnectionRequest :=
    { id := packetId
      processId := processId
      direction := direction
      protocol := key.protocol
      localIp := key.localAddress
      remoteIp := key.remoteAddress
      localPort := localPort
      remotePort := remotePort
      payloadLayer := if aleLayer then 4 else 3
      payload := (getPayload packet).getD [] }
  if sameFamily key.localAddress key.remoteAddress then some request else none

/-- A request belongs to a closing TCP endpoint when it is bound to its generation, or when it
has the reversed tuple of a loopback-like peer. -/
def requestMatchesTcpEndpoint (endpointKey : Key) (endpointInstanceId : Nat) (requestKey : Key)
    (requestInstanceId : Option Nat) : Bool :=
  requestInstanceId == some endpointInstanceId ||
    (endpointKey.isLoopbackLike && requestKey == endpointKey.reverse)

/-- `retire_pending_id` on the queue, the thread ids and the removed entries. -/
def retirePendingId (values : List Entry) (threadIdByRequest : Std.TreeMap Nat Nat)
    (removed : List Entry) (id instanceId : Nat) :
    List Entry × Std.TreeMap Nat Nat × List Entry :=
  match values.find? fun entry => entry.id == id with
  | none => (values, threadIdByRequest, removed)
  | some entry =>
      if entry.value.connectionInstanceId != some instanceId then
        (values, threadIdByRequest, removed)
      else if entry.value.packet.survivesConnectionEnd entry.value.key then
        (modifyFirst (fun entry => entry.id == id)
            (fun entry => { entry with value := { entry.value with connectionInstanceId := none } })
            values,
          threadIdByRequest, removed)
      else
        (values.eraseP fun entry => entry.id == id, threadIdByRequest.erase id, removed ++ [entry])

/-- The loops over the affected ids of `retire_connection_instances`. -/
def retirePendingIds (values : List Entry) (threadIdByRequest : Std.TreeMap Nat Nat)
    (removed : List Entry) : List (Nat × Nat) → List Entry × Std.TreeMap Nat Nat × List Entry
  | [] => (values, threadIdByRequest, removed)
  | (id, instanceId) :: rest =>
      let (values, threadIdByRequest, removed) :=
        retirePendingId values threadIdByRequest removed id instanceId
      retirePendingIds values threadIdByRequest removed rest

/-- Drops an id that repeats the one before it. -/
def withoutRepeats : Option Nat → List Nat → List Nat
  | _, [] => []
  | previous, id :: rest =>
      if previous = some id then withoutRepeats previous rest
      else id :: withoutRepeats (some id) rest

namespace IdCache

def new : IdCache where
  values := []
  pendingByInstance := ∅
  active := ∅
  threadIdByRequest := ∅
  -- 0 is an invalid id.
  nextId := 1

def pushPacket (cache : IdCache) (packet : Packet) (context : PendingContext) :
    Option (Nat × ConnectionRequest) × IdCache :=
  let id := cache.nextId
  match buildInfo context.key id context.processId context.direction packet context.aleLayer with
  | none => (none, cache)
  | some info =>
      (some (id, info),
        { cache with
          values := cache.values ++ [{
            id := id
            value := {
              key := context.key
              packet := packet
              connectionInstanceId := context.connectionInstanceId } }]
          nextId := (id + 1) % 2 ^ 64 })

/-- The loop over a batch. Every clone gets its own entry. -/
def pushPackets (cache : IdCache) (context : PendingContext) :
    List Packet → List (Nat × ConnectionRequest) × IdCache
  | [] => ([], cache)
  | packet :: rest =>
      let (queued, cache) := cache.pushPacket packet context
      let (others, cache) := pushPackets cache context rest
      (queued.toList ++ others, cache)

def indexRequest (connectionInstanceId : Option Nat) (threadId : Nat) (cache : IdCache)
    (queued : Nat × ConnectionRequest) : IdCache :=
  { cache with
    pendingByInstance :=
      addPendingRequest cache.pendingByInstance connectionInstanceId queued.1
    threadIdByRequest :=
      if threadId != 0 then cache.threadIdByRequest.insert queued.1 threadId
      else cache.threadIdByRequest }

def push (cache : IdCache) (key : Key) (packet : Packet) (connectionInstanceId : Option Nat)
    (processId threadId : Nat) (direction : Direction) (aleLayer : Bool) :
    List (Nat × ConnectionRequest) × IdCache :=
  let context : PendingContext :=
    { key := key
      connectionInstanceId := connectionInstanceId
      processId := processId
      direction := direction
      aleLayer := aleLayer }
  let (queued, cache) :=
    match packet with
    | .networkBatch nbls injectInfo =>
        cache.pushPackets context (nbls.map fun nbl => .network nbl injectInfo)
    | packet => cache.pushPackets context [packet]
  (queued, queued.foldl (indexRequest connectionInstanceId threadId) cache)

def getThreadId (cache : IdCache) (id : Nat) : Nat := cache.threadIdByRequest[id]?.getD 0

/-- Recognizes late verdicts for requests that were already retired. -/
def wasIssuedId (cache : IdCache) (id : Nat) : Bool := id != 0 && decide (id < cache.nextId)

def popId (cache : IdCache) (id : Nat) : Option PendingPacket × IdCache :=
  match cache.values.find? fun entry => entry.id == id with
  | none => (none, cache)
  | some entry =>
      (some entry.value,
        { cache with
          values := cache.values.eraseP fun entry => entry.id == id
          pendingByInstance :=
            removePendingRequest cache.pendingByInstance entry.value.connectionInstanceId id
          active := cache.active.insert id
            { key := entry.value.key
              connectionInstanceId := entry.value.connectionInstanceId } })

/-- Removes the in-progress marker created when a verdict claimed this id. -/
def finishId (cache : IdCache) (id : Nat) : IdCache :=
  { cache with
    active := cache.active.erase id
    threadIdByRequest := cache.threadIdByRequest.erase id }

/-- The packet decisions already queued or being applied for one closing TCP endpoint. -/
def tcpEndpointRequestIds (cache : IdCache) (key : Key) (instanceId : Nat) : List Nat :=
  let queued :=
    if key.isLoopbackLike then
      (cache.values.filter fun entry => requestMatchesTcpEndpoint key instanceId entry.value.key
        entry.value.connectionInstanceId).map Entry.id
    else (cache.pendingByInstance[instanceId]?.map PendingIds.toList).getD []
  let active := (cache.active.toList.filter fun entry =>
    requestMatchesTcpEndpoint key instanceId entry.2.key entry.2.connectionInstanceId).map Prod.fst
  withoutRepeats none (queued ++ active).mergeSort

def retireInstance (cache : IdCache) (instanceId : Nat) : List Entry × IdCache :=
  match cache.pendingByInstance[instanceId]? with
  | none => ([], cache)
  | some ids =>
      let (values, threadIdByRequest, removed) := retirePendingIds cache.values
        cache.threadIdByRequest [] (ids.toList.map fun id => (id, instanceId))
      (removed,
        { cache with
          values := values
          pendingByInstance := cache.pendingByInstance.erase instanceId
          threadIdByRequest := threadIdByRequest })

/-- Retires pending packets owned by one of the connection instances. Outbound UDP network
clones stay queued without their instance; other packets are removed and returned. -/
def retireConnectionInstances (cache : IdCache) (sortedInstanceIds : List Nat) :
    List Entry × IdCache :=
  match sortedInstanceIds with
  | [] => ([], cache)
  | [instanceId] => cache.retireInstance instanceId
  | _ =>
      let unique := withoutRepeats none sortedInstanceIds
      let pendingCount := ((unique.filterMap fun instanceId =>
        cache.pendingByInstance[instanceId]?).map PendingIds.len).sum
      if pendingCount = 0 then ([], cache)
      else if pendingCount = 1 then
        match sortedInstanceIds.find? fun instanceId =>
            cache.pendingByInstance.contains instanceId with
        | none => ([], cache)
        | some instanceId => cache.retireInstance instanceId
      else
        -- Requests of several instances can interleave in the queue.
        let pendingIds := unique.flatMap fun instanceId =>
          ((cache.pendingByInstance[instanceId]?.map PendingIds.toList).getD []).map fun id =>
            (id, instanceId)
        let (values, threadIdByRequest, removed) := retirePendingIds cache.values
          cache.threadIdByRequest [] (pendingIds.mergeSort fun left right => left.1 ≤ right.1)
        (removed,
          { cache with
            values := values
            pendingByInstance := unique.foldl (fun index instanceId => index.erase instanceId)
              cache.pendingByInstance
            threadIdByRequest := threadIdByRequest })

def popAll (cache : IdCache) : List Entry × IdCache :=
  (cache.values,
    { cache with
      values := []
      pendingByInstance := ∅
      threadIdByRequest := ∅ })

end IdCache

end WindowsKext
