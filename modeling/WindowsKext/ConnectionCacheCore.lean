import WindowsKext.ConnectionMapCore

/-! The connection cache of `connection_cache.rs`: one connection map for each address family.
Every function works on the map that the local address of the key selects. Clock values and
fresh instance ids are arguments. -/

namespace WindowsKext

structure ConnectionCache where
  connectionsV4 : ConnectionMap Ipv4Address
  connectionsV6 : ConnectionMap Ipv6Address

structure ConnectionRegistration where
  inserted : Bool
  instanceId : Nat
deriving DecidableEq

/-- Result of applying a verdict to one exact live cache instance. -/
structure ConnectionUpdate where
  redirectInfo : Option RedirectInfo
deriving DecidableEq

section Family

variable {A : Type} [AddressFamily A] [DecidableEq A]

/-- Unknown attribution never replaces anything, and System never replaces an application. -/
def mergeProcessId (incoming threadId : Nat) (connection : Connection A) : Connection A :=
  if incoming != 0 && (connection.processId == 0 || incoming != 4) then
    { connection with
      processId := incoming
      threadId :=
        if connection.processId != incoming || threadId != 0 then threadId
        else connection.threadId }
  else connection

def registerConnection (map : ConnectionMap A) (connection : Connection A) :
    ConnectionRegistration × ConnectionMap A :=
  let update (existing : Connection A) : Connection A :=
    let existing := mergeProcessId connection.processId connection.threadId existing
    if connection.extra.nativeLifecycle then existing.markNativeLifecycle else existing
  match map.insertIfAbsentWith connection update with
  | (.ok instanceId, map) => ({ inserted := true, instanceId := instanceId }, map)
  | (.error (_, instanceId), map) => ({ inserted := false, instanceId := instanceId }, map)

/-- The exact tuple gets its own entry with the borrowed PID. A live entry stays as it is. -/
def registerInboundUdpFallback (map : ConnectionMap A) (connection : Connection A) :
    ConnectionRegistration × ConnectionMap A :=
  let connection := { connection with extra := { connection.extra with idleExpiration := true } }
  match map.insertIfAbsentWith connection id with
  | (.ok instanceId, map) => ({ inserted := true, instanceId := instanceId }, map)
  | (.error (_, instanceId), map) => ({ inserted := false, instanceId := instanceId }, map)

def setVerdict (verdict : Verdict) (connection : Connection A) : Connection A :=
  { connection with verdict := verdict }

end Family

namespace ConnectionCache

def new : ConnectionCache where
  connectionsV4 := ConnectionMap.new
  connectionsV6 := ConnectionMap.new

def registerConnectionWithLifecycle (cache : ConnectionCache) (timestamp instanceId : Nat)
    (key : Key) (processId : Nat) (direction : Direction) (nativeLifecycle : Bool)
    (threadId : Nat) : Except String ConnectionRegistration × ConnectionCache :=
  if key.isIpv6 then
    match Connection.fromKeyWithLifecycle timestamp instanceId key processId direction
        nativeLifecycle with
    | .error error => (.error error, cache)
    | .ok connection =>
        let (registration, map) :=
          registerConnection cache.connectionsV6 { connection with threadId := threadId }
        (.ok registration, { cache with connectionsV6 := map })
  else
    match Connection.fromKeyWithLifecycle timestamp instanceId key processId direction
        nativeLifecycle with
    | .error error => (.error error, cache)
    | .ok connection =>
        let (registration, map) :=
          registerConnection cache.connectionsV4 { connection with threadId := threadId }
        (.ok registration, { cache with connectionsV4 := map })

/-- Registers a fallback connection for which WFP exposed no endpoint identity. -/
def registerUntrackedConnection (cache : ConnectionCache) (timestamp instanceId : Nat) (key : Key)
    (processId : Nat) (direction : Direction) : Except String ConnectionRegistration × ConnectionCache :=
  cache.registerConnectionWithLifecycle timestamp instanceId key processId direction false 0

/-- UDP gets its native lifecycle later, with its endpoint or flow context. -/
def registerAleConnection (cache : ConnectionCache) (timestamp instanceId : Nat) (key : Key)
    (processId threadId : Nat) (direction : Direction) :
    Except String ConnectionRegistration × ConnectionCache :=
  cache.registerConnectionWithLifecycle timestamp instanceId key processId direction
    (key.protocol != .udp) threadId

def registerInboundUdpFallbackConnection (cache : ConnectionCache) (timestamp instanceId : Nat)
    (key : Key) (processId : Nat) : Except String ConnectionRegistration × ConnectionCache :=
  if key.isIpv6 then
    match Connection.fromKeyWithLifecycle timestamp instanceId key processId .inbound false with
    | .error error => (.error error, cache)
    | .ok connection =>
        let (registration, map) := registerInboundUdpFallback cache.connectionsV6 connection
        (.ok registration, { cache with connectionsV6 := map })
  else
    match Connection.fromKeyWithLifecycle timestamp instanceId key processId .inbound false with
    | .error error => (.error error, cache)
    | .ok connection =>
        let (registration, map) := registerInboundUdpFallback cache.connectionsV4 connection
        (.ok registration, { cache with connectionsV4 := map })

/-- The captured thread id of the live generation that matches a packet key, if it is live. -/
def liveConnectionInstanceMatching (cache : ConnectionCache) (ignoreSpecialPorts : Bool)
    (key : Key) (instanceId : Nat) : Option Nat :=
  if instanceId == 0 then none
  else if key.isIpv6 then
    (cache.connectionsV6.getLiveInstanceMatching ignoreSpecialPorts key instanceId).map
      Connection.threadId
  else
    (cache.connectionsV4.getLiveInstanceMatching ignoreSpecialPorts key instanceId).map
      Connection.threadId

/-- Applies a pending verdict only to the cache instance that queued it. -/
def updateConnectionInstance (cache : ConnectionCache) (ignoreSpecialPorts : Bool) (now : Nat)
    (key : Key) (instanceId : Nat) (verdict : Verdict) :
    Option ConnectionUpdate × ConnectionCache :=
  if key.isIpv6 then
    let (updated, map) := cache.connectionsV6.getMutInstance ignoreSpecialPorts now key instanceId
      (setVerdict verdict)
    (updated.map fun connection => { redirectInfo := connection.redirectInfo },
      { cache with connectionsV6 := map })
  else
    let (updated, map) := cache.connectionsV4.getMutInstance ignoreSpecialPorts now key instanceId
      (setVerdict verdict)
    (updated.map fun connection => { redirectInfo := connection.redirectInfo },
      { cache with connectionsV4 := map })

/-- Looks up UDP process attribution without requiring the remote port. -/
def findActiveUdpPid (cache : ConnectionCache) (key : Key) : Option Nat :=
  if key.protocol != .udp then none
  else if key.isIpv6 then
    cache.connectionsV6.findActiveUdpPid key.localAddress key.localPort key.remoteAddress
  else cache.connectionsV4.findActiveUdpPid key.localAddress key.localPort key.remoteAddress

def clear (cache : ConnectionCache) : ConnectionCache where
  connectionsV4 := cache.connectionsV4.clear
  connectionsV6 := cache.connectionsV6.clear

end ConnectionCache

end WindowsKext
