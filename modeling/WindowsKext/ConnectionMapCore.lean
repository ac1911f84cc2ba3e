import Mathlib.Algebra.GroupWithZero.Nat
import WindowsKext.ConnectionCore
import WindowsKext.Library.FirstMatch

/-! The executable connection map of `connection_map.rs`: groups by protocol and local port,
endpoint buckets inside each group, and the lookups and lifecycle operations over them.
Every clock read of the source is a `now` argument. -/

namespace WindowsKext

open FirstMatch

variable {A : Type} [AddressFamily A]

/-- Compact family-specific key for one remote endpoint. -/
structure RemoteEndpoint (A : Type) [AddressFamily A] where
  address : AddressFamily.RemoteAddressKey A
  port : UInt16

def compareEndpoints (left right : RemoteEndpoint A) : Ordering :=
  (AddressFamily.compareKeys left.address right.address).then (compare left.port right.port)

instance : Std.TransCmp (fun left right : RemoteEndpoint A =>
    AddressFamily.compareKeys left.address right.address) where
  eq_swap := Std.OrientedCmp.eq_swap
  isLE_trans := Std.TransCmp.isLE_trans

instance : Std.TransCmp (compareEndpoints (A := A)) :=
  inferInstanceAs (Std.TransCmp (compareLex
    (fun left right : RemoteEndpoint A => AddressFamily.compareKeys left.address right.address)
    (compareOn RemoteEndpoint.port)))

instance : Std.LawfulEqCmp (compareEndpoints (A := A)) where
  eq_of_compare := by
    intro left right same
    simp only [compareEndpoints, Ordering.then_eq_eq, Std.LawfulEqCmp.compare_eq_iff_eq] at same
    cases left
    cases right
    simpa using same

def compareGroups (left right : IpProtocol × UInt16) : Ordering :=
  (compare left.1.rank right.1.rank).then (compare left.2 right.2)

instance : Std.TransCmp compareGroups :=
  inferInstanceAs (Std.TransCmp (compareLex
    (compareOn fun group : IpProtocol × UInt16 => group.1.rank) (compareOn Prod.snd)))

instance : Std.LawfulEqCmp compareGroups where
  eq_of_compare := by
    intro left right same
    simp only [compareGroups, Ordering.then_eq_eq, Std.LawfulEqCmp.compare_eq_iff_eq] at same
    exact Prod.ext (IpProtocol.rank_injective same.1) same.2

def remoteEndpointFromConnection (connection : Connection A) : RemoteEndpoint A :=
  { address := AddressFamily.addressKey connection.remoteAddress
    port := connection.remotePort }

def remoteEndpointFromKey (A : Type) [AddressFamily A] (key : Key) : Option (RemoteEndpoint A) :=
  (AddressFamily.ofIpAddress key.remoteAddress).map fun address =>
    { address := AddressFamily.addressKey (A := A) address
      port := key.remotePort }

/-- Usually one connection generation, with a vector reserved for tuple reuse. -/
inductive ConnectionBucket (T : Type) where
  | one (connection : T)
  | multiple (connections : List T)

namespace ConnectionBucket

variable {T : Type}

def iter : ConnectionBucket T → List T
  | .one connection => [connection]
  | .multiple connections => connections

def push (bucket : ConnectionBucket T) (connection : T) : ConnectionBucket T :=
  match bucket with
  | .one previous => .multiple [previous, connection]
  | .multiple connections => .multiple (connections ++ [connection])

/-- Keeps the entries that satisfy the test and reports whether any is left. -/
def retain (bucket : ConnectionBucket T) (test : T → Bool) : ConnectionBucket T × Bool :=
  match bucket with
  | .one connection => (.one connection, test connection)
  | .multiple connections =>
      match connections.filter test with
      | [connection] => (.one connection, true)
      | remaining => (.multiple remaining, !remaining.isEmpty)

def len : ConnectionBucket T → Nat
  | .one _ => 1
  | .multiple connections => connections.length

/-- Runs an in-place update over `iter_mut`. -/
def map (bucket : ConnectionBucket T) (update : T → T) : ConnectionBucket T :=
  match bucket with
  | .one connection => .one (update connection)
  | .multiple connections => .multiple (connections.map update)

/-- Updates the entry that `iter_mut().find(test)` selects. -/
def modifyFound (bucket : ConnectionBucket T) (test : T → Bool) (update : T → T) :
    ConnectionBucket T :=
  match bucket with
  | .one connection => .one (if test connection then update connection else connection)
  | .multiple connections => .multiple (modifyFirst test update connections)

/-- The endpoint shared by every generation of the bucket. Only an empty bucket has none, on
which the source would stop with a failed `expect`. -/
def endpoint (bucket : ConnectionBucket (Connection A)) : Option (RemoteEndpoint A) :=
  bucket.iter.head?.map remoteEndpointFromConnection

end ConnectionBucket

abbrev RemoteMap (A : Type) [AddressFamily A] :=
  Std.TreeMap (RemoteEndpoint A) (ConnectionBucket (Connection A)) compareEndpoints

inductive RemoteConnections (A : Type) [AddressFamily A] where
  | empty
  | one (bucket : ConnectionBucket (Connection A))
  | many (connections : RemoteMap A)

namespace RemoteConnections

def hasEndpoint (bucket : ConnectionBucket (Connection A)) (endpoint : RemoteEndpoint A) : Bool :=
  match bucket.endpoint with
  | none => false
  | some stored => (compareEndpoints stored endpoint).isEq

def get (connections : RemoteConnections A) (endpoint : RemoteEndpoint A) :
    Option (ConnectionBucket (Connection A)) :=
  match connections with
  | .empty => none
  | .one bucket => if hasEndpoint bucket endpoint then some bucket else none
  | .many map => map[endpoint]?

/-- Updates the bucket that `get_mut` returns. -/
def modifyBucket (connections : RemoteConnections A) (endpoint : RemoteEndpoint A)
    (update : ConnectionBucket (Connection A) → ConnectionBucket (Connection A)) :
    RemoteConnections A :=
  match connections with
  | .empty => .empty
  | .one bucket => if hasEndpoint bucket endpoint then .one (update bucket) else .one bucket
  | .many map => .many (map.modify endpoint update)

def values : RemoteConnections A → List (ConnectionBucket (Connection A))
  | .empty => []
  | .one bucket => [bucket]
  | .many map => map.toList.map Prod.snd

/-- `values().flat_map(ConnectionBucket::iter)`. -/
def iter (connections : RemoteConnections A) : List (Connection A) :=
  connections.values.flatMap ConnectionBucket.iter

/-- Runs an in-place update over `values_mut().flat_map(ConnectionBucket::iter_mut)`. -/
def mapAll (connections : RemoteConnections A) (update : Connection A → Connection A) :
    RemoteConnections A :=
  match connections with
  | .empty => .empty
  | .one bucket => .one (bucket.map update)
  | .many map => .many (map.map fun _ bucket => bucket.map update)

/-- Updates the entry that `values_mut().flat_map(iter_mut).find(test)` selects. -/
def modifyFound (connections : RemoteConnections A) (test : Connection A → Bool)
    (update : Connection A → Connection A) : RemoteConnections A :=
  match connections with
  | .empty => .empty
  | .one bucket => .one (bucket.modifyFound test update)
  | .many map =>
      match map.toList.find? fun entry => entry.2.iter.any test with
      | none => .many map
      | some (endpoint, _) =>
          .many (map.modify endpoint fun bucket => bucket.modifyFound test update)

def insertIntoMap (map : RemoteMap A) (endpoint : RemoteEndpoint A) (connection : Connection A) :
    RemoteMap A :=
  match map[endpoint]? with
  | some bucket => map.insert endpoint (bucket.push connection)
  | none => map.insert endpoint (.one connection)

def insert (connections : RemoteConnections A) (endpoint : RemoteEndpoint A)
    (connection : Connection A) : RemoteConnections A :=
  match connections with
  | .empty => .one (.one connection)
  | .one bucket =>
      if hasEndpoint bucket endpoint then .one (bucket.push connection)
      else
        match bucket.endpoint with
        | none => .many (insertIntoMap ∅ endpoint connection)
        | some stored =>
            .many (insertIntoMap ((∅ : RemoteMap A).insert stored bucket) endpoint connection)
  | .many map => .many (insertIntoMap map endpoint connection)

def retain (connections : RemoteConnections A) (test : Connection A → Bool) :
    RemoteConnections A :=
  match connections with
  | .empty => .empty
  | .one bucket =>
      match bucket.retain test with
      | (kept, true) => .one kept
      | (_, false) => .empty
  | .many map =>
      let remaining := map.filterMap fun _ bucket =>
        match bucket.retain test with
        | (kept, true) => some kept
        | (_, false) => none
      match remaining.toList with
      | [] => .empty
      | [(_, bucket)] => .one bucket
      | _ => .many remaining

def isEmpty : RemoteConnections A → Bool
  | .empty => true
  | _ => false

end RemoteConnections

/-- Connections grouped by `(protocol, local port)`, then by remote endpoint. -/
abbrev ConnectionMap (A : Type) [AddressFamily A] :=
  Std.TreeMap (IpProtocol × UInt16) (RemoteConnections A) compareGroups

/-- Returns the first live match and remembers the first ended match before it. -/
def liveAndEndedMatch (matched : Connection A → Bool) (endedMatch : Option (Connection A)) :
    List (Connection A) → Option (Connection A) × Option (Connection A)
  | [] => (none, endedMatch)
  | connection :: rest =>
      if !matched connection then liveAndEndedMatch matched endedMatch rest
      else if !connection.hasEnded then (some connection, endedMatch)
      else liveAndEndedMatch matched (endedMatch.or (some connection)) rest

def untrackedIdleTimeout : Nat := 60000

def shouldExpireUntracked (connection : Connection A) (cutoff : Nat) : Bool :=
  !connection.hasEnded && !connection.extra.nativeLifecycle &&
    connection.extra.idleExpiration && decide (connection.lastAccessedTimestamp < cutoff)

/-- Refreshes only entries whose untracked lifetime depends on packet activity. -/
def refreshUntrackedActivity (now : Nat) (connection : Connection A) : Connection A :=
  if !connection.hasEnded && !connection.extra.nativeLifecycle &&
      connection.extra.idleExpiration then
    connection.setLastAccessedTime now
  else connection

def matchesEndpoint (connection : Connection A) (localAddress : Option IpAddress)
    (processId : Option Nat) (untrackedOnly : Bool) : Bool :=
  let addressMatches := (localAddress.map fun address =>
    connection.getLocalAddress == address).getD true
  let processMatches := (processId.map fun pid =>
    connection.processId == 0 || connection.processId == pid).getD true
  let lifecycleMatches := !untrackedOnly || !connection.extra.nativeLifecycle
  !connection.hasEnded && addressMatches && processMatches && lifecycleMatches

namespace ConnectionMap

variable [DecidableEq A]

def new : ConnectionMap A := ∅

def entries (map : ConnectionMap A) : List (Connection A) :=
  (map.toList.map Prod.snd).flatMap RemoteConnections.iter

/-- Inserts `connection` only when its exact tuple has no live cache entry. The selected
instance ID is returned on both paths. -/
def insertIfAbsentWith (map : ConnectionMap A) (connection : Connection A)
    (updateExisting : Connection A → Connection A) :
    Except (Connection A × Nat) Nat × ConnectionMap A :=
  let key := connection.getKey
  let endpoint := remoteEndpointFromConnection connection
  let connections := map[key.small]?.getD .empty
  let found (existing : Connection A) : Bool := existing.remoteEquals key && !existing.hasEnded
  match (connections.get endpoint).bind fun bucket => bucket.iter.find? found with
  | some existing =>
      (.error (connection, existing.instanceId),
        map.insert key.small (connections.modifyBucket endpoint fun bucket =>
          bucket.modifyFound found updateExisting))
  | none =>
      (.ok connection.instanceId, map.insert key.small (connections.insert endpoint connection))

def bucket (map : ConnectionMap A) (key : Key) : Option (ConnectionBucket (Connection A)) := do
  let endpoint ← remoteEndpointFromKey A key
  let connections ← map[key.small]?
  connections.get endpoint

/-- Updates the bucket that `bucket_mut` returns. -/
def modifyBucket (map : ConnectionMap A) (key : Key)
    (update : ConnectionBucket (Connection A) → ConnectionBucket (Connection A)) :
    ConnectionMap A :=
  match remoteEndpointFromKey A key with
  | none => map
  | some endpoint => map.modify key.small fun connections =>
      connections.modifyBucket endpoint update

/-- Finds an entry in the bucket of `key` and applies `update` to it in place. The updated
entry is returned. -/
def updateInBucket (map : ConnectionMap A) (key : Key) (test : Connection A → Bool)
    (update : Connection A → Connection A) : Option (Connection A) × ConnectionMap A :=
  match (map.bucket key).bind fun bucket => bucket.iter.find? test with
  | none => (none, map)
  | some connection =>
      (some (update connection), map.modifyBucket key fun bucket => bucket.modifyFound test update)

/-- Finds an entry in the whole group of `key` and applies `update` to it in place. -/
def updateInGroup (map : ConnectionMap A) (key : Key) (test : Connection A → Bool)
    (update : Connection A → Connection A) : Option (Connection A) × ConnectionMap A :=
  match map[key.small]?.bind fun connections => connections.iter.find? test with
  | none => (none, map)
  | some connection =>
      (some (update connection),
        map.modify key.small fun connections => connections.modifyFound test update)

/-- Runs `update` on the live connection matching `key`, after refreshing its activity. -/
def getMut (map : ConnectionMap A) (now : Nat) (key : Key)
    (update : Connection A → Connection A) : Option (Connection A) × ConnectionMap A :=
  map.updateInBucket key (fun connection => connection.remoteEquals key && !connection.hasEnded)
    fun connection => update (refreshUntrackedActivity now connection)

/-- Returns the live fallback instance for an exact tuple, if one exists. -/
def untrackedInstanceId (map : ConnectionMap A) (key : Key) : Option Nat :=
  ((map.bucket key).bind fun bucket => bucket.iter.find? fun connection =>
    connection.remoteEquals key && !connection.hasEnded &&
      !connection.extra.nativeLifecycle).map Connection.instanceId

/-- The exact tuple, instance and liveness test shared by the instance operations. -/
def isLiveInstance (key : Key) (instanceId : Nat) (connection : Connection A) : Bool :=
  connection.remoteEquals key && connection.instanceId == instanceId && !connection.hasEnded

/-- The redirect counterpart of `isLiveInstance`. -/
def isLiveRedirectInstance (key : Key) (instanceId : Nat) (connection : Connection A) : Bool :=
  connection.redirectEquals key && connection.instanceId == instanceId && !connection.hasEnded

def hasLiveInstance (map : ConnectionMap A) (key : Key) (instanceId : Nat) : Bool :=
  if instanceId == 0 then false
  else
    match map.bucket key with
    | none => false
    | some bucket => bucket.iter.any (isLiveInstance key instanceId)

/-- Returns one exact live instance matching its original tuple or its reverse-redirect tuple. -/
def getLiveInstanceMatching (ignoreSpecialPorts : Bool) (map : ConnectionMap A) (key : Key)
    (instanceId : Nat) : Option (Connection A) :=
  if instanceId == 0 then none
  else
    match (map.bucket key).bind fun bucket => bucket.iter.find? (isLiveInstance key instanceId) with
    | some connection => some connection
    | none =>
        if !isRedirectPort ignoreSpecialPorts key.remotePort then none
        else map[key.small]?.bind fun connections =>
          connections.iter.find? (isLiveRedirectInstance key instanceId)

/-- Runs `update` on the exact live cache instance, after refreshing its activity. -/
def getMutInstance (ignoreSpecialPorts : Bool) (map : ConnectionMap A) (now : Nat) (key : Key)
    (instanceId : Nat) (update : Connection A → Connection A) :
    Option (Connection A) × ConnectionMap A :=
  let refreshed (connection : Connection A) := update (refreshUntrackedActivity now connection)
  if instanceId == 0 then (none, map)
  else
    match remoteEndpointFromKey A key with
    | none => (none, map)
    | some _ =>
        if !isRedirectPort ignoreSpecialPorts key.remotePort then
          map.updateInBucket key (isLiveInstance key instanceId) refreshed
        else
          match map.updateInBucket key (isLiveInstance key instanceId) refreshed with
          | (some connection, updated) => (some connection, updated)
          | (none, _) =>
              map.updateInGroup key (isLiveRedirectInstance key instanceId) refreshed

/-- Returns the PID of the first live UDP entry with these addresses and local port. -/
def findActiveUdpPid (map : ConnectionMap A) (localAddress : IpAddress) (localPort : UInt16)
    (remoteAddress : IpAddress) : Option Nat :=
  (map[(IpProtocol.udp, localPort)]?.bind fun connections =>
    connections.iter.find? fun connection =>
      !connection.hasEnded && connection.getLocalAddress == localAddress &&
        connection.getRemoteAddress == remoteAddress).map Connection.processId

/-- Exact remote match first, using one direct endpoint lookup. -/
def exactMatches (connections : RemoteConnections A) (key : Key) :
    Option (Connection A) × Option (Connection A) :=
  match (remoteEndpointFromKey A key).bind connections.get with
  | none => (none, none)
  | some bucket => liveAndEndedMatch (fun connection => connection.remoteEquals key) none bucket.iter

/-- A redirected connection is stored under its real remote endpoint, so it is found by
scanning the group. The scan is guarded by the port test. -/
def redirectMatches (ignoreSpecialPorts : Bool) (connections : RemoteConnections A) (key : Key) :
    Option (Connection A) × Option (Connection A) :=
  if isRedirectPort ignoreSpecialPorts key.remotePort then
    liveAndEndedMatch (fun connection => connection.redirectEquals key) none connections.iter
  else (none, none)

/-- Reads the best connection matching `key`: a live exact match, a live redirect match and,
with `useEndedFallback`, retained ended history. -/
def readMatching {C : Type} (ignoreSpecialPorts : Bool) (map : ConnectionMap A) (now : Nat)
    (key : Key) (readConnection : Connection A → Option C) (useEndedFallback : Bool) :
    Option C × ConnectionMap A :=
  match map[key.small]? with
  | none => (none, map)
  | some connections =>
      let (liveExact, endedExact) := exactMatches connections key
      match liveExact with
      | some connection =>
          (readConnection (refreshUntrackedActivity now connection),
            map.modifyBucket key fun bucket => bucket.modifyFound
              (fun entry => entry.remoteEquals key && !entry.hasEnded)
              (refreshUntrackedActivity now))
      | none =>
          let (liveRedirect, endedRedirect) := redirectMatches ignoreSpecialPorts connections key
          let endedMatch := if useEndedFallback then endedExact.or endedRedirect else none
          match liveRedirect with
          | some connection =>
              (readConnection (refreshUntrackedActivity now connection),
                map.modify key.small fun connections => connections.modifyFound
                  (fun entry => entry.redirectEquals key && !entry.hasEnded)
                  (refreshUntrackedActivity now))
          | none =>
              -- An ended entry is never refreshed, so this path leaves the map as it is.
              match endedMatch with
              | some connection =>
                  (readConnection (refreshUntrackedActivity now connection), map)
              | none => (none, map)

def read {C : Type} (ignoreSpecialPorts : Bool) (map : ConnectionMap A) (now : Nat) (key : Key)
    (readConnection : Connection A → Option C) : Option C × ConnectionMap A :=
  map.readMatching ignoreSpecialPorts now key readConnection false

def readWithEndedFallback {C : Type} (ignoreSpecialPorts : Bool) (map : ConnectionMap A)
    (now : Nat) (key : Key) (readConnection : Connection A → Option C) :
    Option C × ConnectionMap A :=
  map.readMatching ignoreSpecialPorts now key readConnection true

/-- Reads the most recently inserted ended generation for one exact tuple. -/
def readEndedExact {C : Type} (map : ConnectionMap A) (key : Key)
    (readConnection : Connection A → Option C) : Option C :=
  ((map.bucket key).bind fun bucket => bucket.iter.reverse.find? fun connection =>
    connection.remoteEquals key && connection.hasEnded).bind readConnection

def readForPacket {C : Type} (ignoreSpecialPorts : Bool) (map : ConnectionMap A) (now : Nat)
    (key : Key) (packetDirection : Direction) (readConnection : Connection A → Option C) :
    Option C × ConnectionMap A :=
  match packetDirection with
  | .inbound => map.read ignoreSpecialPorts now key readConnection
  | .outbound => map.readWithEndedFallback ignoreSpecialPorts now key readConnection

/-- Binds native endpoint/flow lifetime to one exact live fallback instance. -/
def markNativeLifecycleInstance (map : ConnectionMap A) (key : Key) (instanceId : Nat) :
    Bool × ConnectionMap A :=
  if instanceId == 0 then (false, map)
  else
    match map.updateInBucket key (isLiveInstance key instanceId)
        Connection.markNativeLifecycle with
    | (some _, updated) => (true, updated)
    | (none, _) => (false, map)

/-- Ends the live connection matching both its tuple and cache-instance ID. -/
def endInstance (map : ConnectionMap A) (now : Nat) (key : Key) (instanceId : Nat) :
    Option (Connection A) × ConnectionMap A :=
  if instanceId == 0 then (none, map)
  else map.updateInBucket key (isLiveInstance key instanceId) fun connection => connection.endAt now

/-- The loop body of `end_instances` repeats `end_instance` with one clock value. -/
def endInstances (map : ConnectionMap A) (now : Nat) :
    List (Key × Nat) → List (Connection A) × ConnectionMap A
  | [] => ([], map)
  | (key, instanceId) :: rest =>
      match map.endInstance now key instanceId with
      | (none, unchanged) => endInstances unchanged now rest
      | (some connection, updated) =>
          let (ended, final) := endInstances updated now rest
          (connection :: ended, final)

def endMatchingOnEndpoint (map : ConnectionMap A) (now : Nat) (key : IpProtocol × UInt16)
    (localAddress : Option IpAddress) (processId : Option Nat) (untrackedOnly : Bool) :
    Option (List (Connection A)) × ConnectionMap A :=
  match map[key]? with
  | none => (none, map)
  | some connections =>
      let test (connection : Connection A) : Bool :=
        matchesEndpoint connection localAddress processId untrackedOnly
      (some ((connections.iter.filter test).map fun connection => connection.endAt now),
        map.modify key fun connections => connections.mapAll fun connection =>
          if test connection then connection.endAt now else connection)

def endAllOnEndpoint (map : ConnectionMap A) (now : Nat) (key : IpProtocol × UInt16)
    (localAddress : Option IpAddress) (processId : Option Nat) :
    Option (List (Connection A)) × ConnectionMap A :=
  map.endMatchingOnEndpoint now key localAddress processId false

def endUntrackedOnEndpoint (map : ConnectionMap A) (now : Nat) (key : IpProtocol × UInt16)
    (localAddress : Option IpAddress) (processId : Option Nat) :
    Option (List (Connection A)) × ConnectionMap A :=
  map.endMatchingOnEndpoint now key localAddress processId true

/-- Ends idle-expirable fallback entries not observed for one minute. -/
def endInactiveUntrackedConnections (map : ConnectionMap A) (now : Nat) :
    List (Connection A) × ConnectionMap A :=
  let cutoff := now - untrackedIdleTimeout
  ((map.entries.filter fun connection => shouldExpireUntracked connection cutoff).map
      fun connection => connection.endAt now,
    map.map fun _ connections => connections.mapAll fun connection =>
      if shouldExpireUntracked connection cutoff then connection.endAt now else connection)

def clear (_ : ConnectionMap A) : ConnectionMap A := ∅

/-- Removes ended history after its one-minute late-packet grace period. -/
def cleanEndedConnections (map : ConnectionMap A) (now : Nat) : ConnectionMap A :=
  let beforeOneMinute := now - 60000
  map.filterMap fun _ connections =>
    let retained := connections.retain fun connection =>
      !connection.hasEnded || decide (connection.extra.endTimestamp ≥ beforeOneMinute)
    if retained.isEmpty then none else some retained

def appendLiveUdpInstanceIds (map : ConnectionMap A) (instanceIds : List Nat) : List Nat :=
  instanceIds ++ (map.entries.filter fun connection =>
    connection.protocol == .udp && !connection.hasEnded).map Connection.instanceId

def getCount (map : ConnectionMap A) : Nat :=
  (map.toList.flatMap fun group => group.2.values.map ConnectionBucket.len).sum

def getUntrackedCount (map : ConnectionMap A) : Nat :=
  (map.entries.filter fun connection =>
    !connection.hasEnded && !connection.extra.nativeLifecycle).length

end ConnectionMap

end WindowsKext
