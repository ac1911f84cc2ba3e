import Mathlib.Data.List.Lex
import WindowsKext.ConnectionCore
import Std.Data.TreeMap

/-! The association of WFP endpoint handles with TCP connection generations. Handles, instance
ids and timestamps are natural numbers. -/

namespace WindowsKext

structure TcpEndpointConnection where
  key : Key
  parentEndpointHandle : Option Nat
  instanceId : Nat
deriving DecidableEq

structure TcpEndpointLookupKey where
  key : Key
  parentEndpointHandle : Option Nat
deriving DecidableEq

def lookupKey (endpoint : TcpEndpointConnection) : TcpEndpointLookupKey where
  key := endpoint.key
  parentEndpointHandle := endpoint.parentEndpointHandle

def IpAddress.ordinal : IpAddress → List Nat
  | .ipv4 address => 0 :: address.octets.toList.map UInt8.toNat
  | .ipv6 address => 1 :: address.octets.toList.map UInt8.toNat

/-- The fields in the order in which endpoints are compared. -/
def TcpEndpointConnection.ordinal (endpoint : TcpEndpointConnection) : List Nat :=
  endpoint.key.protocol.rank :: endpoint.key.localAddress.ordinal ++
    endpoint.key.localPort.toNat :: endpoint.key.remoteAddress.ordinal ++
    endpoint.key.remotePort.toNat ::
    match endpoint.parentEndpointHandle with
    | none => [0, endpoint.instanceId]
    | some parent => [1, parent, endpoint.instanceId]

/-- Most authorization tuples have only one endpoint handle. -/
inductive TcpEndpointHandles where
  | one (handle : Nat)
  | multiple (handles : List Nat)

namespace TcpEndpointHandles

def toList : TcpEndpointHandles → List Nat
  | one handle => [handle]
  | multiple handles => handles

/-- The position of a missing handle in the sorted vector is found by binary search. -/
def insertSorted (handle : Nat) : List Nat → List Nat
  | [] => [handle]
  | first :: rest =>
      if handle < first then handle :: first :: rest else first :: insertSorted handle rest

def insert (handles : TcpEndpointHandles) (handle : Nat) : TcpEndpointHandles :=
  match handles with
  | one existing =>
      if existing = handle then one existing
      else if existing < handle then multiple [existing, handle]
      else multiple [handle, existing]
  | multiple handles =>
      if handles.contains handle then multiple handles
      else multiple (insertSorted handle handles)

/-- The result says whether the bucket became empty. -/
def remove (handles : TcpEndpointHandles) (handle : Nat) : Bool × TcpEndpointHandles :=
  match handles with
  | one existing => (existing == handle, one existing)
  | multiple handles =>
      match handles.erase handle with
      | [] => (true, multiple [])
      | [remaining] => (false, one remaining)
      | remaining => (false, multiple remaining)

/-- A bucket of the handles that a `retain` kept. -/
def retained : List Nat → Option TcpEndpointHandles
  | [] => none
  | [handle] => some (one handle)
  | handles => some (multiple handles)

end TcpEndpointHandles

structure TcpEndpointRecord where
  endpoint : TcpEndpointConnection
  established : Bool
  associatedAtMs : Nat
deriving DecidableEq

/-- `lookup` is a map that is only read and written at single keys. -/
structure TcpEndpointCache where
  endpoints : Std.TreeMap Nat TcpEndpointRecord
  lookup : TcpEndpointLookupKey → Option TcpEndpointHandles

namespace TcpEndpointCache

def new : TcpEndpointCache where
  endpoints := ∅
  lookup _ := none

def setLookup (lookup : TcpEndpointLookupKey → Option TcpEndpointHandles)
    (key : TcpEndpointLookupKey) (handles : Option TcpEndpointHandles) :
    TcpEndpointLookupKey → Option TcpEndpointHandles :=
  fun other => if other = key then handles else lookup other

def addLookupHandle (lookup : TcpEndpointLookupKey → Option TcpEndpointHandles)
    (key : TcpEndpointLookupKey) (endpointHandle : Nat) :
    TcpEndpointLookupKey → Option TcpEndpointHandles :=
  match lookup key with
  | some handles => setLookup lookup key (some (handles.insert endpointHandle))
  | none => setLookup lookup key (some (.one endpointHandle))

def removeLookupHandle (lookup : TcpEndpointLookupKey → Option TcpEndpointHandles)
    (key : TcpEndpointLookupKey) (endpointHandle : Nat) :
    TcpEndpointLookupKey → Option TcpEndpointHandles :=
  match lookup key with
  | none => lookup
  | some handles =>
      let (removeKey, handles) := handles.remove endpointHandle
      setLookup lookup key (if removeKey then none else some handles)

/-- The loop of `retain` in `remove_endpoint_aliases`: the handles that stay in the bucket, and
the records without the aliases. -/
def retainOthers (endpoint : TcpEndpointConnection) (endpoints : Std.TreeMap Nat TcpEndpointRecord) :
    List Nat → List Nat × Std.TreeMap Nat TcpEndpointRecord
  | [] => ([], endpoints)
  | handle :: rest =>
      if endpoints[handle]?.any fun record => record.endpoint == endpoint then
        retainOthers endpoint (endpoints.erase handle) rest
      else
        let (kept, endpoints) := retainOthers endpoint endpoints rest
        (handle :: kept, endpoints)

/-- Removes every alias that is indexed under the endpoint's own tuple and parent. -/
def removeEndpointAliases (cache : TcpEndpointCache) (endpoint : TcpEndpointConnection) :
    TcpEndpointCache :=
  match cache.lookup (lookupKey endpoint) with
  | none => cache
  | some handles =>
      let (kept, endpoints) := retainOthers endpoint cache.endpoints handles.toList
      { endpoints := endpoints
        lookup := setLookup cache.lookup (lookupKey endpoint) (TcpEndpointHandles.retained kept) }

def rebuildLookup (endpoints : Std.TreeMap Nat TcpEndpointRecord) :
    TcpEndpointLookupKey → Option TcpEndpointHandles :=
  endpoints.toList.foldl
    (fun lookup (handle, record) => addLookupHandle lookup (lookupKey record.endpoint) handle)
    fun _ => none

/-- Associates one connection generation with its WFP endpoint. A repeated association can only
fill in missing parent metadata. -/
def associateInstanceAt (cache : TcpEndpointCache) (endpointHandle : Nat) (key : Key)
    (parentEndpointHandle : Option Nat) (instanceId associatedAtMs : Nat) :
    Bool × TcpEndpointCache :=
  if endpointHandle = 0 ∨ instanceId = 0 then (false, cache)
  else
    match cache.endpoints[endpointHandle]? with
    | some existing =>
        if existing.endpoint.key ≠ key ∨ existing.endpoint.instanceId ≠ instanceId then
          (false, cache)
        else
          match existing.endpoint.parentEndpointHandle, parentEndpointHandle with
          | some existingParent, some parent => (existingParent == parent, cache)
          | none, some parent =>
              let filled : TcpEndpointRecord :=
                { existing with
                  endpoint := { existing.endpoint with parentEndpointHandle := some parent } }
              (true,
                { endpoints := cache.endpoints.insert endpointHandle filled
                  lookup := addLookupHandle
                    (removeLookupHandle cache.lookup (lookupKey existing.endpoint) endpointHandle)
                    (lookupKey filled.endpoint) endpointHandle })
          | _, none => (true, cache)
    | none =>
        let endpoint : TcpEndpointConnection :=
          { key := key
            parentEndpointHandle := parentEndpointHandle
            instanceId := instanceId }
        -- An alias of an established flow in the same bucket passes its state on.
        let established := (cache.lookup (lookupKey endpoint)).any fun handles =>
          handles.toList.any fun handle => cache.endpoints[handle]?.any fun record =>
            record.endpoint == endpoint && record.established
        (true,
          { endpoints := cache.endpoints.insert endpointHandle
              { endpoint := endpoint
                established := established
                associatedAtMs := associatedAtMs }
            lookup := addLookupHandle cache.lookup (lookupKey endpoint) endpointHandle })

/-- The live generation of a tuple and a parent, by the index. -/
def resolveLiveInstance (cache : TcpEndpointCache) (key : Key) (parentEndpointHandle : Option Nat)
    (isLive : Nat → Bool) : Option TcpEndpointConnection :=
  (cache.lookup { key := key, parentEndpointHandle := parentEndpointHandle }).bind fun handles =>
    handles.toList.findSome? fun handle => cache.endpoints[handle]?.bind fun record =>
      if isLive record.endpoint.instanceId then some record.endpoint else none

/-- Replaces the aliases of a generation with the handle of its established flow. -/
def rebindEstablished (cache : TcpEndpointCache) (endpointHandle : Nat)
    (endpoint : TcpEndpointConnection) : Bool × TcpEndpointCache :=
  if endpointHandle = 0 ∨ endpoint.instanceId = 0 then (false, cache)
  else if cache.endpoints[endpointHandle]?.any fun existing => existing.endpoint != endpoint then
    (false, cache)
  else
    let cache := cache.removeEndpointAliases endpoint
    (true,
      { endpoints := cache.endpoints.insert endpointHandle
          { endpoint := endpoint
            established := true
            associatedAtMs := 0 }
        lookup := addLookupHandle cache.lookup (lookupKey endpoint) endpointHandle })

/-- Removes unestablished endpoint generations that have exceeded the cutoff. -/
def takeUnestablishedBefore (cache : TcpEndpointCache) (cutoffMs : Nat)
    (shouldExpire : TcpEndpointConnection → Bool) :
    List TcpEndpointConnection × TcpEndpointCache :=
  let expired := (cache.endpoints.toList.filter fun (_, record) =>
    !record.established && record.associatedAtMs != 0 &&
      decide (record.associatedAtMs ≤ cutoffMs) && shouldExpire record.endpoint).map
        fun (_, record) => record.endpoint
  let expiredSet := expired.eraseDups.mergeSort fun left right =>
    decide (left.ordinal ≤ right.ordinal)
  if expiredSet.isEmpty then (expiredSet, cache)
  else
    let endpoints := cache.endpoints.filter fun _ record => !expiredSet.contains record.endpoint
    (expiredSet,
      { endpoints := endpoints
        lookup := rebuildLookup endpoints })

/-- Leaves established generations to the closing path. -/
def takeUnestablished (cache : TcpEndpointCache) (endpointHandle : Nat) :
    Option TcpEndpointConnection × TcpEndpointCache :=
  match cache.endpoints[endpointHandle]? with
  | none => (none, cache)
  | some record =>
      if record.established then (none, cache)
      else (some record.endpoint, cache.removeEndpointAliases record.endpoint)

/-- Consumes the connection identity assigned to the closing endpoint. -/
def take (cache : TcpEndpointCache) (endpointHandle : Nat) :
    Option TcpEndpointConnection × TcpEndpointCache :=
  if endpointHandle = 0 then (none, cache)
  else
    match cache.endpoints[endpointHandle]? with
    | none => (none, cache)
    | some record => (some record.endpoint, cache.removeEndpointAliases record.endpoint)

def clear (_ : TcpEndpointCache) : TcpEndpointCache := new

end TcpEndpointCache

end WindowsKext
