import Mathlib.Algebra.GroupWithZero.Nat
import Std

/-! `udp_flow_cache.rs`: the contexts that the driver associates with UDP flows. Every operation
runs under the lock of the cache. -/

namespace WindowsKext

structure UdpFlowRegistration where
  flowContext : Nat
  flowId : Nat
  layerId : Nat
  calloutId : Nat
  connectionInstanceId : Nat
  associated : Bool
  removalRequested : Bool
deriving DecidableEq

def UdpFlowRegistration.new (flowId layerId calloutId connectionInstanceId : Nat) :
    UdpFlowRegistration where
  flowContext := 0
  flowId := flowId
  layerId := layerId
  calloutId := calloutId
  connectionInstanceId := connectionInstanceId
  associated := false
  removalRequested := false

def UdpFlowRegistration.removable (registration : UdpFlowRegistration) : Bool :=
  registration.associated && !registration.removalRequested

structure UdpFlowCache where
  registrations : Std.TreeMap Nat UdpFlowRegistration
  callbacksInProgress : Nat
  shuttingDown : Bool

def usizeMax : Nat := 2 ^ 64 - 1

namespace UdpFlowCache

def new : UdpFlowCache where
  registrations := ∅
  callbacksInProgress := 0
  shuttingDown := false

def values (cache : UdpFlowCache) : List UdpFlowRegistration :=
  cache.registrations.toList.map Prod.snd

/-- Records a context before it is exposed to WFP. A false result leaves ownership with the
caller. -/
def register (cache : UdpFlowCache) (flowContext : Nat) (registration : UdpFlowRegistration) :
    Bool × UdpFlowCache :=
  if flowContext == 0 || registration.connectionInstanceId == 0 then (false, cache)
  else if cache.shuttingDown || cache.registrations.contains flowContext then (false, cache)
  else
    (true,
      { cache with
        registrations := cache.registrations.insert flowContext
          { registration with
            flowContext := flowContext
            associated := false
            removalRequested := false } })

def setRegistration (cache : UdpFlowCache) (flowContext : Nat)
    (registration : UdpFlowRegistration) : UdpFlowCache :=
  { cache with registrations := cache.registrations.insert flowContext registration }

def markAssociated (cache : UdpFlowCache) (flowContext connectionInstanceId : Nat) :
    Bool × UdpFlowCache :=
  if flowContext == 0 || connectionInstanceId == 0 then (false, cache)
  else
    match cache.registrations[flowContext]? with
    | none => (false, cache)
    | some registration =>
        if registration.connectionInstanceId != connectionInstanceId then (false, cache)
        else (true, cache.setRegistration flowContext { registration with associated := true })

/-- Removes a matching registration so the caller can reclaim its context. -/
def cancelRegistration (cache : UdpFlowCache) (flowContext connectionInstanceId : Nat) :
    Bool × UdpFlowCache :=
  if flowContext == 0 || connectionInstanceId == 0 then (false, cache)
  else
    match cache.registrations[flowContext]? with
    | none => (false, cache)
    | some registration =>
        if registration.connectionInstanceId != connectionInstanceId then (false, cache)
        else (true, { cache with registrations := cache.registrations.erase flowContext })

/-- Claims a callback and returns whether it only needs to reclaim the context. -/
def beginCallback (cache : UdpFlowCache) (flowContext layerId calloutId : Nat) :
    Option Bool × UdpFlowCache :=
  match cache.registrations[flowContext]? with
  | none => (none, cache)
  | some registration =>
      if registration.layerId != layerId || registration.calloutId != calloutId then (none, cache)
      else
        (some (cache.shuttingDown || registration.removalRequested),
          { cache with
            registrations := cache.registrations.erase flowContext
            callbacksInProgress := min (cache.callbacksInProgress + 1) usizeMax })

def finishCallback (cache : UdpFlowCache) : UdpFlowCache :=
  { cache with callbacksInProgress := cache.callbacksInProgress - 1 }

/-- The associated contexts that periodic cleanup may consider removing. -/
def removalCandidates (cache : UdpFlowCache) : List (Nat × Nat) :=
  (cache.values.filter UdpFlowRegistration.removable).map fun registration =>
    (registration.flowContext, registration.connectionInstanceId)

def claimRemoval (cache : UdpFlowCache) (flowContext connectionInstanceId : Nat) :
    Option UdpFlowRegistration × UdpFlowCache :=
  if flowContext == 0 || connectionInstanceId == 0 then (none, cache)
  else
    match cache.registrations[flowContext]? with
    | none => (none, cache)
    | some registration =>
        if registration.connectionInstanceId != connectionInstanceId ||
            !registration.associated || registration.removalRequested then (none, cache)
        else
          let registration := { registration with removalRequested := true }
          (some registration, cache.setRegistration flowContext registration)

def startShutdown (cache : UdpFlowCache) : UdpFlowCache := { cache with shuttingDown := true }

/-- Returns the registrations still owned by WFP and marks each as requested. -/
def pendingRemovals (cache : UdpFlowCache) : List UdpFlowRegistration × UdpFlowCache :=
  let request (registration : UdpFlowRegistration) : UdpFlowRegistration :=
    if registration.removable then { registration with removalRequested := true }
    else registration
  ((cache.values.filter UdpFlowRegistration.removable).map request,
    { cache with registrations := cache.registrations.map fun _ => request })

/-- Makes a registration eligible for another removal attempt. -/
def retryRemoval (cache : UdpFlowCache) (flowContext connectionInstanceId : Nat) : UdpFlowCache :=
  if flowContext == 0 || connectionInstanceId == 0 then cache
  else
    match cache.registrations[flowContext]? with
    | none => cache
    | some registration =>
        if registration.connectionInstanceId == connectionInstanceId then
          cache.setRegistration flowContext { registration with removalRequested := false }
        else cache

def isDrained (cache : UdpFlowCache) : Bool :=
  cache.registrations.isEmpty && cache.callbacksInProgress == 0

end UdpFlowCache

end WindowsKext
