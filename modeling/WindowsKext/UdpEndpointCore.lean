import WindowsKext.ConnectionCore
import Std.Data.TreeMap

/-! `udp_endpoint_cache.rs`: the remote tuples of each UDP socket. Handles, instance ids and
timestamps are natural numbers, and the capacity of the vectors is left out. -/

namespace WindowsKext

structure UdpEndpointPeer where
  key : Key
  instanceId : Nat
  associatedAtMs : Nat
deriving DecidableEq

structure UdpEndpointCache where
  endpoints : Std.TreeMap Nat (List UdpEndpointPeer)

namespace UdpEndpointCache

def new : UdpEndpointCache where
  endpoints := ∅

/-- True only when this call inserted a new association. -/
def associateInstanceAt (cache : UdpEndpointCache) (endpointHandle : Nat) (key : Key)
    (instanceId associatedAtMs : Nat) : Bool × UdpEndpointCache :=
  if endpointHandle == 0 || instanceId == 0 then (false, cache)
  else
    let peer : UdpEndpointPeer := {
      key := key
      instanceId := instanceId
      associatedAtMs := associatedAtMs }
    match cache.endpoints[endpointHandle]? with
    | some peers =>
        if peers.any fun peer => peer.key == key && peer.instanceId == instanceId then
          (false, cache)
        else (true, { endpoints := cache.endpoints.insert endpointHandle (peers ++ [peer]) })
    | none => (true, { endpoints := cache.endpoints.insert endpointHandle [peer] })

def dissociate (cache : UdpEndpointCache) (endpointHandle : Nat) (key : Key) (instanceId : Nat) :
    Bool × UdpEndpointCache :=
  if endpointHandle == 0 || instanceId == 0 then (false, cache)
  else
    match cache.endpoints[endpointHandle]? with
    | none => (false, cache)
    | some peers =>
        let retained := peers.filter fun peer => peer.key != key || peer.instanceId != instanceId
        let removed := retained.length != peers.length
        if removed && retained.isEmpty then
          (removed, { endpoints := cache.endpoints.erase endpointHandle })
        else (removed, { endpoints := cache.endpoints.insert endpointHandle retained })

def allPeers (cache : UdpEndpointCache) : List UdpEndpointPeer :=
  cache.endpoints.toList.flatMap Prod.snd

def instanceIds (cache : UdpEndpointCache) : List Nat :=
  cache.allPeers.map UdpEndpointPeer.instanceId

def gracePeriodMs : Nat := 1000

/-- Exempt, or associated within the grace period. -/
def protectsPeer (currentTimeMs : Nat) (peer : UdpEndpointPeer) : Bool :=
  peer.associatedAtMs == 0 ||
    (decide (currentTimeMs ≥ peer.associatedAtMs) &&
      decide (currentTimeMs - peer.associatedAtMs < gracePeriodMs))

/-- Removes associations of instances that no longer exist. The ids are sorted for a binary
search, which finds exactly the ids of the list. -/
def removeInstances (cache : UdpEndpointCache) (instanceIds : List Nat) (currentTimeMs : Nat) :
    Nat × UdpEndpointCache :=
  if instanceIds.isEmpty then (0, cache)
  else
    let retained : UdpEndpointCache := {
      endpoints := cache.endpoints.filterMap fun _ peers =>
        let peers := peers.filter fun peer =>
          protectsPeer currentTimeMs peer || !instanceIds.contains peer.instanceId
        if peers.isEmpty then none else some peers }
    (cache.allPeers.length - retained.allPeers.length, retained)

/-- Consumes one endpoint with every tuple observed on its socket. -/
def take (cache : UdpEndpointCache) (endpointHandle : Nat) :
    Option (List UdpEndpointPeer) × UdpEndpointCache :=
  if endpointHandle == 0 then (none, cache)
  else (cache.endpoints[endpointHandle]?, { endpoints := cache.endpoints.erase endpointHandle })

def clear (_ : UdpEndpointCache) : UdpEndpointCache where
  endpoints := ∅

def peers (cache : UdpEndpointCache) (endpointHandle : Nat) : List UdpEndpointPeer :=
  cache.endpoints[endpointHandle]?.getD []

variable {cache : UdpEndpointCache} {peer : UdpEndpointPeer}

theorem mem_peers {endpointHandle : Nat} : peer ∈ cache.peers endpointHandle ↔
    ∃ peers, cache.endpoints[endpointHandle]? = some peers ∧ peer ∈ peers := by
  unfold UdpEndpointCache.peers
  cases cache.endpoints[endpointHandle]? with
  | none => simp
  | some peers => simp

theorem mem_allPeers : peer ∈ cache.allPeers ↔ ∃ handle, peer ∈ cache.peers handle := by
  simp only [allPeers, List.mem_flatMap, mem_peers, Prod.exists,
    Std.TreeMap.mem_toList_iff_getElem?_eq_some]

theorem mem_instanceIds {instanceId : Nat} : instanceId ∈ cache.instanceIds ↔
    ∃ handle, ∃ peer ∈ cache.peers handle, peer.instanceId = instanceId := by
  simp only [instanceIds, List.mem_map, mem_allPeers]
  constructor
  · rintro ⟨peer, ⟨handle, member⟩, same⟩
    exact ⟨handle, peer, member, same⟩
  · rintro ⟨handle, peer, member, same⟩
    exact ⟨peer, ⟨handle, member⟩, same⟩

theorem mem_peers_removeInstances {instances : List Nat} {currentTimeMs endpointHandle : Nat} :
    peer ∈ (cache.removeInstances instances currentTimeMs).2.peers endpointHandle ↔
      peer ∈ cache.peers endpointHandle ∧
        (protectsPeer currentTimeMs peer = true ∨ peer.instanceId ∉ instances) := by
  unfold removeInstances
  split
  · rename_i empty
    simp [List.isEmpty_iff.mp empty]
  · simp only [mem_peers, Std.TreeMap.getElem?_filterMap']
    cases cache.endpoints[endpointHandle]? with
    | none => simp
    | some peers =>
        simp only [Option.bind_some, Option.some.injEq, exists_eq_left']
        constructor
        · rintro ⟨retained, kept, member⟩
          split at kept
          · cases kept
          · cases kept
            simpa using member
        · rintro ⟨member, kept⟩
          have inFilter : peer ∈ peers.filter fun peer =>
              protectsPeer currentTimeMs peer || !instances.contains peer.instanceId := by
            simpa using ⟨member, kept⟩
          refine ⟨_, if_neg ?_, inFilter⟩
          rw [List.isEmpty_iff]
          exact List.ne_nil_of_mem inFilter

end UdpEndpointCache

inductive EndpointOp where
  | associateInstanceAt (endpointHandle : Nat) (key : Key) (instanceId associatedAtMs : Nat)
  | dissociate (endpointHandle : Nat) (key : Key) (instanceId : Nat)
  | removeInstances (instanceIds : List Nat) (currentTimeMs : Nat)
  | take (endpointHandle : Nat)
  | clear

def EndpointOp.step (cache : UdpEndpointCache) : EndpointOp → UdpEndpointCache
  | .associateInstanceAt endpointHandle key instanceId associatedAtMs =>
      (cache.associateInstanceAt endpointHandle key instanceId associatedAtMs).2
  | .dissociate endpointHandle key instanceId =>
      (cache.dissociate endpointHandle key instanceId).2
  | .removeInstances instanceIds currentTimeMs =>
      (cache.removeInstances instanceIds currentTimeMs).2
  | .take endpointHandle => (cache.take endpointHandle).2
  | .clear => cache.clear

namespace EndpointOp

def associates : EndpointOp → Option Nat
  | .associateInstanceAt _ _ instanceId _ => some instanceId
  | _ => none

variable {cache : UdpEndpointCache}

theorem mem_peers_insert {endpointHandle handle : Nat} {stored : List UdpEndpointPeer}
    {peer : UdpEndpointPeer}
    (member : peer ∈
      UdpEndpointCache.peers ⟨cache.endpoints.insert endpointHandle stored⟩ handle) :
    peer ∈ stored ∨ peer ∈ cache.peers handle := by
  unfold UdpEndpointCache.peers at member ⊢
  rw [Std.TreeMap.getElem?_insert] at member
  split at member
  · exact .inl member
  · exact .inr member

theorem mem_peers_erase {endpointHandle handle : Nat} {peer : UdpEndpointPeer}
    (member : peer ∈ UdpEndpointCache.peers ⟨cache.endpoints.erase endpointHandle⟩ handle) :
    peer ∈ cache.peers handle := by
  unfold UdpEndpointCache.peers at member ⊢
  rw [Std.TreeMap.getElem?_erase] at member
  split at member
  · cases member
  · exact member

theorem mem_instanceIds_step {op : EndpointOp} {instanceId : Nat}
    (member : instanceId ∈ (op.step cache).instanceIds) :
    instanceId ∈ cache.instanceIds ∨ op.associates = some instanceId := by
  obtain ⟨handle, peer, stored, rfl⟩ := UdpEndpointCache.mem_instanceIds.mp member
  have old (inPeers : ∃ handle, peer ∈ cache.peers handle) :
      peer.instanceId ∈ cache.instanceIds := by
    obtain ⟨handle, inPeers⟩ := inPeers
    exact UdpEndpointCache.mem_instanceIds.mpr ⟨handle, peer, inPeers, rfl⟩
  cases op with
  | associateInstanceAt endpointHandle key instanceId associatedAtMs =>
      simp only [step, UdpEndpointCache.associateInstanceAt] at stored
      split at stored
      · exact .inl (old ⟨_, stored⟩)
      · split at stored
        · rename_i peers present
          split at stored
          · exact .inl (old ⟨_, stored⟩)
          · rcases mem_peers_insert stored with appended | kept
            · rcases List.mem_append.mp appended with earlier | new
              · exact .inl (old ⟨_, UdpEndpointCache.mem_peers.mpr ⟨peers, present, earlier⟩⟩)
              · rw [List.mem_singleton.mp new]
                exact .inr rfl
            · exact .inl (old ⟨_, kept⟩)
        · rcases mem_peers_insert stored with new | kept
          · rw [List.mem_singleton.mp new]
            exact .inr rfl
          · exact .inl (old ⟨_, kept⟩)
  | dissociate endpointHandle key instanceId =>
      simp only [step, UdpEndpointCache.dissociate] at stored
      split at stored
      · exact .inl (old ⟨_, stored⟩)
      · split at stored
        · exact .inl (old ⟨_, stored⟩)
        · rename_i peers present
          split at stored
          · exact .inl (old ⟨_, mem_peers_erase stored⟩)
          · rcases mem_peers_insert stored with retained | kept
            · have earlier := (List.mem_filter.mp retained).1
              exact .inl (old ⟨_, UdpEndpointCache.mem_peers.mpr ⟨peers, present, earlier⟩⟩)
            · exact .inl (old ⟨_, kept⟩)
  | removeInstances instanceIds currentTimeMs =>
      exact .inl (old ⟨_, (UdpEndpointCache.mem_peers_removeInstances.mp stored).1⟩)
  | take endpointHandle =>
      simp only [step, UdpEndpointCache.take] at stored
      split at stored
      · exact .inl (old ⟨_, stored⟩)
      · exact .inl (old ⟨_, mem_peers_erase stored⟩)
  | clear => simp [step, UdpEndpointCache.clear, UdpEndpointCache.peers] at stored

end EndpointOp

end WindowsKext
