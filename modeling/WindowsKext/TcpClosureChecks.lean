import Mathlib.Data.List.Nodup
import WindowsKext.DeviceThreadsQueue

/-! Endpoint closures against the request queue. Each operation of the closure cache is described
by what it does to the request set of one closure. -/

namespace WindowsKext

open InstanceIndex

def Entry.identity (entry : Entry) : PendingIdentity where
  key := entry.value.key
  connectionInstanceId := entry.value.connectionInstanceId

def TcpEndpointConnection.Awaits (endpoint : TcpEndpointConnection) (identity : PendingIdentity) :
    Prop :=
  requestMatchesTcpEndpoint endpoint.key endpoint.instanceId identity.key
    identity.connectionInstanceId = true

theorem TcpEndpointConnection.awaits_iff (endpoint : TcpEndpointConnection)
    (identity : PendingIdentity) :
    endpoint.Awaits identity ↔ identity.connectionInstanceId = some endpoint.instanceId ∨
      (endpoint.key.isLoopbackLike = true ∧ identity.key = endpoint.key.reverse) := by
  simp [TcpEndpointConnection.Awaits, requestMatchesTcpEndpoint]

inductive IdCache.Outstanding (cache : IdCache) : Nat → PendingIdentity → Prop where
  | queued {entry : Entry} (member : entry ∈ cache.values) :
      Outstanding cache entry.id entry.identity
  | active {id : Nat} {identity : PendingIdentity} (claimed : cache.active[id]? = some identity) :
      Outstanding cache id identity

section Outstanding

variable {cache : IdCache} {issued : Nat}

theorem outstanding_popId (invariant : QueueInvariant cache issued) (claimed id : Nat)
    (identity : PendingIdentity) :
    (cache.popId claimed).2.Outstanding id identity ↔ cache.Outstanding id identity := by
  by_cases present : ∃ entry ∈ cache.values, entry.id = claimed
  · obtain ⟨entry, member, rfl⟩ := present
    rw [popId_of_mem invariant member]
    constructor
    · rintro (⟨kept⟩ | ⟨active⟩)
      · exact .queued (List.mem_filter.mp kept).1
      · rw [Std.TreeMap.getElem?_insert] at active
        split at active
        · rename_i same
          cases active
          rw [Nat.compare_eq_eq] at same
          subst same
          exact .queued member
        · exact .active active
    · rintro (⟨queued⟩ | ⟨active⟩)
      · rename_i other
        by_cases same : other.id = entry.id
        · have unique := List.inj_on_of_nodup_map invariant.distinct queued member same
          subst unique
          exact .active (Std.TreeMap.getElem?_insert_self)
        · exact .queued (List.mem_filter.mpr ⟨queued, by simpa using same⟩)
      · refine .active ?_
        have other : ¬ entry.id = id := by
          refine invariant.activeClaimed id ?_ entry member
          rw [Std.TreeMap.mem_iff_isSome_getElem?, active]
          rfl
        rw [Std.TreeMap.getElem?_insert, if_neg (by simpa using other)]
        exact active
  · rw [popId_of_absent fun entry member same => present ⟨entry, member, same⟩]

theorem outstanding_finishId (finished id : Nat) (identity : PendingIdentity) :
    (cache.finishId finished).Outstanding id identity ↔
      (∃ entry ∈ cache.values, entry.id = id ∧ entry.identity = identity) ∨
        (id ≠ finished ∧ cache.active[id]? = some identity) := by
  constructor
  · rintro (⟨member⟩ | ⟨active⟩)
    · exact .inl ⟨_, member, rfl, rfl⟩
    · right
      rw [IdCache.finishId, Std.TreeMap.getElem?_erase] at active
      split at active
      · cases active
      · rename_i other
        rw [Nat.compare_eq_eq] at other
        exact ⟨Ne.symm other, active⟩
  · rintro (⟨entry, member, rfl, rfl⟩ | ⟨other, active⟩)
    · exact .queued member
    · refine .active ?_
      rw [IdCache.finishId, Std.TreeMap.getElem?_erase, if_neg]
      · exact active
      · rw [Nat.compare_eq_eq]
        exact Ne.symm other

section Push

variable {key : Key} {packet : Packet} {connectionInstanceId : Option Nat}
  {processId threadId : Nat} {direction : Direction} {aleLayer : Bool}
  {pushed : List (Nat × ConnectionRequest) × IdCache} (invariant : QueueInvariant cache issued)
  (push : cache.push key packet connectionInstanceId processId threadId direction aleLayer =
    pushed) (room : issued + pushed.1.length < 2 ^ 64)

include invariant push room

theorem push_cases : pushed = ([], cache) ∨ Pushes packet.requests connectionInstanceId threadId
    ((pushContext key connectionInstanceId processId direction aleLayer).entriesFrom (issued + 1)
      packet.requests) cache issued pushed := by
  cases family : sameFamily key.localAddress key.remoteAddress with
  | false =>
      rw [push_mixed family] at push
      exact .inl push.symm
  | true =>
      rw [← push, length_push _ _ _ _ _ _ _ _ family] at room
      rw [← push]
      exact .inr (pushes_push invariant.nextId room family)

theorem issued_lt_of_push {id : Nat} (member : id ∈ pushed.1.map Prod.fst) : issued < id := by
  rcases push_cases invariant push room with rfl | pushes
  · cases member
  · rw [pushes.ids, List.mem_range'_1] at member
    omega

theorem active_push : pushed.2.active = cache.active := by
  rcases push_cases invariant push room with rfl | pushes
  · rfl
  · exact pushes.active

theorem outstanding_push (id : Nat) (identity : PendingIdentity) :
    pushed.2.Outstanding id identity ↔ cache.Outstanding id identity ∨
      (id ∈ pushed.1.map Prod.fst ∧ identity = ⟨key, connectionInstanceId⟩) := by
  rcases push_cases invariant push room with rfl | pushes
  · simp
  · constructor
    · rintro (⟨member⟩ | ⟨active⟩)
      · rw [← push] at member
        rcases mem_push member with old | ⟨queued, sameKey, sameInstance⟩
        · exact .inl (.queued old)
        · right
          rw [push] at queued
          exact ⟨queued, by rw [Entry.identity, sameKey, sameInstance]⟩
      · rw [pushes.active] at active
        exact .inl (.active active)
    · rintro ((⟨member⟩ | ⟨active⟩) | ⟨queued, rfl⟩)
      · refine .queued ?_
        rw [pushes.values]
        exact List.mem_append_left _ member
      · refine .active ?_
        rw [pushes.active]
        exact active
      · rw [pushes.ids, ← pushes.entryIds] at queued
        obtain ⟨entry, member, rfl⟩ := List.mem_map.mp queued
        obtain ⟨sameKey, sameInstance, _⟩ := mem_entriesFrom _ member
        have identity : entry.identity = ⟨key, connectionInstanceId⟩ := by
          rw [Entry.identity, sameKey, sameInstance]
          rfl
        rw [← identity]
        refine .queued ?_
        rw [pushes.values]
        exact List.mem_append_right _ member

end Push

theorem outstanding_of_retires {instanceIds : List Nat} {result : List Entry × IdCache}
    (retires : Retires instanceIds cache result) {id : Nat} {identity : PendingIdentity}
    (outstanding : result.2.Outstanding id identity) :
    cache.Outstanding id identity ∨ (identity.connectionInstanceId = none ∧
      ∃ instanceId, cache.Outstanding id ⟨identity.key, some instanceId⟩) := by
  rcases outstanding with ⟨member⟩ | ⟨active⟩
  · obtain ⟨original, stored, _, ⟨_, rfl⟩ | ⟨listed, _, rfl⟩⟩ := retires.mem_values member
    · exact .inl (.queued stored)
    · right
      obtain ⟨instanceId, _, bound⟩ := (Entry.listedIn_iff _ _).mp listed
      refine ⟨rfl, instanceId, ?_⟩
      have identity : original.identity = ⟨original.detach.identity.key, some instanceId⟩ := by
        simpa [Entry.boundTo, Entry.identity, Entry.detach] using bound
      rw [← identity]
      exact .queued stored
  · rw [retires.active] at active
    exact .inl (.active active)

/-- A retirement leaves a request outstanding, removes it, or detaches a UDP clone. -/
theorem outstanding_retires {instanceIds : List Nat} {result : List Entry × IdCache}
    (retires : Retires instanceIds cache result) {id : Nat} {identity : PendingIdentity}
    (outstanding : cache.Outstanding id identity) :
    result.2.Outstanding id identity ∨
      (∃ entry ∈ result.1, entry.id = id ∧ entry.identity = identity) ∨
      ∃ entry ∈ cache.values, entry.identity = identity ∧ entry.value.key.protocol = .udp := by
  rcases outstanding with ⟨member⟩ | ⟨active⟩
  · rename_i entry
    cases listed : entry.listedIn instanceIds with
    | false =>
        refine .inl (.queued ?_)
        rw [retires.values]
        exact List.mem_filterMap.mpr ⟨entry, member, by simp [listed]⟩
    | true =>
        cases survives : entry.survives with
        | false =>
            refine .inr (.inl ⟨entry, ?_, rfl, rfl⟩)
            rw [retires.removed, List.mem_filter]
            exact ⟨member, by simp [listed, survives]⟩
        | true =>
            refine .inr (.inr ⟨entry, member, rfl, ?_⟩)
            simp only [Entry.survives, Packet.survivesConnectionEnd, Bool.and_eq_true,
              beq_iff_eq] at survives
            exact survives.1
  · refine .inl (.active ?_)
    rw [retires.active]
    exact active

end Outstanding

section Snapshot

variable {cache : IdCache} {issued : Nat}

/-- The scan of all queued and active requests for a closing endpoint. -/
def IdCache.scanTcpEndpointRequestIds (cache : IdCache) (key : Key) (instanceId : Nat) :
    List Nat :=
  let queued := (cache.values.filter fun entry => requestMatchesTcpEndpoint key instanceId
    entry.value.key entry.value.connectionInstanceId).map Entry.id
  let active := (cache.active.toList.filter fun entry =>
    requestMatchesTcpEndpoint key instanceId entry.2.key entry.2.connectionInstanceId).map Prod.fst
  withoutRepeats none (queued ++ active).mergeSort

theorem tcpEndpointRequestIds_eq_scan (indexed : IndexExact cache)
    (nonzero : ∀ entry ∈ cache.values, entry.value.connectionInstanceId ≠ some 0) (key : Key)
    (instanceId : Nat) :
    cache.tcpEndpointRequestIds key instanceId =
      cache.scanTcpEndpointRequestIds key instanceId := by
  unfold IdCache.tcpEndpointRequestIds IdCache.scanTcpEndpointRequestIds
  cases loopbackLike : key.isLoopbackLike with
  | true => rfl
  | false =>
      have scanned : cache.values.filter (fun entry => requestMatchesTcpEndpoint key instanceId
          entry.value.key entry.value.connectionInstanceId) =
            cache.values.filter (Entry.boundTo instanceId) := by
        refine List.filter_congr fun entry _ => ?_
        simp [requestMatchesTcpEndpoint, loopbackLike, Entry.boundTo]
      have found : idsOf cache.pendingByInstance instanceId =
          (cache.values.filter (Entry.boundTo instanceId)).map Entry.id := by
        by_cases zero : instanceId = 0
        · subst zero
          have none : cache.values.filter (Entry.boundTo 0) = [] := by
            rw [List.filter_eq_nil_iff]
            intro entry member bound
            exact nonzero entry member (by simpa [Entry.boundTo] using bound)
          rw [none, idsOf, indexed.occupied.nonzero]
          rfl
        · exact indexed.exact instanceId zero
      rw [scanned, ← found]
      rfl

theorem mem_scanTcpEndpointRequestIds (endpoint : TcpEndpointConnection) (id : Nat) :
    id ∈ cache.scanTcpEndpointRequestIds endpoint.key endpoint.instanceId ↔
      ∃ identity, cache.Outstanding id identity ∧ endpoint.Awaits identity := by
  rw [IdCache.scanTcpEndpointRequestIds, (withoutRepeats_mergeSort _).2, List.mem_append,
    List.mem_map, List.mem_map]
  constructor
  · rintro (⟨entry, found, rfl⟩ | ⟨⟨id, identity⟩, found, rfl⟩)
    · obtain ⟨member, awaits⟩ := List.mem_filter.mp found
      exact ⟨entry.identity, .queued member, awaits⟩
    · obtain ⟨member, awaits⟩ := List.mem_filter.mp found
      exact ⟨identity, .active (Std.TreeMap.mem_toList_iff_getElem?_eq_some.mp member), awaits⟩
  · rintro ⟨identity, ⟨member⟩ | ⟨active⟩, awaits⟩
    · exact .inl ⟨_, List.mem_filter.mpr ⟨member, awaits⟩, rfl⟩
    · exact .inr ⟨(id, identity), List.mem_filter.mpr
        ⟨Std.TreeMap.mem_toList_iff_getElem?_eq_some.mpr active, awaits⟩, rfl⟩

end Snapshot

namespace PendingTcpClosure

def addRequest (key : Key) (connectionInstanceId : Option Nat) (closure : PendingTcpClosure)
    (requestId : Nat) : PendingTcpClosure :=
  if requestMatchesTcpEndpoint closure.endpoint.key closure.endpoint.instanceId key
        connectionInstanceId && !closure.requestIds.contains requestId then
    { closure with
      requestIds := closure.requestIds.takeWhile (fun id => id < requestId) ++
        requestId :: closure.requestIds.dropWhile fun id => id < requestId }
  else closure

def finishRequest (requestId : Nat) (closure : PendingTcpClosure) : PendingTcpClosure :=
  { closure with requestIds := closure.requestIds.erase requestId }

structure Updates (before after : PendingTcpClosure) : Prop where
  endpoint : after.endpoint = before.endpoint
  classify : after.classify = before.classify

structure Joins (identity : PendingIdentity) (ids : List Nat)
    (before after : PendingTcpClosure) : Prop extends Updates before after where
  mem : ∀ id, id ∈ after.requestIds ↔ id ∈ before.requestIds ∨
    (before.endpoint.Awaits identity ∧ id ∈ ids)
  distinct : before.requestIds.Nodup → after.requestIds.Nodup

theorem joins_addRequest (closure : PendingTcpClosure) (identity : PendingIdentity) (id : Nat) :
    Joins identity [id] closure
      (closure.addRequest identity.key identity.connectionInstanceId id) := by
  unfold addRequest
  split
  · rename_i joins
    simp only [Bool.and_eq_true, Bool.not_eq_true', List.contains_eq_mem,
      decide_eq_false_iff_not] at joins
    have perm : (closure.requestIds.takeWhile (fun other => other < id) ++
        id :: closure.requestIds.dropWhile fun other => other < id).Perm
          (id :: closure.requestIds) := by
      refine List.perm_middle.trans (List.Perm.of_eq ?_)
      rw [List.takeWhile_append_dropWhile]
    refine ⟨⟨rfl, rfl⟩, ?_, ?_⟩
    · intro other
      rw [perm.mem_iff, List.mem_cons, List.mem_singleton, or_comm]
      exact or_congr_right ⟨fun same => ⟨joins.1, same⟩, And.right⟩
    · intro distinct
      exact perm.nodup_iff.mpr (List.nodup_cons.mpr ⟨joins.2, distinct⟩)
  · rename_i stays
    refine ⟨⟨rfl, rfl⟩, ?_, fun distinct => distinct⟩
    intro other
    rw [List.mem_singleton]
    constructor
    · exact .inl
    · rintro (old | ⟨awaits, rfl⟩)
      · exact old
      · simp only [Bool.and_eq_true, Bool.not_eq_true', List.contains_eq_mem,
          decide_eq_false_iff_not, not_and, Decidable.not_not] at stays
        exact stays awaits

theorem joins_foldl (closure : PendingTcpClosure) (identity : PendingIdentity) (ids : List Nat) :
    Joins identity ids closure
      (ids.foldl (addRequest identity.key identity.connectionInstanceId) closure) := by
  induction ids generalizing closure with
  | nil => exact ⟨⟨rfl, rfl⟩, by simp, fun distinct => distinct⟩
  | cons id rest ih =>
      have first := joins_addRequest closure identity id
      have others := ih (closure.addRequest identity.key identity.connectionInstanceId id)
      refine ⟨⟨others.endpoint.trans first.endpoint, others.classify.trans first.classify⟩, ?_,
        fun distinct => others.distinct (first.distinct distinct)⟩
      intro other
      rw [List.foldl_cons, others.mem, first.mem, first.endpoint, List.mem_singleton,
        List.mem_cons, or_assoc, and_or_left]

end PendingTcpClosure

namespace TcpClosureCache

variable (cache : TcpClosureCache)

theorem getElem?_foldl_addRequest (key : Key) (connectionInstanceId : Option Nat) (ids : List Nat)
    (instanceId : Nat) :
    (ids.foldl (addRequest key connectionInstanceId) cache)[instanceId]? =
      cache[instanceId]?.map fun closure =>
        ids.foldl (PendingTcpClosure.addRequest key connectionInstanceId) closure := by
  induction ids generalizing cache with
  | nil => simp
  | cons id rest ih =>
      have first : addRequest key connectionInstanceId cache id = cache.map fun _ closure =>
          closure.addRequest key connectionInstanceId id := rfl
      rw [List.foldl_cons, ih, first, Std.TreeMap.getElem?_map, Option.map_map]
      rfl

theorem getElem?_finishRequest (requestId instanceId : Nat) :
    (cache.finishRequest requestId).2[instanceId]? =
      cache[instanceId]?.map (PendingTcpClosure.finishRequest requestId) :=
  Std.TreeMap.getElem?_map

theorem mem_finishRequest {requestId instanceId : Nat} {closure : PendingTcpClosure}
    (stored : (cache.finishRequest requestId).2[instanceId]? = some closure)
    (ready : closure.requestIds = []) :
    closure.endpoint ∈ (cache.finishRequest requestId).1 := by
  refine List.mem_map_of_mem (List.mem_filter.mpr ⟨?_, by simp [ready]⟩)
  exact List.mem_map.mpr
    ⟨(instanceId, closure), Std.TreeMap.mem_toList_iff_getElem?_eq_some.mpr stored, rfl⟩

theorem takeReady_cases (instanceId : Nat) :
    (cache.takeReady instanceId = (none, cache) ∧
        ∀ closure, cache[instanceId]? = some closure → closure.requestIds ≠ []) ∨
      ∃ closure, cache[instanceId]? = some closure ∧
        cache.takeReady instanceId = (some closure, Std.TreeMap.erase cache instanceId) := by
  unfold takeReady
  rw [Std.TreeMap.get?_eq_getElem?]
  cases stored : cache[instanceId]? with
  | none => exact .inl ⟨rfl, nofun⟩
  | some closure =>
      cases ready : closure.requestIds.isEmpty with
      | true => exact .inr ⟨closure, rfl, by simp [ready]⟩
      | false =>
          refine .inl ⟨by simp [ready], ?_⟩
          rintro _ ⟨⟩
          simpa using ready

def classifications (cache : TcpClosureCache) : List Nat :=
  cache.toList.map fun entry => entry.2.classify

theorem classifications_map (update : Nat → PendingTcpClosure → PendingTcpClosure)
    (keeps : ∀ instanceId closure, (update instanceId closure).classify = closure.classify) :
    classifications (cache.map update) = classifications cache := by
  simp [classifications, Std.TreeMap.toList_map, keeps]

theorem classifications_foldl_addRequest (key : Key) (connectionInstanceId : Option Nat)
    (ids : List Nat) :
    classifications (ids.foldl (addRequest key connectionInstanceId) cache) =
      classifications cache := by
  induction ids generalizing cache with
  | nil => rfl
  | cons id rest ih =>
      rw [List.foldl_cons, ih]
      refine classifications_map cache _ fun instanceId closure => ?_
      split <;> rfl

theorem classifications_finishRequest (requestId : Nat) :
    classifications (cache.finishRequest requestId).2 = classifications cache :=
  classifications_map cache _ fun _ _ => rfl

theorem classifications_cons {before after : TcpClosureCache} {instanceId : Nat}
    {closure : PendingTcpClosure} (stored : after[instanceId]? = some closure)
    (absent : before[instanceId]? = none)
    (others : ∀ other, other ≠ instanceId → after[other]? = before[other]?) :
    (classifications after).Perm (classifications before ++ [closure.classify]) := by
  have distinct (cache : TcpClosureCache) : cache.toList.Nodup := by
    refine (Std.TreeMap.distinct_keys_toList).imp ?_
    rintro left right different rfl
    exact different (Nat.compare_eq_eq.mpr rfl)
  have perm : after.toList.Perm ((instanceId, closure) :: before.toList) := by
    rw [List.perm_ext_iff_of_nodup (distinct after)]
    · rintro ⟨other, value⟩
      rw [List.mem_cons, Std.TreeMap.mem_toList_iff_getElem?_eq_some,
        Std.TreeMap.mem_toList_iff_getElem?_eq_some, Prod.mk.injEq]
      by_cases same : other = instanceId
      · subst same
        simp [stored, absent, eq_comm]
      · simp [others other same, same]
    · refine List.nodup_cons.mpr ⟨?_, distinct before⟩
      rw [Std.TreeMap.mem_toList_iff_getElem?_eq_some, absent]
      simp
  exact (perm.map _).trans (List.perm_append_singleton _ _).symm

theorem classifications_insert {instanceId : Nat} (absent : instanceId ∉ cache)
    (closure : PendingTcpClosure) :
    (classifications (Std.TreeMap.insert cache instanceId closure)).Perm
      (classifications cache ++ [closure.classify]) := by
  refine classifications_cons Std.TreeMap.getElem?_insert_self
    (Std.TreeMap.getElem?_eq_none absent) ?_
  intro other different
  rw [Std.TreeMap.getElem?_insert, if_neg]
  rw [Nat.compare_eq_eq]
  exact Ne.symm different

theorem classifications_erase {instanceId : Nat} {closure : PendingTcpClosure}
    (stored : cache[instanceId]? = some closure) :
    (classifications cache).Perm
      (classifications (Std.TreeMap.erase cache instanceId) ++ [closure.classify]) := by
  refine classifications_cons stored Std.TreeMap.getElem?_erase_self ?_
  intro other different
  rw [Std.TreeMap.getElem?_erase, if_neg]
  rw [Nat.compare_eq_eq]
  exact Ne.symm different

end TcpClosureCache

end WindowsKext
