import WindowsKext.ConnectionMapReference

/-! Runs of public connection-map operations from the empty map. Each run is simulated by a run
of the flat operations, so every reachable map is well formed and answers every lookup as the
flat list does. IgnoreSpecialPorts is off. -/

namespace WindowsKext

open FirstMatch KeyedGroups

variable {A : Type} [AddressFamily A]

/-- The public operations that can change a map. Clock values are arguments, and a mutable
borrow is followed by the caller's change of the entry. -/
inductive MapOp (A : Type) [AddressFamily A] where
  | insertIfAbsentWith (connection : Connection A) (update : EntryUpdate A)
  | getMut (now : Nat) (key : Key) (update : EntryUpdate A)
  | getMutInstance (now : Nat) (key : Key) (instanceId : Nat) (update : EntryUpdate A)
  | read (now : Nat) (key : Key)
  | readWithEndedFallback (now : Nat) (key : Key)
  | readForPacket (now : Nat) (key : Key) (direction : Direction)
  | markNativeLifecycleInstance (key : Key) (instanceId : Nat)
  | endInstance (now : Nat) (key : Key) (instanceId : Nat)
  | endInstances (now : Nat) (instances : List (Key × Nat))
  | endAllOnEndpoint (now : Nat) (group : IpProtocol × UInt16) (localAddress : Option IpAddress)
      (processId : Option Nat)
  | endUntrackedOnEndpoint (now : Nat) (group : IpProtocol × UInt16)
      (localAddress : Option IpAddress) (processId : Option Nat)
  | endInactiveUntrackedConnections (now : Nat)
  | cleanEndedConnections (now : Nat)
  | clear

/-- A state of a run: the stored entries, the instance ids that insertions stored, and the
instance ids that end operations returned, in order. -/
structure MapRun (S : Type) where
  state : S
  inserted : List Nat
  ended : List Nat

namespace MapRun

variable {S : Type}

def store (run : MapRun S) (state : S) : MapRun S :=
  { run with state := state }

def insert (run : MapRun S) (result : Except (Connection A × Nat) Nat) (state : S) : MapRun S :=
  match result with
  | .error _ => run.store state
  | .ok instanceId => { run with state := state, inserted := run.inserted ++ [instanceId] }

def finish (run : MapRun S) (connections : List (Connection A)) (state : S) : MapRun S :=
  { run with
    state := state
    ended := run.ended ++ connections.map Connection.instanceId }

end MapRun

variable [DecidableEq A]

def MapOp.step (run : MapRun (ConnectionMap A)) : MapOp A → MapRun (ConnectionMap A)
  | .insertIfAbsentWith connection update =>
      let (result, map) := run.state.insertIfAbsentWith connection update.apply
      run.insert result map
  | .getMut now key update => run.store (run.state.getMut now key update.apply).2
  | .getMutInstance now key instanceId update =>
      run.store (run.state.getMutInstance false now key instanceId update.apply).2
  | .read now key => run.store (run.state.read false now key some).2
  | .readWithEndedFallback now key =>
      run.store (run.state.readWithEndedFallback false now key some).2
  | .readForPacket now key direction =>
      run.store (run.state.readForPacket false now key direction some).2
  | .markNativeLifecycleInstance key instanceId =>
      run.store (run.state.markNativeLifecycleInstance key instanceId).2
  | .endInstance now key instanceId =>
      let (ended, map) := run.state.endInstance now key instanceId
      run.finish ended.toList map
  | .endInstances now instances =>
      let (ended, map) := run.state.endInstances now instances
      run.finish ended map
  | .endAllOnEndpoint now group localAddress processId =>
      let (ended, map) := run.state.endAllOnEndpoint now group localAddress processId
      run.finish (ended.getD []) map
  | .endUntrackedOnEndpoint now group localAddress processId =>
      let (ended, map) := run.state.endUntrackedOnEndpoint now group localAddress processId
      run.finish (ended.getD []) map
  | .endInactiveUntrackedConnections now =>
      let (ended, map) := run.state.endInactiveUntrackedConnections now
      run.finish ended map
  | .cleanEndedConnections now => run.store (run.state.cleanEndedConnections now)
  | .clear => run.store run.state.clear

def MapOp.flatStep (run : MapRun (List (Connection A))) :
    MapOp A → MapRun (List (Connection A))
  | .insertIfAbsentWith connection update =>
      let flat := FlatReference.insertIfAbsentWith run.state connection update.apply
      if (run.state.find? (isLiveExact connection.getKey)).isSome then run.store flat
      else { run with state := flat, inserted := run.inserted ++ [connection.instanceId] }
  | .getMut now key update => run.store (modifyFirst (isLiveExact key)
      (fun connection => update.apply (refreshUntrackedActivity now connection)) run.state)
  | .getMutInstance now key instanceId update =>
      run.store (FlatReference.updateInstance run.state key instanceId
        fun connection => update.apply (refreshUntrackedActivity now connection))
  | .read now key | .readWithEndedFallback now key | .readForPacket now key _ =>
      run.store (FlatReference.refreshRead run.state now key)
  | .markNativeLifecycleInstance key instanceId =>
      run.store (FlatReference.markNativeLifecycleInstance run.state key instanceId)
  | .endInstance now key instanceId =>
      let (ended, flat) := FlatReference.endInstance run.state now key instanceId
      run.finish ended.toList flat
  | .endInstances now instances =>
      let (ended, flat) := FlatReference.endInstances run.state now instances
      run.finish ended flat
  | .endAllOnEndpoint now group localAddress processId =>
      let (ended, flat) :=
        FlatReference.endMatchingOnEndpoint run.state now group localAddress processId false
      run.finish ended flat
  | .endUntrackedOnEndpoint now group localAddress processId =>
      let (ended, flat) :=
        FlatReference.endMatchingOnEndpoint run.state now group localAddress processId true
      run.finish ended flat
  | .endInactiveUntrackedConnections now =>
      let (ended, flat) := FlatReference.endWhere run.state now fun connection =>
        shouldExpireUntracked connection (now - untrackedIdleTimeout)
      run.finish ended flat
  | .cleanEndedConnections now => run.store (run.state.filter fun connection =>
      !connection.hasEnded || decide (connection.extra.endTimestamp ≥ now - 60000))
  | .clear => run.store []

def runMap (ops : List (MapOp A)) : MapRun (ConnectionMap A) :=
  ops.foldl MapOp.step { state := ConnectionMap.new, inserted := [], ended := [] }

def runFlat (ops : List (MapOp A)) : MapRun (List (Connection A)) :=
  ops.foldl MapOp.flatStep { state := [], inserted := [], ended := [] }

/-- A flat run simulates a map run: the list represents the map, the same instances were
inserted, and the same instances were returned as ended up to the order inside one call. -/
structure Simulates (run : MapRun (ConnectionMap A)) (flat : MapRun (List (Connection A))) :
    Prop where
  represents : run.state.Represents flat.state
  inserted : run.inserted = flat.inserted
  ended : run.ended.Perm flat.ended

namespace Simulates

variable {run : MapRun (ConnectionMap A)} {flat : MapRun (List (Connection A))}

omit [DecidableEq A] in
theorem store (simulates : Simulates run flat) {map : ConnectionMap A}
    {entries : List (Connection A)} (represents : map.Represents entries) :
    Simulates (run.store map) (flat.store entries) :=
  ⟨represents, simulates.inserted, simulates.ended⟩

omit [DecidableEq A] in
theorem finish (simulates : Simulates run flat) {map : ConnectionMap A}
    {entries ended flatEnded : List (Connection A)} (represents : map.Represents entries)
    (returned : ended.Perm flatEnded) :
    Simulates (run.finish ended map) (flat.finish flatEnded entries) :=
  ⟨represents, simulates.inserted, simulates.ended.append (returned.map _)⟩

theorem step (simulates : Simulates run flat) (op : MapOp A) :
    Simulates (op.step run) (op.flatStep flat) := by
  have represents := simulates.represents
  cases op with
  | insertIfAbsentWith connection update =>
      have result := represents.insertIfAbsentWith connection update
      simp only [MapOp.step, MapOp.flatStep]
      rw [result.1]
      cases found : flat.state.find? (isLiveExact connection.getKey) with
      | none =>
          refine ⟨result.2, ?_, simulates.ended⟩
          simp [MapRun.insert, simulates.inserted]
      | some existing => exact simulates.store result.2
  | getMut now key update => exact simulates.store (represents.getMut now key update).2
  | getMutInstance now key instanceId update =>
      exact simulates.store (represents.getMutInstance now key instanceId update).2
  | read now key => exact simulates.store (represents.readMatching now key some false).2
  | readWithEndedFallback now key =>
      exact simulates.store (represents.readMatching now key some true).2
  | readForPacket now key direction =>
      cases direction with
      | inbound => exact simulates.store (represents.readMatching now key some false).2
      | outbound => exact simulates.store (represents.readMatching now key some true).2
  | markNativeLifecycleInstance key instanceId =>
      exact simulates.store (represents.markNativeLifecycleInstance key instanceId)
  | endInstance now key instanceId =>
      have result := represents.endInstance now key instanceId
      exact simulates.finish result.2 (result.1 ▸ List.Perm.refl _)
  | endInstances now instances =>
      have result := represents.endInstances now instances
      exact simulates.finish result.2 (result.1 ▸ List.Perm.refl _)
  | endAllOnEndpoint now group localAddress processId =>
      have result := represents.endMatchingOnEndpoint now group localAddress processId false
      exact simulates.finish result.2 result.1
  | endUntrackedOnEndpoint now group localAddress processId =>
      have result := represents.endMatchingOnEndpoint now group localAddress processId true
      exact simulates.finish result.2 result.1
  | endInactiveUntrackedConnections now =>
      have result := represents.endInactiveUntrackedConnections now
      exact simulates.finish result.2 result.1
  | cleanEndedConnections now => exact simulates.store represents.retain
  | clear => exact simulates.store ConnectionMap.represents_empty

end Simulates

theorem simulates_foldl (ops : List (MapOp A)) {run : MapRun (ConnectionMap A)}
    {flat : MapRun (List (Connection A))} (simulates : Simulates run flat) :
    Simulates (ops.foldl MapOp.step run) (ops.foldl MapOp.flatStep flat) := by
  induction ops generalizing run flat with
  | nil => exact simulates
  | cons op rest ih => exact ih (simulates.step op)

theorem simulates_run (ops : List (MapOp A)) : Simulates (runMap ops) (runFlat ops) :=
  simulates_foldl ops ⟨ConnectionMap.represents_empty, rfl, List.Perm.refl _⟩

def Key.OfFamily (A : Type) [AddressFamily A] (key : Key) : Prop :=
  (AddressFamily.ofIpAddress (A := A) key.localAddress).isSome ∧
    (AddressFamily.ofIpAddress (A := A) key.remoteAddress).isSome

/-- The lookups of one key find on a map what they find on a flat list. These make no use of the
address family of the key. -/
structure EntriesFound (map : ConnectionMap A) (flat : List (Connection A)) (key : Key) : Prop where
  read : ∀ {C : Type} (now : Nat) (readConnection : Connection A → Option C),
    (map.read false now key readConnection).1 =
      (FlatReference.readLive flat key).bind fun connection =>
        readConnection (refreshUntrackedActivity now connection)
  readForPacket : ∀ {C : Type} (now : Nat) (direction : Direction)
    (readConnection : Connection A → Option C),
    (map.readForPacket false now key direction readConnection).1 =
      (FlatReference.readForPacket flat key direction).bind fun connection =>
        readConnection (refreshUntrackedActivity now connection)
  readEndedExact : ∀ {C : Type} (readConnection : Connection A → Option C),
    map.readEndedExact key readConnection =
      (flat.reverse.find? (isEndedExact key)).bind readConnection
  getMut : ∀ (now : Nat) (update : EntryUpdate A),
    (map.getMut now key update.apply).1 = (flat.find? (isLiveExact key)).map fun connection =>
      update.apply (refreshUntrackedActivity now connection)
  hasLiveInstance : ∀ instanceId, map.hasLiveInstance key instanceId =
    (instanceId != 0 && flat.any (ConnectionMap.isLiveInstance key instanceId))

theorem entriesFound_of_represents {map : ConnectionMap A} {flat : List (Connection A)}
    (represents : map.Represents flat) (key : Key) : EntriesFound map flat key where
  read now readConnection := by
    simpa [ConnectionMap.read] using (represents.readMatching now key readConnection false).1
  readForPacket now direction readConnection := by
    cases direction with
    | inbound =>
        simpa [ConnectionMap.readForPacket, ConnectionMap.read, FlatReference.readForPacket] using
          (represents.readMatching now key readConnection false).1
    | outbound =>
        simpa [ConnectionMap.readForPacket, ConnectionMap.readWithEndedFallback,
          FlatReference.readForPacket] using
          (represents.readMatching now key readConnection true).1
  readEndedExact readConnection := represents.readEndedExact key readConnection
  getMut now update := (represents.getMut now key update).1
  hasLiveInstance instanceId := represents.hasLiveInstance key instanceId

/-- The lookups of one key on a map equal the precedence specification on a flat list. A read
sees the entry after its activity was refreshed. -/
structure LookupsAgree (map : ConnectionMap A) (flat : List (Connection A)) (key : Key) :
    Prop where
  read : ∀ {C : Type} (now : Nat) (readConnection : Connection A → Option C),
    (map.read false now key readConnection).1 =
      (FlatReference.readLive flat key).bind fun connection =>
        readConnection (refreshUntrackedActivity now connection)
  readForPacket : ∀ {C : Type} (now : Nat) (direction : Direction)
    (readConnection : Connection A → Option C),
    (map.readForPacket false now key direction readConnection).1 =
      (FlatReference.readForPacket flat key direction).bind fun connection =>
        readConnection (refreshUntrackedActivity now connection)
  readEndedExact : ∀ {C : Type} (readConnection : Connection A → Option C),
    map.readEndedExact key readConnection =
      (flat.reverse.find? (isEndedExact key)).bind readConnection
  getMut : ∀ (now : Nat) (update : EntryUpdate A),
    (map.getMut now key update.apply).1 = (flat.find? (isLiveExact key)).map fun connection =>
      update.apply (refreshUntrackedActivity now connection)
  getLiveInstanceMatching : ∀ instanceId,
    map.getLiveInstanceMatching false key instanceId =
      FlatReference.liveInstance flat key instanceId
  getMutInstance : ∀ (now instanceId : Nat) (update : EntryUpdate A),
    (map.getMutInstance false now key instanceId update.apply).1 =
      (FlatReference.liveInstance flat key instanceId).map fun connection =>
        update.apply (refreshUntrackedActivity now connection)

theorem lookupsAgree_of_represents {map : ConnectionMap A} {flat : List (Connection A)}
    (represents : map.Represents flat) {key : Key} (family : key.OfFamily A) :
    LookupsAgree map flat key where
  read := (entriesFound_of_represents represents key).read
  readForPacket := (entriesFound_of_represents represents key).readForPacket
  readEndedExact := (entriesFound_of_represents represents key).readEndedExact
  getMut := (entriesFound_of_represents represents key).getMut
  getLiveInstanceMatching instanceId := represents.getLiveInstanceMatching key instanceId
  getMutInstance now instanceId update := by
    have known : (remoteEndpointFromKey A key).isSome := by
      simpa [remoteEndpointFromKey] using family.2
    have result := (represents.getMutInstance now key instanceId update).1
    rwa [if_pos known] at result

/-- Every reachable map is well formed, keeps each bucket in insertion order, and answers every
lookup as the flat list of inserted and not removed entries does. -/
theorem runMap_refines_flat (ops : List (MapOp A)) (key : Key) (family : key.OfFamily A) :
    (runMap ops).state.WellFormed ∧
      (∀ place, (runMap ops).state.entriesAt place =
        atKey Connection.place place (runFlat ops).state) ∧
      LookupsAgree (runMap ops).state (runFlat ops).state key := by
  have represents := (simulates_run ops).represents
  exact ⟨represents.wellFormed, represents.buckets, lookupsAgree_of_represents represents family⟩

def resolverKey : Key :=
  { protocol := .udp
    localAddress := .ipv4 (Ipv4Address.new 10 0 0 1)
    localPort := 50000
    remoteAddress := .ipv4 (Ipv4Address.new 1 1 1 1)
    remotePort := 53 }

def resolverConnection (instanceId : Nat) : ConnectionV4 :=
  { protocol := .udp
    localAddress := Ipv4Address.new 10 0 0 1
    localPort := 50000
    remoteAddress := Ipv4Address.new 1 1 1 1
    remotePort := 53
    verdict := .undecided
    processId := 8
    threadId := 0
    instanceId := instanceId
    lastAccessedTimestamp := 1
    extra := {
      endTimestamp := 0
      direction := .outbound
      nativeLifecycle := false
      idleExpiration := true } }

def EntryUpdate.unchanged : EntryUpdate A where
  apply connection := connection
  keepsTuple _ := rfl
  keepsInstance _ := rfl

/-- The end of one generation and the reuse of its tuple. -/
def resolverReuse : List (MapOp Ipv4Address) :=
  [.insertIfAbsentWith (resolverConnection 1) .unchanged, .endInstance 5 resolverKey 1,
    .insertIfAbsentWith (resolverConnection 2) .unchanged]

theorem runMap_refines_flat_resolverReuse :
    resolverKey.OfFamily Ipv4Address ∧
      LookupsAgree (runMap resolverReuse).state (runFlat resolverReuse).state resolverKey :=
  have family : resolverKey.OfFamily Ipv4Address := ⟨rfl, rfl⟩
  ⟨family, (runMap_refines_flat resolverReuse resolverKey family).2.2⟩

end WindowsKext
