import WindowsKext.PacketCalloutsCore
import WindowsKext.PacketMetadataChecks

/-! One iteration of a packet layer. The rules that let a packet through and the ways to end the
call without an action are stated on the inputs of the iteration; everything else blocks. -/

namespace WindowsKext

open ByteString ExitLoop

section Lookups

variable {A : Type} [AddressFamily A] [DecidableEq A]

theorem readMatching_total {C : Type} (map : ConnectionMap A) (ignoreSpecialPorts : Bool)
    (now : Nat) (key : Key) (readConnection : Connection A → C) (useEndedFallback : Bool) :
    (∃ connection, (map.readMatching ignoreSpecialPorts now key
        (fun connection => some (readConnection connection)) useEndedFallback).1 =
        some (readConnection connection)) ∨
      map.readMatching ignoreSpecialPorts now key
        (fun connection => some (readConnection connection)) useEndedFallback = (none, map) := by
  unfold ConnectionMap.readMatching
  split
  · exact .inr rfl
  · simp only
    split
    · exact .inl ⟨_, rfl⟩
    · split
      · exact .inl ⟨_, rfl⟩
      · split
        · exact .inl ⟨_, rfl⟩
        · exact .inr rfl

end Lookups

theorem fromConnection_redirectInfo {A : Type} [AddressFamily A] (connection : Connection A) :
    (ConnectionInfo.fromConnection connection).redirectInfo.isNone =
      !(ConnectionInfo.fromConnection connection).verdict.isRedirect := by
  unfold ConnectionInfo.fromConnection Connection.redirectInfo
  cases connection.verdict <;> rfl

theorem getConnectionInfo_spec (ignoreSpecialPorts : Bool) (cache : ConnectionCache) (now : Nat)
    (key : Key) (ipv6 : Bool) (direction : Direction) (useEndedFallback : Bool) :
    (∃ info, (getConnectionInfo ignoreSpecialPorts cache now key ipv6 direction
        useEndedFallback).1 = some info ∧ info.redirectInfo.isNone = !info.verdict.isRedirect) ∨
      getConnectionInfo ignoreSpecialPorts cache now key ipv6 direction useEndedFallback =
        (none, cache) := by
  unfold getConnectionInfo ConnectionMap.readForPacket ConnectionMap.readWithEndedFallback
    ConnectionMap.read
  cases ipv6 with
  | true =>
      have total := readMatching_total cache.connectionsV6 ignoreSpecialPorts now key
        ConnectionInfo.fromConnection
      cases useEndedFallback <;> cases direction <;> simp only [Bool.false_eq_true, ↓reduceIte]
      all_goals
        rcases total _ with ⟨connection, found⟩ | missed
        · exact .inl ⟨_, found, fromConnection_redirectInfo connection⟩
        · rw [missed]
          exact .inr rfl
  | false =>
      have total := readMatching_total cache.connectionsV4 ignoreSpecialPorts now key
        ConnectionInfo.fromConnection
      cases useEndedFallback <;> cases direction <;> simp only [Bool.false_eq_true, ↓reduceIte]
      all_goals
        rcases total _ with ⟨connection, found⟩ | missed
        · exact .inl ⟨_, found, fromConnection_redirectInfo connection⟩
        · rw [missed]
          exact .inr rfl

/-- Clones that get complete checksums, or the reason why there are none. -/
def recalculatedClones (smoltcp : Smoltcp) (ipv6 : Bool) (netBuffers : List NetBuffer) :
    Except String (List NetBufferList) :=
  match clonePackets netBuffers with
  | .error error => .error error
  | .ok (.single clone) => (recalculateCloneChecksum smoltcp ipv6 clone).map fun clone => [clone]
  | .ok (.batch clones) => clones.mapM (recalculateCloneChecksum smoltcp ipv6)

def Packet.netBufferLists : Packet → List NetBufferList
  | .network nbl _ => [nbl]
  | .networkBatch nbls _ => nbls
  | .aleLayer _ => []

theorem clonePacket_recalculate (smoltcp : Smoltcp) (netBuffers : List NetBuffer)
    (injectInfo : InjectInfo) :
    (clonePacket smoltcp netBuffers injectInfo .recalculate).map Packet.netBufferLists =
      recalculatedClones smoltcp injectInfo.ipv6 netBuffers := by
  unfold clonePacket recalculatedClones
  rcases clonePackets netBuffers with error | clones
  · rfl
  · cases clones with
    | single clone =>
        simp only
        cases recalculateCloneChecksum smoltcp injectInfo.ipv6 clone <;> rfl
    | batch clones =>
        simp only
        cases clones.mapM (recalculateCloneChecksum smoltcp injectInfo.ipv6) <;> rfl

/-- An inbound connection whose ALE authorization is still to come. -/
def ConnectionInfo.AwaitsAuthorization (info : ConnectionInfo) : Prop :=
  info.direction = .inbound ∧ info.verdict = .undecided ∧
    (info.processId = 0 ∨ info.processId = 4)

/-- A verdict that leaves every packet to userspace. -/
def Verdict.asksUserspace : Verdict → Bool
  | .undecided | .accept | .block | .drop => true
  | _ => false

namespace PacketLayer

variable {S : Type} [PacketData S] (layer : PacketLayer)

def matched (cache : ConnectionCache) (now : Nat) (key : Key) : Option ConnectionInfo :=
  (getConnectionInfo layer.environment.ignoreSpecialPorts cache now key layer.ipv6
    layer.direction (!layer.injectedByOther)).1

/-- The process that an unmatched inbound packet may borrow. -/
def fallbackPid (cache : ConnectionCache) (key : Key) : Option Nat :=
  inboundUdpFallbackPid key.protocol layer.environment.inboundUdpPidFallbackEnabled
    fun _ => cache.findActiveUdpPid key

/-- The rules that let a TCP or UDP packet with this key through. -/
structure PermitsTransport (cache : ConnectionCache) (now : Nat) (key : Key) (reset : Bool) :
    Prop where
  transport : key.protocol = .tcp ∨ key.protocol = .udp
  rule : (key.protocol = .tcp ∧ reset = true ∧
      ∀ info, layer.matched cache now key = some info → info.verdict.isRedirect = false) ∨
    (∃ info, layer.matched cache now key = some info ∧
      (info.verdict = .permanentAccept ∨ info.AwaitsAuthorization)) ∨
    (layer.matched cache now key = none ∧ layer.direction = .inbound ∧
      layer.fallbackPid cache key = none)

def PermitsKey (cache : ConnectionCache) (now : Nat) (key : Key) (reset : Bool) : Prop :=
  fastTrackPmPackets layer.environment.ignoreSpecialPorts key = true ∨
    layer.PermitsTransport cache now key reset

def Queues (cache : ConnectionCache) (now : Nat) (key : Key) : Prop :=
  (key.protocol = .tcp ∨ key.protocol = .udp) →
    ∀ info, layer.matched cache now key = some info → info.verdict.asksUserspace = true

/-- The clones of a packet that waits for a verdict cannot be made. -/
def Uncloneable (netBuffers : List NetBuffer) : Prop :=
  ∃ error, recalculatedClones layer.environment.smoltcp layer.ipv6 netBuffers = .error error

def inspector (permitFragments : Bool) (view : NblView S) : PacketInspector S :=
  PacketInspector.new view.reader layer.ipv6 layer.direction permitFragments

/-- Fragments are permitted only at the head of a chain that was not reassembled. -/
def permitFragments (state : PacketLayerState) : Bool := state.first && !layer.reassembled

def Permits (state : PacketLayerState) (nbl : IndicatedNbl S) : Prop :=
  ∃ view, layer.viewFromIpHeader (layer.permitFragments state) nbl = .ok view ∧
    (readKey (layer.permitFragments state)
        (layer.inspector (layer.permitFragments state) view) = none ∨
      ∃ key inspector, readKey (layer.permitFragments state)
          (layer.inspector (layer.permitFragments state) view) = some (.ok key, inspector) ∧
        layer.PermitsKey state.device.connectionCache nbl.now key inspector.isTcpReset.1)

/-- The iteration ends the call without an action of its own: the NBL cannot be read, or it waits
for a verdict and cannot be cloned. -/
def Stops (state : PacketLayerState) (nbl : IndicatedNbl S) : Prop :=
  match layer.viewFromIpHeader (layer.permitFragments state) nbl with
  | .error _ => True
  | .ok view =>
      match readKey (layer.permitFragments state)
          (layer.inspector (layer.permitFragments state) view) with
      | none => False
      | some (.error _, _) => True
      | some (.ok key, inspector) =>
          ¬ layer.PermitsKey state.device.connectionCache nbl.now key inspector.isTcpReset.1 ∧
            layer.Queues state.device.connectionCache nbl.now key ∧
            layer.Uncloneable view.netBuffers

end PacketLayer

/-- What one iteration does, given when it lets its NBL through and when it ends the call without
an action. -/
structure Outcome (state : PacketLayerState) (result : Exit × PacketLayerState)
    (permits stops : Prop) : Prop where
  permitted : permits → result.2.data = state.data.actionPermit ∧
    result.2.effects = state.effects ∧
    result.2.device.packetCache = state.device.packetCache
  stopped : stops → result.1 = .leave ∧ result.2.data = state.data
  blocked : ¬ permits → ¬ stops →
    result.1 = .next ∧ result.2.data.classifyOut.actionType = .block

theorem Outcome.congr {state : PacketLayerState} {result : Exit × PacketLayerState}
    {permits stops permits' stops' : Prop} (outcome : Outcome state result permits stops)
    (samePermits : permits' ↔ permits) (sameStops : stops' ↔ stops) :
    Outcome state result permits' stops' := by
  rw [samePermits, sameStops]
  exact outcome

/-- Changes of the device other than its queue, and of the routing values, do not matter. -/
theorem Outcome.transfer {state start : PacketLayerState} {result : Exit × PacketLayerState}
    {permits stops : Prop} (outcome : Outcome start result permits stops)
    (data : start.data = state.data) (effects : start.effects = state.effects)
    (packetCache : start.device.packetCache = state.device.packetCache) :
    Outcome state result permits stops where
  permitted holds := by
    rw [← data, ← effects, ← packetCache]
    exact outcome.permitted holds
  stopped holds := by
    rw [← data]
    exact outcome.stopped holds
  blocked := outcome.blocked

theorem outcome_permitAndReturn (state : PacketLayerState) :
    Outcome state state.permitAndReturn True False where
  permitted _ := ⟨rfl, rfl, rfl⟩
  stopped impossible := impossible.elim
  blocked denied := absurd trivial denied

theorem outcome_blocked {state next : PacketLayerState}
    (blocks : next.data.classifyOut.actionType = .block) :
    Outcome state (.next, next) False False where
  permitted impossible := impossible.elim
  stopped impossible := impossible.elim
  blocked _ _ := ⟨rfl, blocks⟩

theorem outcome_stopped {state next : PacketLayerState} (data : next.data = state.data) :
    Outcome state (.leave, next) False True where
  permitted impossible := impossible.elim
  stopped _ := ⟨rfl, data⟩
  blocked _ denied := absurd trivial denied

namespace PacketLayer

variable {S : Type} [PacketData S] (layer : PacketLayer)

theorem outcome_queuePacket (state : PacketLayerState) (netBuffers : List NetBuffer)
    (attribution : PacketAttribution) :
    Outcome state (layer.queuePacket state netBuffers attribution) False
      (layer.Uncloneable netBuffers) := by
  unfold queuePacket Uncloneable
  generalize info : state.packetInjectInfo attribution.effectiveDirection layer.ipv6
    attribution.key.isLoopback = routed
  have family : routed.1.ipv6 = layer.ipv6 := by rw [← info]; rfl
  have data : routed.2.data = state.data := by rw [← info]; rfl
  have clones := clonePacket_recalculate layer.environment.smoltcp netBuffers routed.1
  rw [family] at clones
  rw [← clones]
  obtain ⟨injectInfo, routed⟩ := routed
  simp only
  cases clonePacket layer.environment.smoltcp netBuffers injectInfo .recalculate with
  | error error =>
      exact (outcome_stopped data).congr Iff.rfl (iff_true_intro ⟨error, rfl⟩)
  | ok packet =>
      have possible : ¬ ∃ error, (Except.ok packet : Except String Packet).map
          Packet.netBufferLists = .error error := by
        rintro ⟨error, failed⟩
        cases failed
      simp only
      split
      · exact (outcome_blocked rfl).congr Iff.rfl (iff_false_intro possible)
      · exact (outcome_blocked rfl).congr Iff.rfl (iff_false_intro possible)

theorem outcome_queuePacket_withDevice (state : PacketLayerState) (device : Device)
    (netBuffers : List NetBuffer) (attribution : PacketAttribution)
    (packetCache : device.packetCache = state.device.packetCache) :
    Outcome state (layer.queuePacket { state with device := device } netBuffers attribution)
      False (layer.Uncloneable netBuffers) :=
  (layer.outcome_queuePacket { state with device := device } netBuffers attribution).transfer
    rfl rfl packetCache

theorem outcome_enforceConnection (state : PacketLayerState) (netBuffers : List NetBuffer)
    (key : Key) (info : ConnectionInfo) :
    Outcome state (layer.enforceConnection state netBuffers key info)
      (info.verdict = .permanentAccept ∨ info.AwaitsAuthorization)
      (¬ info.AwaitsAuthorization ∧ info.verdict.asksUserspace = true ∧
        layer.Uncloneable netBuffers) := by
  unfold enforceConnection
  by_cases awaits : info.AwaitsAuthorization
  · have taken : (info.direction == .inbound && info.verdict == .undecided &&
        (info.processId == 0 || info.processId == 4)) = true := by
      simpa [ConnectionInfo.AwaitsAuthorization, and_assoc] using awaits
    rw [if_pos taken]
    refine (outcome_permitAndReturn state).congr (iff_true_intro (.inr awaits)) ?_
    simp [awaits]
  · have skipped : ¬ (info.direction == .inbound && info.verdict == .undecided &&
        (info.processId == 0 || info.processId == 4)) = true := by
      simpa [ConnectionInfo.AwaitsAuthorization, and_assoc] using awaits
    rw [if_neg skipped]
    simp only [awaits, or_false, not_false_eq_true, true_and]
    cases verdict : info.verdict
    case undecided | accept | block | drop =>
      refine (layer.outcome_queuePacket state netBuffers _).congr ?_ ?_
      · simp
      · simp [Verdict.asksUserspace]
    case permanentAccept =>
      refine ⟨fun _ => ⟨rfl, rfl, rfl⟩, ?_, fun denied => absurd rfl denied⟩
      rintro ⟨asks, _⟩
      simp [Verdict.asksUserspace] at asks
    case permanentBlock | undeterminable | permanentDrop | failed =>
      refine (outcome_blocked rfl).congr ?_ ?_
      · simp
      · simp [Verdict.asksUserspace]
    case redirectNameServer | redirectTunnel | redirectSplitTunnel =>
      refine (outcome_blocked ?_).congr ?_ ?_
      · cases info.redirectInfo <;> rfl
      · simp
      · simp [Verdict.asksUserspace]

theorem registerInboundUdpFallbackConnection_ok (cache : ConnectionCache)
    (now instanceId : Nat) {key : Key} (processId : Nat)
    (family : sameFamily key.localAddress key.remoteAddress = true) :
    ∃ registration, (cache.registerInboundUdpFallbackConnection now instanceId key processId).1 =
      .ok registration := by
  obtain ⟨protocol, localAddress, localPort, remoteAddress, remotePort⟩ := key
  unfold ConnectionCache.registerInboundUdpFallbackConnection
  cases localAddress <;> cases remoteAddress
  case ipv4.ipv4 | ipv6.ipv6 => exact ⟨_, rfl⟩
  case ipv4.ipv6 | ipv6.ipv4 => cases family

theorem registerUntrackedConnection_ok (cache : ConnectionCache) (now instanceId : Nat)
    {key : Key} (processId : Nat) (direction : Direction)
    (family : sameFamily key.localAddress key.remoteAddress = true) :
    ∃ registration, (cache.registerUntrackedConnection now instanceId key processId
      direction).1 = .ok registration := by
  obtain ⟨protocol, localAddress, localPort, remoteAddress, remotePort⟩ := key
  unfold ConnectionCache.registerUntrackedConnection
    ConnectionCache.registerConnectionWithLifecycle
  cases localAddress <;> cases remoteAddress
  case ipv4.ipv4 | ipv6.ipv6 => exact ⟨_, rfl⟩
  case ipv4.ipv6 | ipv6.ipv4 => cases family

theorem outcome_registerUnmatched (state : PacketLayerState) (netBuffers : List NetBuffer)
    {key : Key} (now instanceId : Nat)
    (family : sameFamily key.localAddress key.remoteAddress = true) :
    Outcome state (layer.registerUnmatched state netBuffers key now instanceId)
      (layer.direction = .inbound ∧
        layer.fallbackPid state.device.connectionCache key = none)
      (¬ (layer.direction = .inbound ∧
          layer.fallbackPid state.device.connectionCache key = none) ∧
        layer.Uncloneable netBuffers) := by
  unfold registerUnmatched
  cases direction : layer.direction with
  | inbound =>
      simp only [beq_self_eq_true, ↓reduceIte, true_and]
      unfold fallbackPid
      cases fallback : inboundUdpFallbackPid key.protocol
        layer.environment.inboundUdpPidFallbackEnabled
        (fun _ => state.device.connectionCache.findActiveUdpPid key) with
      | none =>
          refine (outcome_permitAndReturn state).congr (iff_true_intro rfl) ?_
          simp
      | some processId =>
          obtain ⟨registration, registered⟩ := registerInboundUdpFallbackConnection_ok
            state.device.connectionCache now instanceId processId family
          simp only
          rcases outcome : state.device.connectionCache.registerInboundUdpFallbackConnection now
            instanceId key processId with ⟨result, cache⟩
          rw [outcome] at registered
          obtain rfl : result = .ok registration := registered
          simp only
          refine (layer.outcome_queuePacket_withDevice state
            { state.device with connectionCache := cache } netBuffers _ rfl).congr ?_ ?_
          · simp
          · simp
  | outbound =>
      have outbound : (Direction.outbound == Direction.inbound) = false := rfl
      simp only [outbound, Bool.false_eq_true, ↓reduceIte, reduceCtorEq, false_and,
        not_false_eq_true, true_and]
      split
      · exact (layer.outcome_queuePacket _ netBuffers _).transfer rfl rfl rfl
      · obtain ⟨registration, registered⟩ := registerUntrackedConnection_ok
          state.device.connectionCache now instanceId 0 .outbound family
        rcases outcome : state.device.connectionCache.registerUntrackedConnection now
          instanceId key 0 .outbound with ⟨result, cache⟩
        rw [outcome] at registered
        obtain rfl : result = .ok registration := registered
        exact layer.outcome_queuePacket_withDevice state _ netBuffers _ rfl

theorem packetCache_attributeInbound (device : Device) (now : Nat) (key : Key)
    (metadata : IcmpMetadata) :
    (layer.attributeInbound device now key metadata).2.packetCache = device.packetCache := by
  unfold attributeInbound attributeEcho
  rcases metadata.error with _ | ⟨_⟩ | ⟨_⟩
  · rcases metadata.echo with _ | echo
    · rfl
    · simp only
      split <;> rfl
  · simp only
    split <;> rfl
  · rfl

theorem packetCache_attributePacket (device : Device) (now : Nat) (key : Key)
    (metadata : IcmpMetadata) :
    (layer.attributePacket device now key metadata).2.packetCache = device.packetCache := by
  unfold attributePacket
  split
  · unfold attributeOutbound
    rcases metadata.echo with _ | echo
    · rfl
    · simp only
      split
      · split
        · rfl
        · split <;> rfl
      · rfl
  · exact layer.packetCache_attributeInbound device now key metadata

theorem permitsTransport_of_matched {cache : ConnectionCache} {now : Nat} {key : Key} {reset : Bool}
    {info : ConnectionInfo} (transport : key.protocol = .tcp ∨ key.protocol = .udp)
    (found : layer.matched cache now key = some info) :
    layer.PermitsTransport cache now key reset ↔
      (key.protocol = .tcp ∧ reset = true ∧ info.verdict.isRedirect = false) ∨
        info.verdict = .permanentAccept ∨ info.AwaitsAuthorization := by
  constructor
  · rintro ⟨_, ⟨tcp, isReset, plain⟩ | ⟨other, matched, rule⟩ | ⟨matched, _⟩⟩
    · exact .inl ⟨tcp, isReset, plain info found⟩
    · rw [found, Option.some.injEq] at matched
      rw [matched]
      exact .inr rule
    · rw [found] at matched
      cases matched
  · rintro (⟨tcp, isReset, plain⟩ | rule)
    · refine ⟨transport, .inl ⟨tcp, isReset, ?_⟩⟩
      intro other matched
      rw [found, Option.some.injEq] at matched
      rw [← matched]
      exact plain
    · exact ⟨transport, .inr (.inl ⟨info, found, rule⟩)⟩

theorem permitsTransport_of_missed {cache : ConnectionCache} {now : Nat} {key : Key} {reset : Bool}
    (transport : key.protocol = .tcp ∨ key.protocol = .udp)
    (missed : layer.matched cache now key = none) :
    layer.PermitsTransport cache now key reset ↔
      (key.protocol = .tcp ∧ reset = true) ∨
        (layer.direction = .inbound ∧ layer.fallbackPid cache key = none) := by
  constructor
  · rintro ⟨_, ⟨tcp, isReset, _⟩ | ⟨other, matched, _⟩ | ⟨_, rule⟩⟩
    · exact .inl ⟨tcp, isReset⟩
    · rw [missed] at matched
      cases matched
    · exact .inr rule
  · rintro (⟨tcp, isReset⟩ | rule)
    · refine ⟨transport, .inl ⟨tcp, isReset, ?_⟩⟩
      intro other matched
      rw [missed] at matched
      cases matched
    · exact ⟨transport, .inr (.inr ⟨missed, rule⟩)⟩

theorem queues_of_matched {cache : ConnectionCache} {now : Nat} {key : Key} {info : ConnectionInfo}
    (transport : key.protocol = .tcp ∨ key.protocol = .udp)
    (found : layer.matched cache now key = some info) :
    layer.Queues cache now key ↔ info.verdict.asksUserspace = true := by
  constructor
  · intro queues
    exact queues transport info found
  · intro asks _ other matched
    rw [found, Option.some.injEq] at matched
    rw [← matched]
    exact asks

theorem queues_of_missed {cache : ConnectionCache} {now : Nat} {key : Key}
    (missed : layer.matched cache now key = none) : layer.Queues cache now key := by
  intro _ other matched
  rw [missed] at matched
  cases matched

theorem outcome_transport (state : PacketLayerState) (now instanceId : Nat)
    (netBuffers : List NetBuffer) (reset : Bool) {key : Key}
    (family : sameFamily key.localAddress key.remoteAddress = true)
    (transport : key.protocol = .tcp ∨ key.protocol = .udp) :
    Outcome state
      (let (connectionInfo, cache) := getConnectionInfo layer.environment.ignoreSpecialPorts
        state.device.connectionCache now key layer.ipv6 layer.direction
        (!layer.injectedByOther)
      let state := state.withConnectionCache cache
      if key.protocol == .tcp && reset &&
          (connectionInfo.bind ConnectionInfo.redirectInfo).isNone then state.permitAndReturn
      else
        match connectionInfo with
        | some info => layer.enforceConnection state netBuffers key info
        | none => layer.registerUnmatched state netBuffers key now instanceId)
      (layer.PermitsTransport state.device.connectionCache now key reset)
      (¬ layer.PermitsTransport state.device.connectionCache now key reset ∧
        layer.Queues state.device.connectionCache now key ∧
        layer.Uncloneable netBuffers) := by
  have found := getConnectionInfo_spec layer.environment.ignoreSpecialPorts
    state.device.connectionCache now key layer.ipv6 layer.direction (!layer.injectedByOther)
  have same : layer.matched state.device.connectionCache now key =
      (getConnectionInfo layer.environment.ignoreSpecialPorts state.device.connectionCache now
        key layer.ipv6 layer.direction (!layer.injectedByOther)).1 := rfl
  rcases outcome : getConnectionInfo layer.environment.ignoreSpecialPorts
    state.device.connectionCache now key layer.ipv6 layer.direction (!layer.injectedByOther)
    with ⟨info, cache⟩
  rw [outcome] at found same
  have moved (result : Exit × PacketLayerState) (permits stops : Prop)
      (after : Outcome (state.withConnectionCache cache) result permits stops) :
      Outcome state result permits stops := after.transfer rfl rfl rfl
  simp only
  rcases found with ⟨info, rfl, redirect⟩ | missed
  · simp only [Option.bind_some, redirect]
    have permits := @permitsTransport_of_matched layer _ _ _ reset _ transport same
    have queues := layer.queues_of_matched transport same
    by_cases resets : key.protocol = .tcp ∧ reset = true ∧ info.verdict.isRedirect = false
    · rw [if_pos (by simpa [and_assoc] using resets)]
      refine (moved _ _ _ (outcome_permitAndReturn _)).congr
        (iff_true_intro (permits.mpr (.inl resets))) (iff_false_intro ?_)
      rintro ⟨denied, _⟩
      exact denied (permits.mpr (.inl resets))
    · rw [if_neg (by simpa [and_assoc] using resets)]
      rw [or_iff_right resets] at permits
      refine (moved _ _ _ (layer.outcome_enforceConnection _ netBuffers key info)).congr
        permits ?_
      rw [permits, queues]
      constructor
      · rintro ⟨denied, asks, clones⟩
        exact ⟨fun awaits => denied (.inr awaits), asks, clones⟩
      · rintro ⟨denied, asks, clones⟩
        refine ⟨?_, asks, clones⟩
        rintro (accepted | awaits)
        · simp [accepted, Verdict.asksUserspace] at asks
        · exact denied awaits
  · obtain ⟨rfl, rfl⟩ : info = none ∧ cache = state.device.connectionCache := by
      simpa using missed
    have permits := @permitsTransport_of_missed layer _ _ _ reset transport same
    simp only [Option.bind_none, Option.isNone_none, Bool.and_true]
    by_cases resets : key.protocol = .tcp ∧ reset = true
    · rw [if_pos (by simpa using resets)]
      refine (moved _ _ _ (outcome_permitAndReturn _)).congr
        (iff_true_intro (permits.mpr (.inl resets))) (iff_false_intro ?_)
      rintro ⟨denied, _⟩
      exact denied (permits.mpr (.inl resets))
    · rw [if_neg (by simpa using resets)]
      rw [or_iff_right resets] at permits
      refine (moved _ _ _ (layer.outcome_registerUnmatched _ netBuffers now instanceId
        family)).congr permits ?_
      rw [permits]
      exact and_congr_right fun _ => and_iff_right (layer.queues_of_missed same)

theorem outcome_processKey (state : PacketLayerState) (nbl : IndicatedNbl S)
    (netBuffers : List NetBuffer) (inspector : PacketInspector S) {key : Key}
    (family : sameFamily key.localAddress key.remoteAddress = true) :
    Outcome state (layer.processKey state nbl netBuffers inspector key)
      (layer.PermitsKey state.device.connectionCache nbl.now key inspector.isTcpReset.1)
      (¬ layer.PermitsKey state.device.connectionCache nbl.now key inspector.isTcpReset.1 ∧
        layer.Queues state.device.connectionCache nbl.now key ∧
        layer.Uncloneable netBuffers) := by
  unfold processKey
  simp only
  by_cases fast : fastTrackPmPackets layer.environment.ignoreSpecialPorts key = true
  · rw [if_pos fast]
    have permits : layer.PermitsKey state.device.connectionCache nbl.now key
        inspector.isTcpReset.1 := .inl fast
    refine (outcome_permitAndReturn state).congr (iff_true_intro permits) ?_
    simp [permits]
  rw [if_neg fast]
  by_cases transport : key.protocol = .tcp ∨ key.protocol = .udp
  · have taken : (key.protocol == .tcp || key.protocol == .udp) = true := by simpa using transport
    rw [if_pos taken]
    have permits : layer.PermitsKey state.device.connectionCache nbl.now key
        inspector.isTcpReset.1 ↔ layer.PermitsTransport state.device.connectionCache nbl.now key
          inspector.isTcpReset.1 := or_iff_right fast
    rw [permits]
    exact layer.outcome_transport state nbl.now nbl.instanceId netBuffers inspector.isTcpReset.1
      family transport
  · have other : ¬ (key.protocol == .tcp || key.protocol == .udp) = true := by
      simpa using transport
    rw [if_neg other]
    have denied : ¬ layer.PermitsKey state.device.connectionCache nbl.now key
        inspector.isTcpReset.1 := by
      rintro (tracked | ⟨protocol, _⟩)
      · exact fast tracked
      · exact transport protocol
    have queues : layer.Queues state.device.connectionCache nbl.now key := fun protocol =>
      absurd protocol transport
    refine (layer.outcome_queuePacket_withDevice state _ netBuffers _
      (layer.packetCache_attributePacket _ _ _ _)).congr ?_ ?_
    · simp [denied]
    · simp [denied, queues]

theorem sameFamily_buildKey (packet : Bytes) (ipv6 : Bool) (direction : Direction)
    (protocol : IpProtocol) (sourcePort destinationPort : UInt16) :
    sameFamily
      (buildKey direction protocol (PacketInspector.keyAddresses packet ipv6).1 sourcePort
        (PacketInspector.keyAddresses packet ipv6).2 destinationPort).localAddress
      (buildKey direction protocol (PacketInspector.keyAddresses packet ipv6).1 sourcePort
        (PacketInspector.keyAddresses packet ipv6).2 destinationPort).remoteAddress = true := by
  cases ipv6 <;> cases direction <;> rfl

theorem sameFamily_readKeyFromHeader {inspector after : PacketInspector S} {key : Key}
    (read : inspector.readKeyFromHeader = (.ok key, after)) :
    sameFamily key.localAddress key.remoteAddress = true := by
  unfold PacketInspector.readKeyFromHeader at read
  simp only at read
  split at read
  · cases read
  · split at read
    · cases read
    · split at read
      · split at read
        · cases read
          exact sameFamily_buildKey _ _ _ _ _ _
        · split at read
          · cases read
            exact sameFamily_buildKey _ _ _ _ _ _
          · split at read
            · cases read
              exact sameFamily_buildKey _ _ _ _ _ _
            · cases read
      · cases read
        exact sameFamily_buildKey _ _ _ _ _ _

theorem sameFamily_key {inspector after : PacketInspector S} {key : Key}
    (read : inspector.key = (.ok key, after)) :
    sameFamily key.localAddress key.remoteAddress = true := by
  unfold PacketInspector.key at read
  split at read
  · exact sameFamily_readKeyFromHeader read
  · split at read
    · unfold PacketInspector.keyFromInitial at read
      simp only at read
      split at read
      · cases read
      · generalize (if (_ || _ : Bool) = true then _ else _ : Nat) = keyEnd at read
        split at read
        · cases read
          exact sameFamily_buildKey _ _ _ _ _ _
        · split at read
          · exact sameFamily_readKeyFromHeader read
          · exact sameFamily_readKeyFromHeader read
    · exact sameFamily_readKeyFromHeader read

theorem sameFamily_readKey {permitFragments : Bool} {inspector after : PacketInspector S}
    {key : Key} (read : readKey permitFragments inspector = some (.ok key, after)) :
    sameFamily key.localAddress key.remoteAddress = true := by
  unfold readKey at read
  split at read
  · rename_i parsed
    cases read
    exact sameFamily_key parsed
  · split at read
    · split at read
      · cases read
      · rw [Option.some.injEq] at read
        exact sameFamily_key read
    · cases read

theorem outcome_step (state : PacketLayerState) (nbl : IndicatedNbl S) :
    Outcome state (layer.step state nbl) (layer.Permits state nbl) (layer.Stops state nbl) := by
  unfold step Permits Stops
  change Outcome state (match layer.viewFromIpHeader (layer.permitFragments state) nbl with
    | .error _ => _
    | .ok view => match readKey (layer.permitFragments state)
          (layer.inspector (layer.permitFragments state) view) with
        | none => _
        | some (.error _, _) => _
        | some (.ok key, inspector) => _) _ _
  cases layer.viewFromIpHeader (layer.permitFragments state) nbl with
  | error error =>
      refine (outcome_stopped rfl).congr (iff_false_intro ?_) Iff.rfl
      rintro ⟨view, readable, _⟩
      cases readable
  | ok view =>
      simp only [Except.ok.injEq, exists_eq_left']
      rcases read : readKey (layer.permitFragments state)
        (layer.inspector (layer.permitFragments state) view) with _ | ⟨error | key, inspector⟩
      · exact (outcome_permitAndReturn state).congr (iff_true_intro (.inl rfl)) Iff.rfl
      · refine (outcome_stopped rfl).congr (iff_false_intro ?_) Iff.rfl
        rintro (fragment | ⟨key, after, parsed, _⟩)
        · cases fragment
        · cases parsed
      · have outcome := layer.outcome_processKey { state with first := false } nbl
          view.netBuffers inspector (sameFamily_readKey read)
        have moved : Outcome state _ _ _ := outcome.transfer rfl rfl rfl
        refine moved.congr ?_ Iff.rfl
        constructor
        · rintro (fragment | ⟨key, after, parsed, permits⟩)
          · cases fragment
          · cases parsed
            exact permits
        · intro permits
          exact .inr ⟨key, inspector, rfl, permits⟩

end PacketLayer

end WindowsKext
