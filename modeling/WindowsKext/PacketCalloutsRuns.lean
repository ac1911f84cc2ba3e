import Mathlib.Tactic.ByContra
import Mathlib.Tactic.Set
import WindowsKext.PacketCalloutsChecks
import WindowsKext.VerdictRuns

/-! Whole indications. One output is written for all NBLs of a chain, so the last action wins:
this characterizes when that releases an NBL that its own iteration refused, and decides an
indication with one NBL exactly. -/

namespace WindowsKext

open ByteString ExitLoop

section Indication

variable {S : Type} [PacketData S] (environment : Environment) (device : Option Device)
  (data : CalloutData) (ipv6 : Bool) (direction : Direction) (origins : InjectionOrigins)
  (chain : List (IndicatedNbl S))

def indicationLayer : PacketLayer :=
  packetLayer environment data ipv6 direction
    (origins.network.isInjectedByOther || origins.transport.isInjectedByOther)

/-- The iterations of a call. A call for a chain of the driver itself has none. -/
def decided : List (PacketLayerState × IndicatedNbl S) :=
  match device with
  | none => []
  | some device =>
      if origins.selfInjected then []
      else visits (indicationLayer environment data ipv6 direction origins).step
        (PacketLayerState.initial data device) chain

/-- The decision for one NBL: the action that its iteration leaves when it starts from the
default action. -/
def PacketLayer.ownAction (layer : PacketLayer) (visit : PacketLayerState × IndicatedNbl S) :
    FwpAction :=
  (layer.step { visit.1 with data := visit.1.data.setDefaultBlockAndAbsorb }
    visit.2).2.data.classifyOut.actionType

theorem PacketLayer.ownAction_permit_iff (layer : PacketLayer)
    (visit : PacketLayerState × IndicatedNbl S) :
    layer.ownAction visit = .permit ↔ layer.Permits visit.1 visit.2 := by
  have outcome := layer.outcome_step
    { visit.1 with data := visit.1.data.setDefaultBlockAndAbsorb } visit.2
  unfold ownAction
  constructor
  · intro action
    by_contra denied
    by_cases stops : layer.Stops visit.1 visit.2
    · rw [(outcome.stopped stops).2] at action
      cases action
    · rw [(outcome.blocked denied stops).2] at action
      cases action
  · intro permits
    rw [(outcome.permitted permits).1]
    rfl

theorem PacketLayer.not_permits_of_stops (layer : PacketLayer) {state : PacketLayerState}
    {nbl : IndicatedNbl S} (stops : layer.Stops state nbl) : ¬ layer.Permits state nbl := by
  intro permits
  have outcome := layer.outcome_step
    { state with data := state.data.setDefaultBlockAndAbsorb } nbl
  have twice := (outcome.stopped stops).2.symm.trans (outcome.permitted permits).1
  have action := congrArg (fun data => data.classifyOut.actionType) twice
  cases action

/-- A chain fails closed: it is permitted only when every decided NBL is, and then nothing of it
was queued or injected. -/
structure FailsClosed : Prop where
  decisions : (ipPacketLayer environment device data ipv6 direction origins
      chain).1.classifyOut.actionType = .permit →
    ∀ visit ∈ decided environment device data ipv6 direction origins chain,
      (indicationLayer environment data ipv6 direction origins).ownAction visit = .permit
  releasedOnce : (ipPacketLayer environment device data ipv6 direction origins
      chain).1.classifyOut.actionType = .permit →
    (ipPacketLayer environment device data ipv6 direction origins chain).2.1 = [] ∧
      (ipPacketLayer environment device data ipv6 direction origins chain).2.2.map
        Device.packetCache = device.map Device.packetCache

/-- The last decided NBL is let through behind one that is not, or ends the call without an action
behind one that was let through. -/
def ReleasesRefused : Prop :=
  ∃ before last, decided environment device data ipv6 direction origins chain =
      before ++ [last] ∧
    (((indicationLayer environment data ipv6 direction origins).Permits last.1 last.2 ∧
        ∃ visit ∈ before,
          ¬ (indicationLayer environment data ipv6 direction origins).Permits visit.1 visit.2) ∨
      ((indicationLayer environment data ipv6 direction origins).Stops last.1 last.2 ∧
        ∃ earlier previous, before = earlier ++ [previous] ∧
          (indicationLayer environment data ipv6 direction origins).Permits previous.1
            previous.2))

end Indication

theorem actionType_drop (data : CalloutData) :
    data.drop.classifyOut.actionType = data.classifyOut.actionType := by
  unfold CalloutData.drop
  split <;> rfl

section Loop

variable {S : Type} [PacketData S] (environment : Environment) (device : Device)
  (data : CalloutData) (ipv6 : Bool) (direction : Direction) {origins : InjectionOrigins}

theorem ipPacketLayer_of_foreign (foreign : origins.selfInjected = false) (nbl : IndicatedNbl S)
    (rest : List (IndicatedNbl S)) :
    ipPacketLayer environment (some device) data ipv6 direction origins (nbl :: rest) =
      ((run (indicationLayer environment data ipv6 direction origins).step
          (PacketLayerState.initial data device) (nbl :: rest)).data.drop,
        (run (indicationLayer environment data ipv6 direction origins).step
          (PacketLayerState.initial data device) (nbl :: rest)).effects,
        some (run (indicationLayer environment data ipv6 direction origins).step
          (PacketLayerState.initial data device) (nbl :: rest)).device) := by
  unfold ipPacketLayer
  simp only [origins.action_eq, foreign, Bool.false_eq_true, ↓reduceIte]
  rfl

theorem ipPacketLayer_of_selfInjected (own : origins.selfInjected = true) (nbl : IndicatedNbl S)
    (rest : List (IndicatedNbl S)) :
    ipPacketLayer environment (some device) data ipv6 direction origins (nbl :: rest) =
      (data.setDefaultBlockAndAbsorb.actionPermit.drop, [], some device) := by
  unfold ipPacketLayer
  simp only [origins.action_eq, own, ↓reduceIte]

variable {data}

/-- The last visit was let through, or it ended the call without an action behind a visit that was
let through. -/
theorem permitted_run {layer : PacketLayer} {chain : List (IndicatedNbl S)}
    {before : List (PacketLayerState × IndicatedNbl S)} {last : PacketLayerState × IndicatedNbl S}
    (visited : visits layer.step (PacketLayerState.initial data device) chain = before ++ [last])
    (action : (run layer.step (PacketLayerState.initial data device)
      chain).data.classifyOut.actionType = .permit) :
    layer.Permits last.1 last.2 ∨
      (layer.Stops last.1 last.2 ∧
        ∃ earlier previous, before = earlier ++ [previous] ∧
          layer.Permits previous.1 previous.2) := by
  rw [run_eq_of_visits visited] at action
  have outcome := layer.outcome_step last.1 last.2
  by_cases permits : layer.Permits last.1 last.2
  · exact .inl permits
  by_cases stops : layer.Stops last.1 last.2
  · refine .inr ⟨stops, ?_⟩
    rw [(outcome.stopped stops).2] at action
    rcases List.eq_nil_or_concat before with rfl | ⟨earlier, previous, rfl⟩
    · rw [visits_head visited] at action
      cases action
    · refine ⟨earlier, previous, List.concat_eq_append, ?_⟩
      rw [List.concat_append] at visited
      have chained := visits_chain visited
      have previousOutcome := layer.outcome_step previous.1 previous.2
      rw [chained] at previousOutcome
      by_contra denied
      by_cases earlierStops : layer.Stops previous.1 previous.2
      · cases (previousOutcome.stopped earlierStops).1
      · rw [(previousOutcome.blocked denied earlierStops).2] at action
        cases action
  · rw [(outcome.blocked permits stops).2] at action
    cases action

end Loop

section Chains

variable {S : Type} [PacketData S] (environment : Environment) (device : Option Device)
  (data : CalloutData) (ipv6 : Bool) (direction : Direction) (origins : InjectionOrigins)
  (chain : List (IndicatedNbl S))

theorem failsClosed_of_undecided
    (undecided : decided environment device data ipv6 direction origins chain = []) :
    FailsClosed environment device data ipv6 direction origins chain := by
  refine ⟨by simp [undecided], fun action => ?_⟩
  rcases chain with _ | ⟨nbl, rest⟩
  · exact ⟨rfl, rfl⟩
  rcases device with _ | device
  · exact ⟨rfl, rfl⟩
  cases own : origins.selfInjected with
  | true =>
      rw [ipPacketLayer_of_selfInjected environment device data ipv6 direction own]
      exact ⟨rfl, rfl⟩
  | false => simp [decided, own, visits_cons] at undecided

theorem exists_of_decided {visit : PacketLayerState × IndicatedNbl S}
    (member : visit ∈ decided environment device data ipv6 direction origins chain) :
    ∃ present nbl rest, device = some present ∧ chain = nbl :: rest ∧
      origins.selfInjected = false ∧
      decided environment device data ipv6 direction origins chain =
        visits (indicationLayer environment data ipv6 direction origins).step
          (PacketLayerState.initial data present) chain := by
  rcases device with _ | device
  · simp [decided] at member
  cases own : origins.selfInjected with
  | true => simp [decided, own] at member
  | false =>
      rcases chain with _ | ⟨nbl, rest⟩
      · simp [decided, own] at member
      · exact ⟨device, nbl, rest, rfl, rfl, rfl, by simp [decided, own]⟩

/-- A call lets nothing through that an iteration refused, unless the last decided NBL is let
through behind a refused one or ends the call without an action behind one that was let through. -/
theorem chain_failsClosed_iff :
    FailsClosed environment device data ipv6 direction origins chain ↔
      ¬ ReleasesRefused environment device data ipv6 direction origins chain := by
  rcases List.eq_nil_or_concat (decided environment device data ipv6 direction origins chain)
    with undecided | ⟨before, last, visited⟩
  · refine iff_of_true
      (failsClosed_of_undecided environment device data ipv6 direction origins chain undecided) ?_
    rintro ⟨before, last, visited, _⟩
    simp [undecided] at visited
  rw [List.concat_eq_append] at visited
  obtain ⟨present, nbl, rest, rfl, rfl, foreign, same⟩ := exists_of_decided environment device
    data ipv6 direction origins chain (visited ▸ List.mem_append_right before List.mem_cons_self)
  have visitedRun := same.symm.trans visited
  have final := ipPacketLayer_of_foreign environment present data ipv6 direction foreign nbl rest
  set layer := indicationLayer environment data ipv6 direction origins with layerEq
  have action : (ipPacketLayer environment (some present) data ipv6 direction origins
      (nbl :: rest)).1.classifyOut.actionType =
        (layer.step last.1 last.2).2.data.classifyOut.actionType := by
    rw [final, actionType_drop, run_eq_of_visits visitedRun]
  have outcome := layer.outcome_step last.1 last.2
  constructor
  · rintro closed ⟨otherBefore, otherLast, otherVisited, releases⟩
    obtain ⟨rfl, sameLast⟩ := List.append_inj' (visited.symm.trans otherVisited) rfl
    obtain rfl : last = otherLast := by simpa using sameLast
    rcases releases with ⟨permits, visit, member, denied⟩ | ⟨stops, earlier, previous, rfl, permits⟩
    · -- A later permit releases the refused NBL.
      have permitted : (layer.step last.1 last.2).2.data.classifyOut.actionType = .permit := by
        rw [(outcome.permitted permits).1]
        rfl
      have own := closed.decisions (action.trans permitted) visit
        (visited ▸ List.mem_append_left _ member)
      exact denied ((layer.ownAction_permit_iff visit).mp own)
    · -- The failed NBL is released by the permit before it.
      rw [List.append_assoc, List.singleton_append] at visitedRun
      have chained := visits_chain visitedRun
      have previousOutcome := layer.outcome_step previous.1 previous.2
      rw [chained] at previousOutcome
      have permitted : (layer.step last.1 last.2).2.data.classifyOut.actionType = .permit := by
        rw [(outcome.stopped stops).2, (previousOutcome.permitted permits).1]
        rfl
      have own := closed.decisions (action.trans permitted) last
        (visited ▸ List.mem_append_right _ List.mem_cons_self)
      exact layer.not_permits_of_stops stops ((layer.ownAction_permit_iff last).mp own)
  · intro safe
    have allPermit (permitted : (ipPacketLayer environment (some present) data ipv6 direction
        origins (nbl :: rest)).1.classifyOut.actionType = .permit) :
        ∀ visit ∈ before ++ [last], layer.Permits visit.1 visit.2 := by
      rw [final, actionType_drop] at permitted
      rcases permitted_run present visitedRun permitted with permits | failed
      · intro visit member
        by_contra denied
        rcases List.mem_append.mp member with earlier | isLast
        · exact safe ⟨before, last, visited, .inl ⟨permits, visit, earlier, denied⟩⟩
        · exact denied (List.mem_singleton.mp isLast ▸ permits)
      · exact absurd ⟨before, last, visited, .inr failed⟩ safe
    refine ⟨?_, ?_⟩
    · intro permitted visit member
      exact (layer.ownAction_permit_iff visit).mpr (allPermit permitted visit (visited ▸ member))
    · intro permitted
      have kept := fun visit member => (layer.outcome_step _ _).permitted
        (allPermit permitted visit (visitedRun ▸ member))
      rw [final]
      refine ⟨?_, congrArg some ?_⟩
      · exact run_frame PacketLayerState.effects fun visit member => (kept visit member).2.1
      · exact run_frame (fun state => state.device.packetCache) fun visit member =>
          (kept visit member).2.2

end Chains

/-- A UDP datagram from a port of 10.0.0.1 to 1.1.1.1:443. -/
def datagram (port : UInt8) : Bytes :=
  [0x45, 0, 0, 28, 0, 0, 0, 0, 64, 17, 0, 0, 10, 0, 0, 1, 1, 1, 1, 1] ++
    [0xc3, port, 1, 0xbb, 0, 8, 0, 0]

def datagramKey (port : UInt16) : Key where
  protocol := .udp
  localAddress := .ipv4 (Ipv4Address.new 10 0 0 1)
  localPort := port
  remoteAddress := .ipv4 (Ipv4Address.new 1 1 1 1)
  remotePort := 443

def outboundNbl (packet : Bytes) : IndicatedNbl Bytes where
  current := {
    reader := packet
    netBuffers := [{ data := packet, copied := .ok () }] }
  retreat _ := .error "no header in front of the data"
  retryRetreat _ := .error "no header in front of the data"
  now := 5
  instanceId := 9

def outboundIndication : CalloutData where
  classifyOut := { actionType := .continueAction, actionWrite := true, absorb := false }
  provisionalBlock := false
  ipHeaderSize := none
  compartmentId := none
  interfaceIndex := 1
  subInterfaceIndex := 0
  flags := 0

def applicationOrigins : InjectionOrigins where
  network := .notInjected
  transport := .notInjected

/-- A device with one connection for each verdict, in the order of the local ports. -/
def deviceWithVerdicts (verdicts : List Verdict) : Device :=
  { Device.new with
    connectionCache := verdicts.zipIdx.foldl (fun cache (verdict, index) =>
      let key := datagramKey (0xc350 + UInt16.ofNat index)
      let (_, cache) := cache.registerUntrackedConnection 1 (index + 1) key 700 .outbound
      (cache.updateConnectionInstance false 2 key (index + 1) verdict).2) ConnectionCache.new }

/-- A permanently blocked datagram is released because the datagram behind it is accepted. -/
theorem blockedDatagram_released :
    ¬ FailsClosed scenarioEnvironment
      (some (deviceWithVerdicts [.permanentBlock, .permanentAccept])) outboundIndication false
      .outbound applicationOrigins
      [outboundNbl (datagram 0x50), outboundNbl (datagram 0x51)] := by
  intro closed
  have permitted : (ipPacketLayer scenarioEnvironment
      (some (deviceWithVerdicts [.permanentBlock, .permanentAccept])) outboundIndication false
      .outbound applicationOrigins [outboundNbl (datagram 0x50),
        outboundNbl (datagram 0x51)]).1.classifyOut.actionType = .permit := by rfl
  have own := closed.decisions permitted (PacketLayerState.initial outboundIndication
    (deviceWithVerdicts [.permanentBlock, .permanentAccept]), outboundNbl (datagram 0x50))
    List.mem_cons_self
  have blocked : (indicationLayer scenarioEnvironment outboundIndication false .outbound
      applicationOrigins).ownAction (PacketLayerState.initial outboundIndication
      (deviceWithVerdicts [.permanentBlock, .permanentAccept]),
      outboundNbl (datagram 0x50)) = .block := by rfl
  rw [blocked] at own
  cases own

section OnePacket

variable (environment : Environment) (cache : ConnectionCache) (now : Nat) (ipv6 : Bool)
  (direction : Direction) (origins : InjectionOrigins)

def matchedConnection (key : Key) : Option ConnectionInfo :=
  if key.protocol == .tcp || key.protocol == .udp then
    (getConnectionInfo environment.ignoreSpecialPorts cache now key ipv6 direction
      (!(origins.network.isInjectedByOther || origins.transport.isInjectedByOther))).1
  else none

inductive PermittedKey (key : Key) (reset : Bool) : Prop where
  | fastTrack (addresses : key.localAddress = key.remoteAddress)
      (port : key.localPort = 53 ∨ key.localPort = 717 ∨ key.localPort = 719)
      (enabled : environment.ignoreSpecialPorts = false)
  | reset (tcp : key.protocol = .tcp) (flag : reset = true)
      (plain : ∀ info, matchedConnection environment cache now ipv6 direction origins key =
        some info → info.verdict.isRedirect = false)
  | permanentAccept (info : ConnectionInfo)
      (found : matchedConnection environment cache now ipv6 direction origins key = some info)
      (verdict : info.verdict = .permanentAccept)
  | awaitsAuthorization (info : ConnectionInfo)
      (found : matchedConnection environment cache now ipv6 direction origins key = some info)
      (inbound : info.direction = .inbound) (verdict : info.verdict = .undecided)
      (process : info.processId = 0 ∨ info.processId = 4)
  | unmatched (inbound : direction = .inbound)
      (transport : key.protocol = .tcp ∨ key.protocol = .udp)
      (missed : matchedConnection environment cache now ipv6 direction origins key = none)
      (fallback : inboundUdpFallbackPid key.protocol environment.inboundUdpPidFallbackEnabled
        (fun _ => cache.findActiveUdpPid key) = none)

theorem fastTrackPmPackets_iff (ignoreSpecialPorts : Bool) (key : Key) :
    fastTrackPmPackets ignoreSpecialPorts key = true ↔
      key.localAddress = key.remoteAddress ∧
        (key.localPort = 53 ∨ key.localPort = 717 ∨ key.localPort = 719) ∧
        ignoreSpecialPorts = false := by
  simp [fastTrackPmPackets, isRedirectPort, pmDnsPort, pmSpnPort, pmSplitTunPort, or_assoc]

variable {environment cache now ipv6 direction origins}

theorem matchedConnection_of_transport {data : CalloutData} {key : Key}
    (transport : key.protocol = .tcp ∨ key.protocol = .udp) :
    matchedConnection environment cache now ipv6 direction origins key =
      (indicationLayer environment data ipv6 direction origins).matched cache now key := by
  unfold matchedConnection
  rw [if_pos (by simpa using transport)]
  rfl

theorem transport_of_matchedConnection {key : Key} {info : ConnectionInfo}
    (found : matchedConnection environment cache now ipv6 direction origins key = some info) :
    key.protocol = .tcp ∨ key.protocol = .udp := by
  unfold matchedConnection at found
  split at found
  · rename_i transport
    simpa using transport
  · cases found

theorem permitsKey_iff (data : CalloutData) (key : Key) (reset : Bool) :
    (indicationLayer environment data ipv6 direction origins).PermitsKey cache now key reset ↔
      PermittedKey environment cache now ipv6 direction origins key reset := by
  constructor
  · rintro (fast | ⟨transport, rule⟩)
    · obtain ⟨addresses, port, enabled⟩ := (fastTrackPmPackets_iff _ key).mp fast
      exact .fastTrack addresses port enabled
    · rw [← matchedConnection_of_transport transport] at rule
      rcases rule with ⟨tcp, flag, plain⟩ | ⟨info, found, accepted | awaits⟩ |
        ⟨missed, inbound, fallback⟩
      · exact .reset tcp flag plain
      · exact .permanentAccept info found accepted
      · exact .awaitsAuthorization info found awaits.1 awaits.2.1 awaits.2.2
      · exact .unmatched inbound transport missed fallback
  · intro permitted
    cases permitted with
    | fastTrack addresses port enabled =>
        exact .inl ((fastTrackPmPackets_iff _ key).mpr ⟨addresses, port, enabled⟩)
    | reset tcp flag plain =>
        refine .inr ⟨.inl tcp, .inl ⟨tcp, flag, ?_⟩⟩
        rw [← matchedConnection_of_transport (.inl tcp)]
        exact plain
    | permanentAccept info found verdict =>
        have transport := transport_of_matchedConnection found
        rw [matchedConnection_of_transport transport] at found
        exact .inr ⟨transport, .inr (.inl ⟨info, found, .inl verdict⟩)⟩
    | awaitsAuthorization info found inbound verdict process =>
        have transport := transport_of_matchedConnection found
        rw [matchedConnection_of_transport transport] at found
        exact .inr ⟨transport, .inr (.inl ⟨info, found, .inr ⟨inbound, verdict, process⟩⟩)⟩
    | unmatched inbound transport missed fallback =>
        rw [matchedConnection_of_transport transport] at missed
        exact .inr ⟨transport, .inr (.inr ⟨missed, inbound, fallback⟩)⟩

end OnePacket

section Readable

variable {S : Type} [PacketData S] {source : S} {packet : Bytes}

theorem keyOf_fragment_iff (packet : Bytes) (ipv6 : Bool) (direction : Direction) :
    keyOf packet ipv6 direction (fullHeader packet ipv6 true) = .error .fragmentRequiresReassembly ↔
      (fullHeader packet ipv6 true).isFragment = true := by
  rw [← fullHeader_fragment]
  unfold keyOf
  cases (fullHeader packet ipv6 true).error with
  | some error => simp
  | none =>
      refine iff_of_false ?_ (by simp)
      generalize (if ipv6 = true then ipv6BaseLen else ipv4BaseLen + 4) = needed
      dsimp only
      split
      · intro same
        cases same
      · intro same
        cases same

/-- The probe of a readable packet. A retry finds nothing new. -/
theorem readKey_of_serves (serves : Serves source packet) (ipv6 : Bool) (direction : Direction)
    (permitFragments : Bool) :
    (PacketLayer.readKey permitFragments
        (PacketInspector.new source ipv6 direction permitFragments) = none ↔
      permitFragments = true ∧ (fullHeader packet ipv6 true).isFragment = true) ∧
    ∀ key inspector, PacketLayer.readKey permitFragments
        (PacketInspector.new source ipv6 direction permitFragments) = some (.ok key, inspector) ↔
      keyOf packet ipv6 direction (fullHeader packet ipv6 permitFragments) = .ok key ∧
        inspector = { PacketInspector.new source ipv6 direction permitFragments with
          header := some (fullHeader packet ipv6 permitFragments) } := by
  have fragment := keyOf_fragment_iff packet ipv6 direction
  have read := (inspects_new serves ipv6 direction permitFragments).key
  change _ = (keyOf packet ipv6 direction (fullHeader packet ipv6 permitFragments), _) at read
  unfold PacketLayer.readKey
  rw [read]
  cases parsed : keyOf packet ipv6 direction (fullHeader packet ipv6 permitFragments) with
  | ok key =>
      simp only [reduceCtorEq, false_iff, not_and, Option.some.injEq, Prod.mk.injEq,
        Except.ok.injEq]
      refine ⟨?_, fun other inspector => ⟨fun same => ⟨same.1, same.2.symm⟩,
        fun same => ⟨same.1, same.2.symm⟩⟩⟩
      rintro rfl isFragment
      rw [fragment.mpr isFragment] at parsed
      cases parsed
  | error error =>
      cases permitFragments with
      | false => simp
      | true =>
          simp only [↓reduceIte, true_and, reduceCtorEq, false_and, iff_false]
          by_cases isFragment : error = .fragmentRequiresReassembly
          · rw [isFragment] at parsed
            simp [isFragment, fragment.mp parsed]
          · have whole : (fullHeader packet ipv6 true).isFragment = false := by
              by_contra found
              rw [fragment.mpr (by simpa using found)] at parsed
              cases parsed
              exact isFragment rfl
            have again := (inspects_new serves ipv6 direction false).key
            change _ = (keyOf packet ipv6 direction (fullHeader packet ipv6 false), _) at again
            rw [fullHeader_of_unfragmented whole, parsed] at again
            rw [if_neg (by simpa using isFragment), whole]
            refine ⟨by simp, ?_⟩
            intro key inspector retried
            rw [Option.some.injEq] at retried
            have same := again.symm.trans retried
            cases same

/-- An indication with one readable NBL is permitted exactly in the listed cases. -/
theorem packet_permitted_iff (environment : Environment) (device : Device) (data : CalloutData)
    (ipv6 : Bool) (direction : Direction) (origins : InjectionOrigins) (nbl : IndicatedNbl S)
    (view : NblView S) (positioned : (indicationLayer environment data ipv6 direction
      origins).viewFromIpHeader (!data.isReassembled) nbl = .ok view)
    (readable : Serves view.reader packet) :
    (ipPacketLayer environment (some device) data ipv6 direction origins
        [nbl]).1.classifyOut.actionType = .permit ↔
      origins.selfInjected = true ∨
      (data.isReassembled = false ∧
        (PacketInspector.new packet ipv6 direction true).isFragment.1 = true) ∨
      ∃ key, (PacketInspector.new packet ipv6 direction (!data.isReassembled)).key.1 = .ok key ∧
        PermittedKey environment device.connectionCache nbl.now ipv6 direction origins key
          (PacketInspector.new packet ipv6 direction (!data.isReassembled)).isTcpReset.1 := by
  cases own : origins.selfInjected with
  | true =>
      rw [ipPacketLayer_of_selfInjected environment device data ipv6 direction own]
      simp only [true_or, iff_true]
      rfl
  | false =>
      rw [ipPacketLayer_of_foreign environment device data ipv6 direction own, actionType_drop]
      have bytes := fun permitFragments =>
        inspects_new (serves_bytes packet) ipv6 direction permitFragments
      have served := inspects_new readable ipv6 direction (!data.isReassembled)
      rw [(bytes true).isFragment, (bytes _).key, (bytes _).isTcpReset.1]
      set layer := indicationLayer environment data ipv6 direction origins with layerEq
      have outcome := layer.outcome_step (PacketLayerState.initial data device) nbl
      have action : (run layer.step (PacketLayerState.initial data device)
          [nbl]).data.classifyOut.actionType = .permit ↔
            layer.Permits (PacketLayerState.initial data device) nbl := by
        rw [← layer.ownAction_permit_iff (PacketLayerState.initial data device, nbl)]
        rw [run_cons]
        simp only [run_nil, ite_self]
        rfl
      rw [action]
      obtain ⟨fragment, parsed⟩ := readKey_of_serves readable ipv6 direction (!data.isReassembled)
      have flag (inspector : PacketInspector S) (cached : inspector =
          { PacketInspector.new view.reader ipv6 direction (!data.isReassembled) with
            header := some (fullHeader packet ipv6 (!data.isReassembled)) }) :
          inspector.isTcpReset.1 =
            resetOf packet (fullHeader packet ipv6 (!data.isReassembled)) := by
        rw [cached]
        exact served.cached.isTcpReset.1
      constructor
      · rintro ⟨other, sameView, rule⟩
        obtain rfl : other = view := Except.ok.inj (sameView.symm.trans positioned)
        refine .inr ?_
        rcases rule with isFragment | ⟨key, inspector, read, permits⟩
        · left
          obtain ⟨first, found⟩ := fragment.mp isFragment
          exact ⟨by simpa using first, found⟩
        · right
          obtain ⟨sameKey, cached⟩ := (parsed key inspector).mp read
          rw [flag inspector cached] at permits
          exact ⟨key, sameKey, (permitsKey_iff data key _).mp permits⟩
      · rintro (impossible | isFragment | ⟨key, sameKey, permitted⟩)
        · cases impossible
        · exact ⟨view, positioned, .inl (fragment.mpr ⟨by simpa using isFragment.1,
            isFragment.2⟩)⟩
        · refine ⟨view, positioned, .inr ⟨key, _, (parsed key _).mpr ⟨sameKey, rfl⟩, ?_⟩⟩
          rw [flag _ rfl]
          exact (permitsKey_iff data key _).mpr permitted

end Readable

/-- A datagram of a permanently accepted connection is permitted. -/
theorem packet_permitted_iff_acceptedDatagram :
    (ipPacketLayer scenarioEnvironment (some (deviceWithVerdicts [.permanentAccept]))
      outboundIndication false .outbound applicationOrigins
      [outboundNbl (datagram 0x50)]).1.classifyOut.actionType = .permit := by
  refine (packet_permitted_iff scenarioEnvironment (deviceWithVerdicts [.permanentAccept])
    outboundIndication false .outbound applicationOrigins (outboundNbl (datagram 0x50))
    (outboundNbl (datagram 0x50)).current rfl (serves_bytes (datagram 0x50))).mpr ?_
  refine .inr (.inr ⟨datagramKey 0xc350, rfl, ?_⟩)
  exact .permanentAccept _ rfl rfl

end WindowsKext
