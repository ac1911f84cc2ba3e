import WindowsKext.IdCacheRuns
import WindowsKext.PacketCalloutsChecks
import WindowsKext.PacketUtilChecks

/-! Rewritten packets and the callers that inject them: redirected packets, and the clones that
wait for a verdict. -/

namespace WindowsKext

open ByteString ExitLoop

section Callers

variable (wfp : Wfp) (smoltcp : Smoltcp)

/-- The effects of a caller that injects a redirected packet exactly when the rewrite succeeded. -/
def injectRedirected (packet : Packet) (redirectInfo : RedirectInfo) : List Effect :=
  match packet.redirect smoltcp redirectInfo with
  | (.ok (), redirected) => (injectPacket wfp redirected false).2
  | (.error _, _) => []

theorem requiresReauthorization_redirect (packet : Packet) (redirectInfo : RedirectInfo) :
    (packet.redirect smoltcp redirectInfo).2.requiresReauthorization =
      packet.requiresReauthorization := by
  cases packet <;> rfl

theorem verdictEffects_redirectPacket {action : Verdict} (redirects : action.isRedirect = true)
    {packet : Packet} (network : packet.requiresReauthorization = false)
    (redirectInfo : RedirectInfo) :
    verdictEffects wfp smoltcp action (some redirectInfo) packet =
      injectRedirected wfp smoltcp packet redirectInfo := by
  have kept := requiresReauthorization_redirect smoltcp packet redirectInfo
  rw [network] at kept
  unfold verdictEffects injectRedirected
  rcases outcome : packet.redirect smoltcp redirectInfo with ⟨error | ⟨⟩, redirected⟩
  · cases action <;> simp_all [Verdict.isRedirect]
  · rw [outcome] at kept
    cases action <;> simp_all [Verdict.isRedirect, injectVerdictPacket]

theorem effects_redirectPacket (layer : PacketLayer) (state : PacketLayerState)
    (netBuffers : List NetBuffer) (key : Key) (redirectInfo : RedirectInfo) {packet : Packet}
    (cloned : clonePacket layer.environment.smoltcp netBuffers
      (state.packetInjectInfo layer.direction layer.ipv6 key.isLoopback).1
      .redirectWillRecalculate = .ok packet) :
    (layer.redirectPacket state netBuffers key redirectInfo).effects =
      state.effects ++ injectRedirected layer.environment.wfp layer.environment.smoltcp packet
        redirectInfo := by
  unfold PacketLayer.redirectPacket injectRedirected
  simp only [cloned]
  rcases outcome : packet.redirect layer.environment.smoltcp redirectInfo with
    ⟨error | ⟨⟩, redirected⟩
  · simp [PacketLayerState.packetInjectInfo]
  · simp [PacketLayerState.packetInjectInfo]

end Callers

/-- A successful redirect really redirected, for every IPv6 target and for exactly the well-formed
unfragmented IPv4 packets, and both callers inject exactly what was redirected with success. -/
theorem redirect_sound_iff (smoltcp : Smoltcp) (lengths : smoltcp.ChecksLengths)
    (fills : smoltcp.FillsChecksums) (packet : Bytes) :
    (∀ remoteAddress port unify,
      RedirectSound smoltcp packet (outboundSource packet remoteAddress unify)
          (outboundDestination packet remoteAddress unify) (.destination port)
          (redirectOutboundPacket smoltcp packet remoteAddress port unify) ↔
        ∀ address, remoteAddress = .ipv4 address → WellFormedIpv4 smoltcp packet) ∧
    (∀ localAddress remoteAddress port,
      RedirectSound smoltcp packet remoteAddress localAddress (.source port)
          (redirectInboundPacket smoltcp packet localAddress remoteAddress port) ↔
        ∀ first second, localAddress = .ipv4 first → remoteAddress = .ipv4 second →
          WellFormedIpv4 smoltcp packet) ∧
    (∀ wfp action redirectInfo queued, action.isRedirect = true →
      queued.requiresReauthorization = false →
      verdictEffects wfp smoltcp action (some redirectInfo) queued =
        injectRedirected wfp smoltcp queued redirectInfo) ∧
    ∀ (layer : PacketLayer) state netBuffers key redirectInfo clone,
      clonePacket layer.environment.smoltcp netBuffers
          (state.packetInjectInfo layer.direction layer.ipv6 key.isLoopback).1
          .redirectWillRecalculate = .ok clone →
      (layer.redirectPacket state netBuffers key redirectInfo).effects =
        state.effects ++ injectRedirected layer.environment.wfp layer.environment.smoltcp clone
          redirectInfo := by
  refine ⟨?_, ?_, ?_, ?_⟩
  · intro remoteAddress port unify
    exact redirectOutboundPacket_sound_iff lengths fills remoteAddress port unify
  · intro localAddress remoteAddress port
    exact redirectInboundPacket_sound_iff lengths fills localAddress remoteAddress port
  · intro wfp action redirectInfo queued redirects network
    exact verdictEffects_redirectPacket wfp smoltcp redirects network redirectInfo
  · intro layer state netBuffers key redirectInfo clone cloned
    exact effects_redirectPacket layer state netBuffers key redirectInfo cloned

/-- The first fragment of a larger DNS request from 10.0.0.1 to 1.1.1.1. -/
def fragmentedRequest : Bytes :=
  [0x45, 0, 0, 28, 0, 1, 0x20, 0, 64, 17, 0, 0, 10, 0, 0, 1, 1, 1, 1, 1] ++
    [0xc3, 0x50, 0, 53, 0, 8, 0, 0]

theorem fragmentedRequest_not_wellFormed (smoltcp : Smoltcp) :
    ¬ WellFormedIpv4 smoltcp fragmentedRequest := by
  intro wellFormed
  have last := wellFormed.unfragmented.last
  revert last
  decide

/-- Redirecting a fragment to 127.0.0.1 reports success. -/
theorem fragmentedRequest_redirected :
    ¬ RedirectSound Smoltcp.documented fragmentedRequest
        (outboundSource fragmentedRequest (.ipv4 (Ipv4Address.new 127 0 0 1)) false)
        (outboundDestination fragmentedRequest (.ipv4 (Ipv4Address.new 127 0 0 1)) false)
        (.destination 53)
        (redirectOutboundPacket Smoltcp.documented fragmentedRequest
          (.ipv4 (Ipv4Address.new 127 0 0 1)) 53 false) := by
  intro sound
  have wellFormed := (redirectOutboundPacket_sound_iff Smoltcp.documented_checksLengths
    Smoltcp.documented_fillsChecksums _ _ _).mp sound _ rfl
  exact fragmentedRequest_not_wellFormed Smoltcp.documented wellFormed

def wholeRequest : Bytes :=
  [0x45, 0, 0, 28, 0, 1, 0, 0, 64, 17, 0, 0, 10, 0, 0, 1, 1, 1, 1, 1] ++
    [0xc3, 0x50, 0, 53, 0, 8, 0, 0]

theorem redirect_sound_iff_wholeRequest :
    RedirectSound Smoltcp.documented wholeRequest
        (outboundSource wholeRequest (.ipv4 (Ipv4Address.new 127 0 0 1)) false)
        (outboundDestination wholeRequest (.ipv4 (Ipv4Address.new 127 0 0 1)) false)
        (.destination 53)
        (redirectOutboundPacket Smoltcp.documented wholeRequest
          (.ipv4 (Ipv4Address.new 127 0 0 1)) 53 false) := by
  refine ((redirect_sound_iff Smoltcp.documented Smoltcp.documented_checksLengths
    Smoltcp.documented_fillsChecksums wholeRequest).1 _ _ _).mpr ?_
  intro _ _
  exact {
    version := by decide
    unfragmented := {
      checked := by decide
      header := by decide
      last := by decide
      first := by decide
      transport := by decide } }

section PendingClones

/-- The request holds one packet of the NBL, with its checksums recalculated. -/
def Entry.RecalculatedFrom (smoltcp : Smoltcp) (ipv6 : Bool) (netBuffers : List NetBuffer)
    (entry : Entry) : Prop :=
  ∃ netBuffer ∈ netBuffers, ∃ injectInfo, entry.value.packet =
    .network { data := some (recalcHeaderChecksums smoltcp netBuffer.data ipv6).2 } injectInfo

theorem recalculateCloneChecksum_ok {smoltcp : Smoltcp} {ipv6 : Bool}
    {clone recalculated : NetBufferList}
    (done : recalculateCloneChecksum smoltcp ipv6 clone = .ok recalculated) :
    ∃ data, clone.data = some data ∧
      recalculated = { data := some (recalcHeaderChecksums smoltcp data ipv6).2 } := by
  unfold recalculateCloneChecksum at done
  cases stored : clone.data with
  | none => simp [stored] at done
  | some data =>
      simp only [stored] at done
      rcases outcome : recalcHeaderChecksums smoltcp data ipv6 with ⟨error | ⟨⟩, changed⟩
      · simp [outcome] at done
      · refine ⟨data, rfl, ?_⟩
        simpa [outcome] using done.symm

theorem clone_data {netBuffer : NetBuffer} {clone : NetBufferList}
    (cloned : netBuffer.clone = .ok clone) : clone.data = some netBuffer.data := by
  unfold NetBuffer.clone at cloned
  split at cloned
  · cases cloned
  · cases copied : netBuffer.copied with
    | error error => simp [copied, Except.map] at cloned
    | ok done =>
        simp only [copied, Except.map, Except.ok.injEq] at cloned
        rw [← cloned]

theorem mem_mapM_ok {α β : Type} {apply : α → Except String β} {inputs : List α}
    {outputs : List β} (done : inputs.mapM apply = .ok outputs) {output : β}
    (member : output ∈ outputs) : ∃ input ∈ inputs, apply input = .ok output := by
  induction inputs generalizing outputs with
  | nil =>
      cases done
      cases member
  | cons input rest ih =>
      rw [List.mapM_cons] at done
      cases first : apply input with
      | error error => simp [first, bind, Except.bind] at done
      | ok value =>
          cases others : rest.mapM apply with
          | error error => simp [first, others, bind, Except.bind] at done
          | ok values =>
              simp only [first, others, bind, Except.bind, pure, Except.pure,
                Except.ok.injEq] at done
              rw [← done, List.mem_cons] at member
              rcases member with rfl | later
              · exact ⟨input, List.mem_cons_self, first⟩
              · obtain ⟨source, inRest, applied⟩ := ih others later
                exact ⟨source, List.mem_cons_of_mem _ inRest, applied⟩

def NetBufferListClones.CopyOf (netBuffers : List NetBuffer) : NetBufferListClones → Prop
  | .single clone => ∃ netBuffer, netBuffers = [netBuffer] ∧ netBuffer.clone = .ok clone
  | .batch clones => netBuffers.mapM NetBuffer.clone = .ok clones

theorem clonePackets_ok {netBuffers : List NetBuffer} {clones : NetBufferListClones}
    (cloned : clonePackets netBuffers = .ok clones) : clones.CopyOf netBuffers := by
  unfold clonePackets at cloned
  split at cloned
  · cases cloned
  · rename_i netBuffer
    cases copied : netBuffer.clone with
    | error error => simp [copied, Except.map] at cloned
    | ok clone =>
        simp only [copied, Except.map, Except.ok.injEq] at cloned
        subst cloned
        exact ⟨netBuffer, rfl, copied⟩
  · cases copied : netBuffers.mapM NetBuffer.clone with
    | error error => simp [copied, Except.map] at cloned
    | ok copies =>
        simp only [copied, Except.map, Except.ok.injEq] at cloned
        subst cloned
        exact copied

theorem requests_clonePacket {smoltcp : Smoltcp} {netBuffers : List NetBuffer}
    {injectInfo : InjectInfo} {packet request : Packet}
    (cloned : clonePacket smoltcp netBuffers injectInfo .recalculate = .ok packet)
    (member : request ∈ packet.requests) :
    ∃ netBuffer ∈ netBuffers, request = .network
      { data := some (recalcHeaderChecksums smoltcp netBuffer.data injectInfo.ipv6).2 }
      injectInfo := by
  have recalculated : ∀ netBuffer ∈ netBuffers, ∀ clone result, netBuffer.clone = .ok clone →
      recalculateCloneChecksum smoltcp injectInfo.ipv6 clone = .ok result →
      ∃ netBuffer ∈ netBuffers, Packet.network result injectInfo = .network
        { data := some (recalcHeaderChecksums smoltcp netBuffer.data injectInfo.ipv6).2 }
        injectInfo := by
    intro netBuffer indicated clone result copied done
    obtain ⟨data, stored, rfl⟩ := recalculateCloneChecksum_ok done
    rw [clone_data copied, Option.some.injEq] at stored
    exact ⟨netBuffer, indicated, by rw [stored]⟩
  unfold clonePacket at cloned
  cases clones : clonePackets netBuffers with
  | error error => simp [clones] at cloned
  | ok copies =>
      have copied := clonePackets_ok clones
      cases copies with
      | single clone =>
          obtain ⟨netBuffer, rfl, copied⟩ := copied
          simp only [clones] at cloned
          cases done : recalculateCloneChecksum smoltcp injectInfo.ipv6 clone with
          | error error => simp [done, Except.map] at cloned
          | ok result =>
              simp only [done, Except.map, Except.ok.injEq] at cloned
              subst cloned
              rw [List.mem_singleton.mp member]
              exact recalculated netBuffer List.mem_cons_self clone result copied done
      | batch copies =>
          simp only [clones] at cloned
          cases done : copies.mapM (recalculateCloneChecksum smoltcp injectInfo.ipv6) with
          | error error => simp [done, Except.map] at cloned
          | ok results =>
              simp only [done, Except.map, Except.ok.injEq] at cloned
              subst cloned
              obtain ⟨result, inResults, rfl⟩ := List.mem_map.mp member
              obtain ⟨clone, inCopies, changed⟩ := mem_mapM_ok done inResults
              obtain ⟨netBuffer, indicated, single⟩ := mem_mapM_ok copied inCopies
              exact recalculated netBuffer indicated clone result single changed

/-- The requests that an iteration adds to the queue hold recalculated packets of its NBL. -/
def QueuesRecalculated (smoltcp : Smoltcp) (ipv6 : Bool) (netBuffers : List NetBuffer)
    (before after : IdCache) : Prop :=
  ∀ entry ∈ after.values, entry ∈ before.values ∨ entry.RecalculatedFrom smoltcp ipv6 netBuffers

theorem queuesRecalculated_of_eq {smoltcp : Smoltcp} {ipv6 : Bool} {netBuffers : List NetBuffer}
    {before after : IdCache} (same : after = before) :
    QueuesRecalculated smoltcp ipv6 netBuffers before after := by
  intro entry member
  rw [same] at member
  exact .inl member

theorem mem_values_publishPendingPacket {environment : Environment} {device : Device} {key : Key}
    {packet : Packet} {connectionInstanceId : Option Nat} {processId threadId : Nat}
    {direction : Direction} {aleLayer : Bool} {entry : Entry}
    (member : entry ∈ (device.publishPendingPacket environment key packet connectionInstanceId
      processId threadId direction aleLayer).2.2.packetCache.values) :
    entry ∈ device.packetCache.values ∨ entry.value.packet ∈ packet.requests := by
  unfold Device.publishPendingPacket at member
  cases connectionInstanceId with
  | none => exact mem_values_push member
  | some instanceId =>
      simp only at member
      cases live : device.connectionCache.liveConnectionInstanceMatching
          environment.ignoreSpecialPorts key instanceId with
      | none =>
          rw [live] at member
          exact .inl member
      | some threadId =>
          rw [live] at member
          exact mem_values_push member

namespace PacketLayer

variable {S : Type} [PacketData S] (layer : PacketLayer)

theorem queuesRecalculated_queuePacket (state : PacketLayerState) (netBuffers : List NetBuffer)
    (attribution : PacketAttribution) :
    QueuesRecalculated layer.environment.smoltcp layer.ipv6 netBuffers state.device.packetCache
      (layer.queuePacket state netBuffers attribution).2.device.packetCache := by
  unfold queuePacket
  simp only
  cases cloned : clonePacket layer.environment.smoltcp netBuffers
      (state.packetInjectInfo attribution.effectiveDirection layer.ipv6
        attribution.key.isLoopback).1 .recalculate with
  | error error => exact queuesRecalculated_of_eq rfl
  | ok packet =>
      intro entry member
      have published : entry ∈ state.device.packetCache.values ∨
          entry.value.packet ∈ packet.requests := by
        simp only at member
        split at member
        · rename_i device outcome
          have after := congrArg (fun result => result.2.2.packetCache.values) outcome
          exact mem_values_publishPendingPacket (after ▸ member)
        · rename_i device outcome
          have after := congrArg (fun result => result.2.2.packetCache.values) outcome
          exact mem_values_publishPendingPacket (after ▸ member)
      refine published.imp_right fun request => ?_
      obtain ⟨netBuffer, indicated, same⟩ := requests_clonePacket cloned request
      exact ⟨netBuffer, indicated, _, same⟩

theorem packetCache_redirectPacket (state : PacketLayerState) (netBuffers : List NetBuffer)
    (key : Key) (redirectInfo : RedirectInfo) :
    (layer.redirectPacket state netBuffers key redirectInfo).device.packetCache =
      state.device.packetCache := by
  unfold redirectPacket
  simp only
  split
  · rfl
  · split <;> rfl

theorem queuesRecalculated_enforceConnection (state : PacketLayerState)
    (netBuffers : List NetBuffer) (key : Key) (info : ConnectionInfo) :
    QueuesRecalculated layer.environment.smoltcp layer.ipv6 netBuffers state.device.packetCache
      (layer.enforceConnection state netBuffers key info).2.device.packetCache := by
  unfold enforceConnection
  split
  · exact queuesRecalculated_of_eq rfl
  · cases info.verdict with
    | undecided | accept | block | drop =>
        exact layer.queuesRecalculated_queuePacket state netBuffers _
    | permanentAccept | permanentBlock | undeterminable | permanentDrop | failed =>
        exact queuesRecalculated_of_eq rfl
    | redirectNameServer | redirectTunnel | redirectSplitTunnel =>
        refine queuesRecalculated_of_eq ?_
        simp only
        split
        · exact layer.packetCache_redirectPacket state netBuffers key _
        · rfl

theorem queuesRecalculated_registerUnmatched (state : PacketLayerState)
    (netBuffers : List NetBuffer) (key : Key) (now instanceId : Nat) :
    QueuesRecalculated layer.environment.smoltcp layer.ipv6 netBuffers state.device.packetCache
      (layer.registerUnmatched state netBuffers key now instanceId).2.device.packetCache := by
  unfold registerUnmatched
  simp only
  split
  · split
    · exact queuesRecalculated_of_eq rfl
    · split
      · exact queuesRecalculated_of_eq rfl
      · exact layer.queuesRecalculated_queuePacket (state.withConnectionCache _) netBuffers _
  · split
    · exact layer.queuesRecalculated_queuePacket
        { state with otherInjectorProcessId := _ } netBuffers _
    · split
      · exact queuesRecalculated_of_eq rfl
      · exact layer.queuesRecalculated_queuePacket (state.withConnectionCache _) netBuffers _

theorem queuesRecalculated_processKey (state : PacketLayerState) (nbl : IndicatedNbl S)
    (netBuffers : List NetBuffer) (inspector : PacketInspector S) (key : Key) :
    QueuesRecalculated layer.environment.smoltcp layer.ipv6 netBuffers state.device.packetCache
      (layer.processKey state nbl netBuffers inspector key).2.device.packetCache := by
  unfold processKey
  simp only
  split
  · exact queuesRecalculated_of_eq rfl
  · split
    · split
      · exact queuesRecalculated_of_eq rfl
      · split
        · exact layer.queuesRecalculated_enforceConnection (state.withConnectionCache _) netBuffers
            key _
        · exact layer.queuesRecalculated_registerUnmatched (state.withConnectionCache _) netBuffers
            key nbl.now nbl.instanceId
    · intro entry member
      have kept := layer.packetCache_attributePacket state.device nbl.now key
        (inspector.icmpMetadata key).1
      rw [← kept]
      exact layer.queuesRecalculated_queuePacket { state with device := _ } netBuffers _ entry
        member

theorem queuesRecalculated_step (state : PacketLayerState) (nbl : IndicatedNbl S) :
    ∀ entry ∈ (layer.step state nbl).2.device.packetCache.values,
      entry ∈ state.device.packetCache.values ∨
        ∃ view, layer.viewFromIpHeader (layer.permitFragments state) nbl = .ok view ∧
          entry.RecalculatedFrom layer.environment.smoltcp layer.ipv6 view.netBuffers := by
  intro entry member
  unfold step at member
  simp only at member
  split at member
  · exact .inl member
  · rename_i view found
    split at member
    · exact .inl member
    · exact .inl member
    · refine (layer.queuesRecalculated_processKey _ nbl view.netBuffers _ _ entry member).imp_right
        fun recalculated => ?_
      exact ⟨view, found, recalculated⟩

end PacketLayer

/-- A data offset at which the layer may read the NBL. -/
def IndicatedNbl.Shows {S : Type} (nbl : IndicatedNbl S) (view : NblView S) : Prop :=
  view = nbl.current ∨ ∃ size, nbl.retreat size = .ok view ∨ nbl.retryRetreat size = .ok view

theorem shows_viewFromIpHeader {S : Type} {layer : PacketLayer} {permitFragments : Bool}
    {nbl : IndicatedNbl S} {view : NblView S}
    (found : layer.viewFromIpHeader permitFragments nbl = .ok view) : nbl.Shows view := by
  unfold PacketLayer.viewFromIpHeader at found
  split at found
  · simp only at found
    split at found
    · rename_i retreated
      cases found
      exact .inr ⟨_, .inl retreated⟩
    · split at found
      · cases found
      · exact .inr ⟨_, .inr found⟩
  · cases found
    exact .inl rfl

theorem queuesRecalculated_ipPacketLayer {S : Type} [PacketData S] (environment : Environment)
    (device : Device) (data : CalloutData) (ipv6 : Bool) (direction : Direction)
    (origins : InjectionOrigins) (chain : List (IndicatedNbl S)) :
    ∀ after ∈ (ipPacketLayer environment (some device) data ipv6 direction origins chain).2.2,
      ∀ entry ∈ after.packetCache.values, entry ∈ device.packetCache.values ∨
        ∃ nbl ∈ chain, ∃ view, nbl.Shows view ∧
          entry.RecalculatedFrom environment.smoltcp ipv6 view.netBuffers := by
  intro after isDevice
  unfold ipPacketLayer at isDevice
  cases chain with
  | nil =>
      cases isDevice
      exact fun entry member => .inl member
  | cons first rest =>
      simp only at isDevice
      split at isDevice
      · cases isDevice
        exact fun entry member => .inl member
      · cases isDevice
        refine run_invariant (fun state : PacketLayerState =>
          ∀ entry ∈ state.device.packetCache.values, entry ∈ device.packetCache.values ∨
            ∃ nbl ∈ first :: rest, ∃ view, nbl.Shows view ∧
              entry.RecalculatedFrom environment.smoltcp ipv6 view.netBuffers)
          (fun entry member => .inl member) ?_
        intro state nbl indicated before entry member
        rcases PacketLayer.queuesRecalculated_step _ state nbl entry member with
          old | ⟨view, found, recalculated⟩
        · exact before entry old
        · exact .inr ⟨nbl, indicated, view, shows_viewFromIpHeader found, recalculated⟩

end PendingClones

/-- The recalculation stays within its frame exactly for the packets whose transport checksum it
can compute or that store it already, and every clone passes through it before it is queued. -/
theorem recalculation_framed_iff (smoltcp : Smoltcp) (lengths : smoltcp.ChecksLengths)
    (fills : smoltcp.FillsChecksums) :
    (∀ packet, RecalculationFramed smoltcp packet (recalcHeaderChecksums smoltcp packet false).2 ↔
      (smoltcp.ipv4NewChecked packet = true → RecalculationSafe smoltcp packet)) ∧
    ∀ (S : Type) [PacketData S] (environment : Environment) device data ipv6 direction origins
        (chain : List (IndicatedNbl S)), environment.smoltcp = smoltcp →
      ∀ after ∈ (ipPacketLayer environment (some device) data ipv6 direction origins chain).2.2,
        ∀ entry ∈ after.packetCache.values, entry ∈ device.packetCache.values ∨
          ∃ nbl ∈ chain, ∃ view, nbl.Shows view ∧
            entry.RecalculatedFrom smoltcp ipv6 view.netBuffers := by
  refine ⟨recalcHeaderChecksums_framed_iff lengths fills, ?_⟩
  rintro S reader environment device data ipv6 direction origins chain rfl
  exact queuesRecalculated_ipPacketLayer environment device data ipv6 direction origins chain

theorem recalculation_framed_iff_wholeRequest :
    RecalculationFramed Smoltcp.documented wholeRequest
      (recalcHeaderChecksums Smoltcp.documented wholeRequest false).2 := by
  refine ((recalculation_framed_iff Smoltcp.documented Smoltcp.documented_checksLengths
    Smoltcp.documented_fillsChecksums).1 wholeRequest).mpr fun _ => ⟨fun _ => .inl ?_, ?_⟩
  · decide
  · intro short
    exact absurd short (by decide)

/-- The bytes behind the header of a fragment are altered when they parse as a UDP header. -/
theorem fragmentedRequest_recalculated :
    ¬ RecalculationFramed Smoltcp.documented fragmentedRequest
      (recalcHeaderChecksums Smoltcp.documented fragmentedRequest false).2 := by
  intro framed
  have safe := (recalcHeaderChecksums_framed_iff Smoltcp.documented_checksLengths
    Smoltcp.documented_fillsChecksums fragmentedRequest).mp framed (by decide)
  rcases safe.complete (by decide) with whole | stored
  · revert whole
    decide
  · have unchanged := stored (by decide)
    revert unchanged
    decide

end WindowsKext
