import WindowsKext.AlePolicyCore
import WindowsKext.VerdictRuns

/-! Redirect verdicts on packets saved at an ALE layer. Such a packet is injected as it was
saved, and the packet layers then take it for the driver's own. -/

namespace WindowsKext

/-- How the packet layers see injected packets later. A packet injected above them has no such
view. WFP reports the handle that injected a packet as its own. -/
def ReportsOwnInjections (seen : Effect → Option InjectionOrigins) : Prop :=
  (∀ nbl injectInfo origins, seen (.injectNetwork nbl injectInfo) = some origins →
    origins.network = .injectedBySelf) ∧
  ∀ packetList origins, seen (.injectTransport packetList) = some origins →
    origins.transport = .injectedBySelf

def Wfp.accepts (wfp : Wfp) : Effect → Bool
  | .injectNetwork nbl injectInfo => (wfp.injectNetwork nbl injectInfo).isOk
  | .injectTransport packetList => (wfp.injectTransport packetList).isOk
  | _ => false

/-- The saved packet is injected with the bytes and the destination it was saved with. -/
def Effect.InjectsSaved (packetList : TransportPacketList) : Effect → Prop
  | .injectNetwork nbl _ => nbl = packetList.netBufferList
  | .injectTransport injected => injected = packetList
  | _ => False

/-- Every packet that the injector takes is rewritten first, or seen by the packet layer as not
self-injected, which then applies the cached redirect. -/
def RedirectEnforced (wfp : Wfp) (seen : Effect → Option InjectionOrigins) (defer : ClassifyDefer)
    (effects : List Effect) : Prop :=
  ∀ effect ∈ effects, wfp.accepts effect = true →
    ∀ packetList, defer.packetList = some packetList → effect.InjectsSaved packetList →
      ∃ origins, seen effect = some origins ∧ origins.action ≠ .permitSelfInjected

/-- The request has a saved packet and a live connection, and no WFP call on the way fails. -/
def ReleasesSaved (environment : Environment) (cache : ConnectionCache) (pending : PendingPacket)
    (defer : ClassifyDefer) : Prop :=
  ∃ packetList instanceId, defer.packetList = some packetList ∧
    pending.connectionInstanceId = some instanceId ∧
    CacheAddresses environment.ignoreSpecialPorts pending.key instanceId cache ∧
    (defer.kind = .reauthorization → (resetFiltersForDefer environment.wfp).isOk = true) ∧
    (injectAlePacket environment.wfp packetList).1.isOk = true

section Injection

variable {wfp : Wfp} {seen : Effect → Option InjectionOrigins}

theorem not_enforced_of_injectsSaved (reports : ReportsOwnInjections seen) {effect : Effect}
    {packetList : TransportPacketList} (saved : effect.InjectsSaved packetList) :
    ¬ ∃ origins, seen effect = some origins ∧ origins.action ≠ .permitSelfInjected := by
  rintro ⟨origins, view, foreign⟩
  refine foreign ?_
  rw [origins.action_eq]
  cases effect with
  | resetFilters => exact saved.elim
  | pendOperation context => exact saved.elim
  | completeOperation context packet => exact saved.elim
  | injectNetwork nbl injectInfo =>
      simp [InjectionOrigins.selfInjected, PacketInjectionOrigin.isSelfInjected,
        reports.1 nbl injectInfo origins view]
  | injectTransport injected =>
      simp [InjectionOrigins.selfInjected, PacketInjectionOrigin.isSelfInjected,
        reports.2 injected origins view]
  | pendClassify classify => exact saved.elim
  | completeClassify classify => exact saved.elim

theorem injectAlePacket_effect (wfp : Wfp) (packetList : TransportPacketList) :
    ∃ effect : Effect, (injectAlePacket wfp packetList).2 = [effect] ∧
      effect.InjectsSaved packetList ∧
      wfp.accepts effect = (injectAlePacket wfp packetList).1.isOk := by
  unfold injectAlePacket
  split
  · exact ⟨_, rfl, rfl, rfl⟩
  · exact ⟨_, rfl, rfl, rfl⟩

theorem complete_not_accepted (defer : ClassifyDefer) (inject : Bool) :
    ∀ effect ∈ defer.complete inject, wfp.accepts effect = false := by
  intro effect member
  unfold ClassifyDefer.complete at member
  split at member
  · rw [List.mem_singleton] at member
    subst member
    rfl
  · cases member

theorem injectVerdictPacket_blocked (defer : ClassifyDefer) :
    ∀ effect ∈ (injectVerdictPacket wfp (.aleLayer defer) true).2, wfp.accepts effect = false := by
  intro effect member
  unfold injectVerdictPacket at member
  split at member
  · split at member
    · rw [List.mem_singleton] at member
      subst member
      rfl
    · rcases List.mem_cons.mp member with rfl | inPacket
      · rfl
      · exact complete_not_accepted defer _ effect inPacket
  · exact complete_not_accepted defer _ effect member

theorem enforced_of_not_accepted {defer : ClassifyDefer} {effects : List Effect}
    (rejected : ∀ effect ∈ effects, wfp.accepts effect = false) :
    RedirectEnforced wfp seen defer effects := by
  intro effect member accepted
  rw [rejected effect member] at accepted
  cases accepted

/-- An unblocked ALE packet is enforced only when there is no packet, or a call fails. -/
theorem injectVerdictPacket_enforced_iff (reports : ReportsOwnInjections seen)
    (defer : ClassifyDefer) :
    RedirectEnforced wfp seen defer (injectVerdictPacket wfp (.aleLayer defer) false).2 ↔
      ¬ ∃ packetList, defer.packetList = some packetList ∧
        (defer.kind = .reauthorization → (resetFiltersForDefer wfp).isOk = true) ∧
        (injectAlePacket wfp packetList).1.isOk = true := by
  have injected : RedirectEnforced wfp seen defer (injectPacket wfp (.aleLayer defer) false).2 ↔
      ¬ ∃ packetList, defer.packetList = some packetList ∧
        (injectAlePacket wfp packetList).1.isOk = true := by
    cases saved : defer.packetList with
    | none =>
        refine iff_of_true (enforced_of_not_accepted ?_) (by simp)
        simp only [injectPacket, saved, Bool.not_false, ↓reduceIte]
        exact complete_not_accepted defer true
    | some packetList =>
        obtain ⟨effect, effects, unchanged, accepts⟩ := injectAlePacket_effect wfp packetList
        have all : (injectPacket wfp (.aleLayer defer) false).2 =
            defer.complete true ++ [effect] := by
          simp only [injectPacket, saved, Bool.not_false, ↓reduceIte, effects]
        rw [all]
        constructor
        · rintro enforced ⟨same, ⟨⟩, ok⟩
          exact not_enforced_of_injectsSaved reports unchanged
            (enforced effect (by simp) (accepts.trans ok) packetList saved unchanged)
        · intro fails
          refine enforced_of_not_accepted ?_
          intro other member
          rcases List.mem_append.mp member with completion | last
          · exact complete_not_accepted defer true other completion
          · rw [List.mem_singleton.mp last, accepts]
            simpa using fails
  unfold injectVerdictPacket
  by_cases reauthorizes : defer.kind = .reauthorization
  · simp only [Packet.requiresReauthorization, reauthorizes, beq_self_eq_true, ↓reduceIte,
      forall_const]
    cases reset : resetFiltersForDefer wfp with
    | error error =>
        refine iff_of_true (enforced_of_not_accepted ?_) (by simp [Except.isOk, Except.toBool])
        intro effect member
        rw [List.mem_singleton.mp member]
        rfl
    | ok done =>
        have prepended : RedirectEnforced wfp seen defer
            (.resetFilters :: (injectPacket wfp (.aleLayer defer) false).2) ↔
              RedirectEnforced wfp seen defer (injectPacket wfp (.aleLayer defer) false).2 := by
          unfold RedirectEnforced
          simp [Wfp.accepts]
        simp only [prepended, injected, Except.isOk, Except.toBool, true_and]
  · have initial : (Packet.aleLayer defer).requiresReauthorization = false := by
      simp [Packet.requiresReauthorization, reauthorizes]
    simp only [initial, Bool.false_eq_true, ↓reduceIte, injected, reauthorizes, false_implies,
      true_and]

end Injection

theorem verdictEffects_redirect (wfp : Wfp) (smoltcp : Smoltcp) {action : Verdict}
    (redirect : action.isRedirect = true) (redirectInfo : Option RedirectInfo)
    (defer : ClassifyDefer) :
    verdictEffects wfp smoltcp action redirectInfo (.aleLayer defer) =
      (injectVerdictPacket wfp (.aleLayer defer) redirectInfo.isNone).2 := by
  cases redirectInfo with
  | none => cases action <;> first | rfl | cases redirect
  | some info => cases action <;> first | rfl | cases redirect

/-- The packet of an initial outbound UDP authorization, as it was saved. -/
def savedDatagram : TransportPacketList where
  protocol := .udp
  ipv6 := false
  netBufferList := ⟨some [0xc3, 0x50, 0, 53, 0, 8, 0, 0]⟩
  eventDataOffset := 0
  remoteIp := .ipv4 (Ipv4Address.new 1 1 1 1)
  endpointHandle := 7
  inbound := false
  loopback := false
  compartmentId := some 1
  interfaceIndex := 1
  subInterfaceIndex := 0

/-- The authorization waits for its verdict, and the verdict redirects it. -/
def redirectedAuthorization (saved : Option TransportPacketList) :
    List (Environment × DeviceStep) :=
  [.mapV4 (.insertIfAbsentWith (resolverConnection 1) .unchanged),
    .publish resolverKey (.aleLayer ⟨.initial 0, saved⟩) (some 1) 8 0 .outbound true,
    .claim 1 8].map (scenarioEnvironment, ·)

/-- The views of a packet that was injected for sending: network injections are foreign to the
transport handle, and transport injections to the network handle. -/
def sendViews : Effect → Option InjectionOrigins
  | .injectNetwork _ _ => some ⟨.injectedBySelf, .injectedByOther⟩
  | .injectTransport packetList =>
      if packetList.inbound then none else some ⟨.injectedByOther, .injectedBySelf⟩
  | _ => none

theorem sendViews_reportsOwnInjections : ReportsOwnInjections sendViews := by
  constructor
  · rintro nbl injectInfo origins ⟨⟩
    rfl
  · intro packetList origins view
    simp only [sendViews] at view
    split at view
    · cases view
    · cases view
      rfl

end WindowsKext
