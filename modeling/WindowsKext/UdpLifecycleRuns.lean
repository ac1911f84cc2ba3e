import WindowsKext.DeviceThreadsQueue
import WindowsKext.UdpLifecycleCore

/-! A pass that reconciles the UDP caches while other threads run. It reads the endpoint cache and
the flow cache before the connection maps, so an instance that it does not find live had already
been inserted when it looked, has ended, and stays so. -/

namespace WindowsKext

section Family

variable {A : Type} [AddressFamily A]

def RetiredIn (run : MapRun (ConnectionMap A)) (instanceId : Nat) : Prop :=
  ∀ entry ∈ run.state.entries, entry.instanceId = instanceId → entry.hasEnded = true

theorem Advanced.retired {before after : MapRun (ConnectionMap A)} {instanceId : Nat}
    (advanced : Advanced before after) (retired : RetiredIn before instanceId)
    (old : instanceId ∈ before.inserted ∨ instanceId ∉ after.inserted) :
    RetiredIn after instanceId := by
  intro entry member same
  rcases advanced.source entry member with ⟨earlier, stored, evolves⟩ | ⟨new, inserted⟩
  · have ended := retired earlier stored (evolves.instanceId.symm.trans same)
    rwa [evolves.frozen ended]
  · rw [same] at new inserted
    rcases old with known | never
    · exact absurd known new
    · exact absurd inserted never

theorem retiredIn_of_not_listed {run : MapRun (ConnectionMap A)} {instanceId : Nat}
    {earlier : List Nat}
    (udp : ∀ entry ∈ run.state.entries, entry.instanceId = instanceId → entry.protocol = .udp)
    (absent : instanceId ∉ run.state.appendLiveUdpInstanceIds earlier) :
    RetiredIn run instanceId := by
  intro entry member same
  by_contra live
  have listed : entry ∈ run.state.entries.filter fun connection =>
      connection.protocol == .udp && !connection.hasEnded := by
    simp [member, udp entry member same, Bool.eq_false_iff.mpr live]
  exact absent (List.mem_append_right _ (List.mem_map.mpr ⟨entry, listed, same⟩))

theorem live_of_listed {map : ConnectionMap A} {instanceId : Nat} {earlier : List Nat}
    (listed : instanceId ∈ map.appendLiveUdpInstanceIds earlier) :
    instanceId ∈ earlier ∨
      ∃ entry ∈ map.entries, entry.instanceId = instanceId ∧ entry.hasEnded = false := by
  rcases List.mem_append.mp listed with old | new
  · exact .inl old
  · obtain ⟨entry, selected, same⟩ := List.mem_map.mp new
    simp only [List.mem_filter, Bool.and_eq_true, Bool.not_eq_true'] at selected
    exact .inr ⟨entry, selected.1, same, selected.2.2⟩

end Family

namespace Generations

variable {before after : Generations} {connections : List EndedConnection} {instanceId : Nat}

section Step

variable (step : Step before connections after) (fresh : after.inserted.Nodup)
  (sound : Sound before) (known : instanceId ∈ before.inserted)

include step fresh sound known

theorem Step.retiredV4 (retired : RetiredIn before.v4 instanceId) :
    RetiredIn after.v4 instanceId := by
  have separate := (List.nodup_append.mp fresh).2.2
  cases step with
  | same => exact retired
  | v4 ignoreSpecialPorts op =>
      refine (advanced_stepWith sound.v4 ignoreSpecialPorts op.op op.clock
        (List.nodup_append.mp fresh).1).retired retired ?_
      rcases List.mem_append.mp known with inV4 | inV6
      · exact .inl inV4
      · exact .inr fun inserted => separate _ inserted _ inV6 rfl
  | v6 ignoreSpecialPorts op => exact retired

theorem Step.retiredV6 (retired : RetiredIn before.v6 instanceId) :
    RetiredIn after.v6 instanceId := by
  have separate := (List.nodup_append.mp fresh).2.2
  cases step with
  | same => exact retired
  | v4 ignoreSpecialPorts op => exact retired
  | v6 ignoreSpecialPorts op =>
      refine (advanced_stepWith sound.v6 ignoreSpecialPorts op.op op.clock
        (List.nodup_append.mp fresh).2.1).retired retired ?_
      rcases List.mem_append.mp known with inV4 | inV6
      · exact .inr fun inserted => separate _ inV4 _ inserted rfl
      · exact .inl inV6

end Step

theorem not_live_of_retired {generations : Generations}
    (v4 : RetiredIn generations.v4 instanceId) (v6 : RetiredIn generations.v6 instanceId) :
    ¬ generations.LiveInstance instanceId := by
  rintro (⟨entry, member, same, live⟩ | ⟨entry, member, same, live⟩)
  · rw [v4 entry member same] at live
    cases live
  · rw [v6 entry member same] at live
    cases live

end Generations

/-! The table of flow contexts. -/

namespace UdpFlowCache

variable {cache : UdpFlowCache} {flowContext : Nat} {registration : UdpFlowRegistration}

/-- A registration is stored under its own context, and neither id is zero. -/
structure Valid (flowContext : Nat) (registration : UdpFlowRegistration) : Prop where
  keyed : registration.flowContext = flowContext
  context : flowContext ≠ 0
  instanceId : registration.connectionInstanceId ≠ 0

theorem getElem?_setRegistration {other : Nat} :
    (cache.setRegistration flowContext registration).registrations[other]? =
      if flowContext = other then some registration else cache.registrations[other]? := by
  rw [setRegistration, Std.TreeMap.getElem?_insert]
  simp

theorem getElem?_erase_some {other : Nat}
    (present : (cache.registrations.erase flowContext)[other]? = some registration) :
    cache.registrations[other]? = some registration := by
  rw [Std.TreeMap.getElem?_erase] at present
  split at present
  · cases present
  · exact present

/-- The registrations that a call may leave at a context: the stored one with other flags, or the
one that the call registers. -/
theorem registration_step {op : FlowOp}
    (present : (cache.step op).2.registrations[flowContext]? = some registration) :
    (∃ earlier, cache.registrations[flowContext]? = some earlier ∧
        registration.flowContext = earlier.flowContext ∧
        registration.connectionInstanceId = earlier.connectionInstanceId) ∨
      ∃ given, op = .register flowContext given ∧ Valid flowContext registration ∧
        registration.connectionInstanceId = given.connectionInstanceId := by
  have kept (same : cache.registrations[flowContext]? = some registration) :
      ∃ earlier, cache.registrations[flowContext]? = some earlier ∧
        registration.flowContext = earlier.flowContext ∧
        registration.connectionInstanceId = earlier.connectionInstanceId :=
    ⟨registration, same, rfl, rfl⟩
  have set {context : Nat} {old new : UdpFlowRegistration}
      (stored : cache.registrations[context]? = some old)
      (found : (cache.setRegistration context new).registrations[flowContext]? =
        some registration)
      (flags : new.flowContext = old.flowContext ∧
        new.connectionInstanceId = old.connectionInstanceId) :
      ∃ earlier, cache.registrations[flowContext]? = some earlier ∧
        registration.flowContext = earlier.flowContext ∧
        registration.connectionInstanceId = earlier.connectionInstanceId := by
    rw [getElem?_setRegistration] at found
    split at found
    · rename_i same
      cases found
      exact ⟨old, same ▸ stored, flags⟩
    · exact kept found
  cases op with
  | register context given =>
      simp only [step, register] at present
      split at present
      · exact .inl (kept present)
      · rename_i nonzero
        split at present
        · exact .inl (kept present)
        · rw [Std.TreeMap.getElem?_insert] at present
          split at present
          · rename_i same
            cases present
            obtain rfl : context = flowContext := by simpa using same
            simp only [Bool.or_eq_true, beq_iff_eq, not_or] at nonzero
            exact .inr ⟨given, rfl, ⟨rfl, nonzero.1, nonzero.2⟩, rfl⟩
          · exact .inl (kept present)
  | markAssociated context connectionInstanceId =>
      simp only [step, markAssociated] at present
      split at present
      · exact .inl (kept present)
      · split at present
        · exact .inl (kept present)
        · rename_i old stored
          split at present
          · exact .inl (kept present)
          · exact .inl (set stored present ⟨rfl, rfl⟩)
  | cancelRegistration context connectionInstanceId =>
      simp only [step, cancelRegistration] at present
      split at present
      · exact .inl (kept present)
      · split at present
        · exact .inl (kept present)
        · split at present
          · exact .inl (kept present)
          · exact .inl (kept (getElem?_erase_some present))
  | beginCallback context layerId calloutId =>
      simp only [step, beginCallback] at present
      split at present
      · exact .inl (kept present)
      · split at present
        · exact .inl (kept present)
        · exact .inl (kept (getElem?_erase_some present))
  | finishCallback => exact .inl (kept present)
  | removalCandidates => exact .inl (kept present)
  | claimRemoval context connectionInstanceId =>
      simp only [step, claimRemoval] at present
      split at present
      · exact .inl (kept present)
      · split at present
        · exact .inl (kept present)
        · rename_i old stored
          split at present
          · exact .inl (kept present)
          · exact .inl (set stored present ⟨rfl, rfl⟩)
  | pendingRemovals =>
      simp only [step, pendingRemovals, Std.TreeMap.getElem?_map] at present
      obtain ⟨old, stored, rfl⟩ := Option.map_eq_some_iff.mp present
      refine .inl ⟨old, stored, ?_⟩
      split
      · exact ⟨rfl, rfl⟩
      · exact ⟨rfl, rfl⟩
  | retryRemoval context connectionInstanceId =>
      simp only [step, retryRemoval] at present
      split at present
      · exact .inl (kept present)
      · split at present
        · exact .inl (kept present)
        · rename_i old stored
          split at present
          · exact .inl (set stored present ⟨rfl, rfl⟩)
          · exact .inl (kept present)
  | startShutdown => exact .inl (kept present)

theorem mem_removalCandidates {candidate : Nat × Nat} :
    candidate ∈ cache.removalCandidates ↔
      ∃ (context : Nat) (registration : UdpFlowRegistration),
        cache.registrations[context]? = some registration ∧ registration.removable = true ∧
        (registration.flowContext, registration.connectionInstanceId) = candidate := by
  simp only [removalCandidates, values, List.mem_map, List.mem_filter, Prod.exists,
    Std.TreeMap.mem_toList_iff_getElem?_eq_some, exists_eq_right]
  constructor
  · rintro ⟨registration, ⟨⟨context, present⟩, removable⟩, same⟩
    exact ⟨context, registration, present, removable, same⟩
  · rintro ⟨context, registration, present, removable, same⟩
    exact ⟨registration, ⟨⟨context, present⟩, removable⟩, same⟩

theorem claimRemoval_cases (cache : UdpFlowCache) (flowContext connectionInstanceId : Nat) :
    (∃ registration, cache.registrations[flowContext]? = some registration ∧
        registration.connectionInstanceId = connectionInstanceId ∧
        cache.claimRemoval flowContext connectionInstanceId =
          (some { registration with removalRequested := true },
            cache.setRegistration flowContext { registration with removalRequested := true })) ∨
      cache.claimRemoval flowContext connectionInstanceId = (none, cache) ∧
        ∀ registration, cache.registrations[flowContext]? = some registration →
          Valid flowContext registration →
          registration.connectionInstanceId = connectionInstanceId →
          registration.removable = false := by
  unfold claimRemoval
  split
  · rename_i zero
    refine .inr ⟨rfl, fun registration present valid same => ?_⟩
    subst same
    simp [valid.context, valid.instanceId] at zero
  · split
    · rename_i absent
      refine .inr ⟨rfl, fun registration present => ?_⟩
      rw [absent] at present
      cases present
    · rename_i registration present
      split
      · rename_i refused
        refine .inr ⟨rfl, fun other stored valid same => ?_⟩
        rw [present] at stored
        cases stored
        simpa [same, UdpFlowRegistration.removable, or_iff_not_imp_left] using refused
      · rename_i accepted
        simp only [Bool.or_eq_true, bne_iff_ne, ne_eq, not_or, not_not] at accepted
        exact .inl ⟨registration, present, accepted.1.1, rfl⟩

theorem getElem?_cancelRegistration {context connectionInstanceId : Nat}
    (present : (cache.cancelRegistration context connectionInstanceId).2.registrations[flowContext]? =
      some registration) : cache.registrations[flowContext]? = some registration := by
  unfold cancelRegistration at present
  split at present
  · exact present
  · split at present
    · exact present
    · split at present
      · exact present
      · exact getElem?_erase_some present

theorem getElem?_beginCallback {context layerId calloutId : Nat}
    (present : (cache.beginCallback context layerId calloutId).2.registrations[flowContext]? =
      some registration) : cache.registrations[flowContext]? = some registration := by
  unfold beginCallback at present
  split at present
  · exact present
  · split at present
    · exact present
    · exact getElem?_erase_some present

theorem getElem?_retryRemoval {context connectionInstanceId : Nat}
    (present : (cache.retryRemoval context connectionInstanceId).registrations[flowContext]? =
      some registration) :
    cache.registrations[flowContext]? = some registration ∨
      flowContext = context ∧ registration.connectionInstanceId = connectionInstanceId ∧
        registration.removalRequested = false := by
  unfold retryRemoval at present
  split at present
  · exact .inl present
  · split at present
    · exact .inl present
    · split at present
      · rename_i current
        rw [getElem?_setRegistration] at present
        split at present
        · rename_i same
          cases present
          exact .inr ⟨same.symm, beq_iff_eq.mp current, rfl⟩
        · exact .inl present
      · exact .inl present

end UdpFlowCache

namespace CleanPhase

def instances : CleanPhase → List Nat
  | .idle => []
  | .endpointsRead _ endpointInstances => endpointInstances
  | .flowsRead _ endpointInstances flowCandidates
  | .v4Read _ endpointInstances flowCandidates _
  | .v6Read _ endpointInstances flowCandidates _ =>
      endpointInstances ++ flowCandidates.map Prod.snd
  | .claiming _ flowCandidates
  | .removing _ _ flowCandidates => flowCandidates.map Prod.snd

/-- The pass has read the IPv4 map and did not find the instance there. -/
def MissedV4 (instanceId : Nat) : CleanPhase → Prop
  | .v4Read _ _ _ liveInstances
  | .v6Read _ _ _ liveInstances
  | .claiming liveInstances _
  | .removing _ liveInstances _ => instanceId ∉ liveInstances
  | _ => False

def MissedV6 (instanceId : Nat) : CleanPhase → Prop
  | .v6Read _ _ _ liveInstances
  | .claiming liveInstances _
  | .removing _ liveInstances _ => instanceId ∉ liveInstances
  | _ => False

end CleanPhase

/-- Endpoints, flows and the running pass refer to UDP generations, and what the pass did not find
live is not live. -/
structure UdpSystem.Sound (system : UdpSystem) : Prop where
  generations : system.generations.Sound
  endpoints : ∀ instanceId ∈ system.endpoints.instanceIds,
    system.generations.OfProtocol instanceId .udp
  flows : ∀ flowContext registration,
    system.flows.registrations[flowContext]? = some registration →
      UdpFlowCache.Valid flowContext registration ∧
        system.generations.OfProtocol registration.connectionInstanceId .udp
  instances : ∀ instanceId ∈ system.phase.instances,
    system.generations.OfProtocol instanceId .udp
  missedV4 : ∀ instanceId ∈ system.phase.instances, system.phase.MissedV4 instanceId →
    RetiredIn system.generations.v4 instanceId
  missedV6 : ∀ instanceId ∈ system.phase.instances, system.phase.MissedV6 instanceId →
    RetiredIn system.generations.v6 instanceId

namespace UdpSystem

variable {system : UdpSystem}

theorem sound_new : UdpSystem.new.Sound where
  generations := ⟨follows_new, follows_new⟩
  endpoints := by simp [new, UdpEndpointCache.new, UdpEndpointCache.instanceIds,
    UdpEndpointCache.allPeers]
  flows := by simp [new, UdpFlowCache.new]
  instances := by simp [new, CleanPhase.instances]
  missedV4 := by simp [new, CleanPhase.instances]
  missedV6 := by simp [new, CleanPhase.instances]

theorem Sound.generations_step (sound : system.Sound) {after : Generations}
    {connections : List EndedConnection} (step : system.generations.Step connections after)
    (fresh : after.inserted.Nodup) : Sound { system with generations := after } where
  generations := step.sound fresh sound.generations
  endpoints instanceId member :=
    step.ofProtocol fresh sound.generations (sound.endpoints instanceId member)
  flows flowContext registration present := by
    obtain ⟨valid, known⟩ := sound.flows flowContext registration present
    exact ⟨valid, step.ofProtocol fresh sound.generations known⟩
  instances instanceId member :=
    step.ofProtocol fresh sound.generations (sound.instances instanceId member)
  missedV4 instanceId member missed :=
    step.retiredV4 fresh sound.generations (sound.instances instanceId member).inserted
      (sound.missedV4 instanceId member missed)
  missedV6 instanceId member missed :=
    step.retiredV6 fresh sound.generations (sound.instances instanceId member).inserted
      (sound.missedV6 instanceId member missed)

theorem Sound.endpoint_step (sound : system.Sound) (op : EndpointOp)
    (allowed : (UdpStep.endpoint op).Allowed system.generations) :
    ∀ instanceId ∈ (op.step system.endpoints).instanceIds,
      system.generations.OfProtocol instanceId .udp := by
  intro instanceId member
  rcases EndpointOp.mem_instanceIds_step member with old | new
  · exact sound.endpoints instanceId old
  · cases op with
    | associateInstanceAt endpointHandle key associated associatedAtMs =>
        cases new
        exact allowed
    | _ => cases new

theorem Sound.flow_step (sound : system.Sound) (op : FlowOp)
    (allowed : (UdpStep.flow op).Allowed system.generations) :
    ∀ flowContext registration,
      (system.flows.step op).2.registrations[flowContext]? = some registration →
        UdpFlowCache.Valid flowContext registration ∧
          system.generations.OfProtocol registration.connectionInstanceId .udp := by
  intro flowContext registration present
  rcases UdpFlowCache.registration_step present with ⟨earlier, stored, context, instanceId⟩ |
    ⟨given, rfl, valid, instanceId⟩
  · obtain ⟨valid, known⟩ := sound.flows flowContext earlier stored
    refine ⟨⟨context.trans valid.keyed, valid.context, ?_⟩, instanceId ▸ known⟩
    rw [instanceId]
    exact valid.instanceId
  · exact ⟨valid, instanceId ▸ allowed⟩

theorem Sound.not_live (sound : system.Sound) {instanceId : Nat}
    (member : instanceId ∈ system.phase.instances) (missedV4 : system.phase.MissedV4 instanceId)
    (missedV6 : system.phase.MissedV6 instanceId) :
    ¬ system.generations.LiveInstance instanceId :=
  Generations.not_live_of_retired (sound.missedV4 instanceId member missedV4)
    (sound.missedV6 instanceId member missedV6)

theorem Sound.advance (sound : system.Sound) {phase : CleanPhase} {endpoints : UdpEndpointCache}
    {flows : UdpFlowCache} {failed : List (Nat × Nat)}
    (endpointsKnown : ∀ instanceId ∈ endpoints.instanceIds,
      system.generations.OfProtocol instanceId .udp)
    (flowsKnown : ∀ flowContext registration,
      flows.registrations[flowContext]? = some registration →
        UdpFlowCache.Valid flowContext registration ∧
          system.generations.OfProtocol registration.connectionInstanceId .udp)
    (fewer : ∀ instanceId ∈ phase.instances, instanceId ∈ system.phase.instances)
    (missedV4 : ∀ instanceId, phase.MissedV4 instanceId → system.phase.MissedV4 instanceId)
    (missedV6 : ∀ instanceId, phase.MissedV6 instanceId → system.phase.MissedV6 instanceId) :
    Sound ⟨system.generations, endpoints, flows, phase, failed⟩ where
  generations := sound.generations
  endpoints := endpointsKnown
  flows := flowsKnown
  instances instanceId member := sound.instances instanceId (fewer instanceId member)
  missedV4 instanceId member missed :=
    sound.missedV4 instanceId (fewer instanceId member) (missedV4 instanceId missed)
  missedV6 instanceId member missed :=
    sound.missedV6 instanceId (fewer instanceId member) (missedV6 instanceId missed)

theorem Sound.claimNext (sound : system.Sound) {liveInstances : List Nat}
    {flowCandidates : List (Nat × Nat)}
    (phase : system.phase = .claiming liveInstances flowCandidates) :
    (system.claimNext liveInstances flowCandidates).Sound := by
  cases flowCandidates with
  | nil =>
      refine sound.advance sound.endpoints sound.flows ?_ ?_ ?_
      all_goals simp [CleanPhase.instances, CleanPhase.MissedV4, CleanPhase.MissedV6]
  | cons candidate rest =>
      obtain ⟨flowContext, connectionInstanceId⟩ := candidate
      have claimed := sound.flow_step (.claimRemoval flowContext connectionInstanceId) trivial
      simp only [UdpFlowCache.step] at claimed
      simp only [UdpSystem.claimNext]
      split
      · refine sound.advance sound.endpoints sound.flows ?_ ?_ ?_
        all_goals
          simp +contextual [phase, CleanPhase.instances, CleanPhase.MissedV4, CleanPhase.MissedV6]
      · split
        all_goals
          rename_i result
          rw [result] at claimed
          refine sound.advance sound.endpoints claimed ?_ ?_ ?_
          all_goals
            simp +contextual [phase, CleanPhase.instances, CleanPhase.MissedV4,
              CleanPhase.MissedV6]

theorem Sound.clean (sound : system.Sound) (answer : Except String RemoveContextResult) :
    (system.clean answer).Sound := by
  unfold UdpSystem.clean
  split
  · exact sound
  · rename_i now endpointInstances phase
    refine { sound with instances := ?_, missedV4 := ?_, missedV6 := ?_ }
    · intro instanceId member
      rcases List.mem_append.mp member with inEndpoints | inFlows
      · refine sound.instances instanceId ?_
        rwa [phase]
      · obtain ⟨candidate, listed, rfl⟩ := List.mem_map.mp inFlows
        obtain ⟨context, registration, present, -, rfl⟩ :=
          UdpFlowCache.mem_removalCandidates.mp listed
        exact (sound.flows context registration present).2
    · intro instanceId member missed
      exact missed.elim
    · intro instanceId member missed
      exact missed.elim
  · rename_i now endpointInstances flowCandidates phase
    have known : ∀ instanceId ∈ endpointInstances ++ flowCandidates.map Prod.snd,
        system.generations.OfProtocol instanceId .udp := by
      have instances := sound.instances
      rwa [phase] at instances
    refine { sound with instances := known, missedV4 := ?_, missedV6 := ?_ }
    · intro instanceId member missed
      exact retiredIn_of_not_listed (known instanceId member).v4 missed
    · intro instanceId member missed
      exact missed.elim
  · rename_i now endpointInstances flowCandidates liveInstances phase
    have known : ∀ instanceId ∈ endpointInstances ++ flowCandidates.map Prod.snd,
        system.generations.OfProtocol instanceId .udp := by
      have instances := sound.instances
      rwa [phase] at instances
    refine { sound with instances := known, missedV4 := ?_, missedV6 := ?_ }
    · intro instanceId member missed
      have missedV4 := sound.missedV4
      rw [phase] at missedV4
      exact missedV4 instanceId member fun listed => missed (List.mem_append_left _ listed)
    · intro instanceId member missed
      exact retiredIn_of_not_listed (known instanceId member).v6 missed
  · rename_i now endpointInstances flowCandidates liveInstances phase
    refine sound.advance ?_ sound.flows ?_ ?_ ?_
    · exact sound.endpoint_step (.removeInstances _ _) trivial
    all_goals
      simp +contextual [phase, CleanPhase.instances, CleanPhase.MissedV4, CleanPhase.MissedV6]
  · rename_i liveInstances flowCandidates phase
    exact sound.claimNext phase
  · rename_i registration liveInstances flowCandidates phase
    have cancelled := sound.flow_step (.cancelRegistration registration.flowContext
      registration.connectionInstanceId) trivial
    have retried := sound.flow_step (.retryRemoval registration.flowContext
      registration.connectionInstanceId) trivial
    unfold removeUdpFlowContext
    split
    · refine sound.advance sound.endpoints sound.flows ?_ ?_ ?_
      all_goals simp [phase, CleanPhase.instances, CleanPhase.MissedV4, CleanPhase.MissedV6]
    · refine sound.advance sound.endpoints sound.flows ?_ ?_ ?_
      all_goals simp [phase, CleanPhase.instances, CleanPhase.MissedV4, CleanPhase.MissedV6]
    · refine sound.advance sound.endpoints cancelled ?_ ?_ ?_
      all_goals simp [phase, CleanPhase.instances, CleanPhase.MissedV4, CleanPhase.MissedV6]
    · refine sound.advance sound.endpoints retried ?_ ?_ ?_
      all_goals simp [phase, CleanPhase.instances, CleanPhase.MissedV4, CleanPhase.MissedV6]

theorem Sound.startClean (sound : system.Sound) (now : Nat) : (system.startClean now).Sound := by
  unfold UdpSystem.startClean
  split
  · refine { sound with instances := sound.endpoints, missedV4 := ?_, missedV6 := ?_ }
    · intro instanceId member missed
      exact missed.elim
    · intro instanceId member missed
      exact missed.elim
  · exact sound

theorem Sound.step (sound : system.Sound) (step : UdpStep)
    (allowed : step.Allowed system.generations)
    (fresh : (system.step step).generations.inserted.Nodup) : (system.step step).Sound := by
  cases step with
  | startClean now => exact sound.startClean now
  | clean answer => exact sound.clean answer
  | mapV4 ignoreSpecialPorts op => exact sound.generations_step (.v4 ignoreSpecialPorts op) fresh
  | mapV6 ignoreSpecialPorts op => exact sound.generations_step (.v6 ignoreSpecialPorts op) fresh
  | endpoint op => exact { sound with endpoints := sound.endpoint_step op allowed }
  | flow op => exact { sound with flows := sound.flow_step op allowed }

theorem generations_clean (system : UdpSystem) (answer : Except String RemoveContextResult) :
    (system.clean answer).generations = system.generations := by
  unfold UdpSystem.clean
  split
  all_goals try rfl
  · unfold UdpSystem.claimNext
    split
    · rfl
    · split
      · rfl
      · split <;> rfl
  · unfold removeUdpFlowContext
    split <;> rfl

theorem inserted_step (system : UdpSystem) (step : UdpStep) :
    system.generations.inserted.Sublist (system.step step).generations.inserted := by
  cases step with
  | startClean now =>
      simp only [UdpSystem.step, UdpSystem.startClean]
      split <;> exact List.Sublist.refl _
  | clean answer =>
      rw [UdpSystem.step, generations_clean]
  | mapV4 ignoreSpecialPorts op =>
      exact (Generations.Step.v4 ignoreSpecialPorts op).inserted_sublist
  | mapV6 ignoreSpecialPorts op =>
      exact (Generations.Step.v6 ignoreSpecialPorts op).inserted_sublist
  | endpoint op => exact List.Sublist.refl _
  | flow op => exact List.Sublist.refl _

theorem Reachable.sound (reachable : system.Reachable)
    (fresh : system.generations.inserted.Nodup) : system.Sound := by
  induction reachable with
  | new => exact sound_new
  | step reachable step allowed ih =>
      exact (ih (fresh.sublist (inserted_step _ step))).step step allowed fresh

section Spares

variable (sound : system.Sound) (answer : Except String RemoveContextResult)

include sound

theorem Sound.clean_peers {endpointHandle : Nat} {peer : UdpEndpointPeer}
    (member : peer ∈ system.endpoints.peers endpointHandle)
    (removed : peer ∉ (system.clean answer).endpoints.peers endpointHandle) :
    ¬ system.generations.LiveInstance peer.instanceId := by
  unfold UdpSystem.clean at removed
  split at removed
  case h_5 now endpointInstances flowCandidates liveInstances phase =>
    rw [UdpEndpointCache.mem_peers_removeInstances] at removed
    simp only [member, true_and, not_or, not_not, List.mem_filter, Bool.not_eq_true',
      List.contains_eq_mem, decide_eq_false_iff_not] at removed
    obtain ⟨-, listed, missed⟩ := removed
    refine sound.not_live ?_ ?_ ?_
    · rw [phase]
      exact List.mem_append_left _ listed
    · rwa [phase]
    · rwa [phase]
  case h_6 liveInstances flowCandidates phase =>
    refine absurd member ?_
    unfold UdpSystem.claimNext at removed
    split at removed
    · exact removed
    · split at removed
      · exact removed
      · split at removed <;> exact removed
  case h_7 registration liveInstances flowCandidates phase =>
    refine absurd member ?_
    unfold removeUdpFlowContext at removed
    split at removed <;> exact removed
  all_goals exact absurd member removed

theorem Sound.clean_claims {flowContext : Nat} {registration claimed : UdpFlowRegistration}
    (before : system.flows.registrations[flowContext]? = some registration)
    (unclaimed : registration.removalRequested = false)
    (after : (system.clean answer).flows.registrations[flowContext]? = some claimed)
    (requested : claimed.removalRequested = true) :
    ¬ system.generations.LiveInstance registration.connectionInstanceId := by
  have unchanged (same : system.flows.registrations[flowContext]? = some claimed) : False := by
    rw [before] at same
    cases same
    rw [unclaimed] at requested
    cases requested
  unfold UdpSystem.clean at after
  split at after
  case h_6 liveInstances flowCandidates phase =>
    cases flowCandidates with
    | nil => exact (unchanged after).elim
    | cons candidate rest =>
        obtain ⟨context, connectionInstanceId⟩ := candidate
        simp only [UdpSystem.claimNext] at after
        split at after
        · exact (unchanged after).elim
        · rename_i missed
          rcases system.flows.claimRemoval_cases context connectionInstanceId with
            ⟨stored, present, same, result⟩ | ⟨result, -⟩
          · rw [result, UdpFlowCache.getElem?_setRegistration] at after
            split at after
            · rename_i this
              subst this
              rw [before] at present
              cases present
              rw [List.contains_eq_mem, decide_eq_true_iff] at missed
              refine sound.not_live ?_ ?_ ?_
              · rw [phase, same]
                exact List.mem_cons_self
              · rwa [phase, same]
              · rwa [phase, same]
            · exact (unchanged after).elim
          · rw [result] at after
            exact (unchanged after).elim
  case h_7 stored liveInstances flowCandidates phase =>
    unfold removeUdpFlowContext at after
    split at after
    · exact (unchanged after).elim
    · exact (unchanged after).elim
    · exact (unchanged (UdpFlowCache.getElem?_cancelRegistration after)).elim
    · rcases UdpFlowCache.getElem?_retryRemoval after with kept | ⟨-, -, retried⟩
      · exact (unchanged kept).elim
      · rw [retried] at requested
        cases requested
  all_goals exact (unchanged after).elim

end Spares

/-- Every association that is left is of a live instance, exempt, or less than a second old. -/
def PeersSettled (system : UdpSystem) (now : Nat) : Prop :=
  ∀ endpointHandle, ∀ peer ∈ system.endpoints.peers endpointHandle,
    system.generations.LiveInstance peer.instanceId ∨ peer.associatedAtMs = 0 ∨
      peer.associatedAtMs ≤ now ∧ now - peer.associatedAtMs < 1000

/-- Every associated context is of a live instance, requested, refused by WFP in this pass, or one
of the candidates. -/
def FlowsSettled (system : UdpSystem) (flowCandidates : List (Nat × Nat)) : Prop :=
  ∀ flowContext registration, system.flows.registrations[flowContext]? = some registration →
    registration.associated = true →
      system.generations.LiveInstance registration.connectionInstanceId ∨
        registration.removalRequested = true ∨
        (flowContext, registration.connectionInstanceId) ∈ system.failedRemovals ∨
        (flowContext, registration.connectionInstanceId) ∈ flowCandidates

def Uninterrupted (system : UdpSystem) (now : Nat) : Prop :=
  match system.phase with
  | .idle => system.PeersSettled now ∧ system.FlowsSettled []
  | .endpointsRead time endpointInstances =>
      time = now ∧ system.endpoints.instanceIds ⊆ endpointInstances
  | .flowsRead time endpointInstances flowCandidates =>
      time = now ∧ system.endpoints.instanceIds ⊆ endpointInstances ∧
        system.FlowsSettled flowCandidates
  | .v4Read time endpointInstances flowCandidates liveInstances
  | .v6Read time endpointInstances flowCandidates liveInstances =>
      time = now ∧ system.endpoints.instanceIds ⊆ endpointInstances ∧
        system.FlowsSettled flowCandidates ∧
        ∀ instanceId ∈ liveInstances, system.generations.LiveInstance instanceId
  | .claiming liveInstances flowCandidates
  | .removing _ liveInstances flowCandidates =>
      system.PeersSettled now ∧ system.FlowsSettled flowCandidates ∧
        ∀ instanceId ∈ liveInstances, system.generations.LiveInstance instanceId

variable {now : Nat}

theorem FlowsSettled.fewer {flowCandidates : List (Nat × Nat)} {flows : UdpFlowCache}
    (settled : system.FlowsSettled flowCandidates)
    (fewer : ∀ {flowContext : Nat} {registration : UdpFlowRegistration},
      flows.registrations[flowContext]? = some registration →
        system.flows.registrations[flowContext]? = some registration)
    (endpoints : UdpEndpointCache) (phase : CleanPhase) :
    FlowsSettled ⟨system.generations, endpoints, flows, phase, system.failedRemovals⟩
      flowCandidates :=
  fun flowContext registration present => settled flowContext registration (fewer present)

theorem FlowsSettled.next {flowContext connectionInstanceId : Nat} {rest : List (Nat × Nat)}
    {flows : UdpFlowCache}
    (settled : system.FlowsSettled ((flowContext, connectionInstanceId) :: rest))
    (kept : ∀ {context : Nat} {registration : UdpFlowRegistration},
      flows.registrations[context]? = some registration →
        registration.removalRequested = true ∨
          system.flows.registrations[context]? = some registration)
    (done : ∀ registration, flows.registrations[flowContext]? = some registration →
      registration.connectionInstanceId = connectionInstanceId →
      registration.associated = true →
        system.generations.LiveInstance connectionInstanceId ∨
          registration.removalRequested = true) (phase : CleanPhase) :
    FlowsSettled { system with flows := flows, phase := phase } rest := by
  intro context registration present associated
  rcases kept present with requested | earlier
  · exact .inr (.inl requested)
  · rcases settled context registration earlier associated with
      alive | requested | failed | coming
    · exact .inl alive
    · exact .inr (.inl requested)
    · exact .inr (.inr (.inl failed))
    · rcases List.mem_cons.mp coming with this | later
      · cases this
        rcases done registration present rfl associated with alive | requested
        · exact .inl alive
        · exact .inr (.inl requested)
      · exact .inr (.inr (.inr later))

theorem Uninterrupted.claimNext (sound : system.Sound) {liveInstances : List Nat}
    {flowCandidates : List (Nat × Nat)} (peers : system.PeersSettled now)
    (flows : system.FlowsSettled flowCandidates)
    (live : ∀ instanceId ∈ liveInstances, system.generations.LiveInstance instanceId) :
    (system.claimNext liveInstances flowCandidates).Uninterrupted now := by
  cases flowCandidates with
  | nil => exact ⟨peers, flows⟩
  | cons candidate rest =>
      obtain ⟨context, connectionInstanceId⟩ := candidate
      simp only [UdpSystem.claimNext]
      split
      · rename_i listed
        refine ⟨peers, flows.next .inr ?_ _, live⟩
        intro registration present same associated
        exact .inl (live _ (List.contains_iff_mem.mp listed))
      · rcases system.flows.claimRemoval_cases context connectionInstanceId with
          ⟨stored, found, same, result⟩ | ⟨result, refused⟩
        · rw [result]
          refine ⟨peers, flows.next ?_ ?_ _, live⟩
          · intro flowContext registration present
            rw [UdpFlowCache.getElem?_setRegistration] at present
            split at present
            · cases present
              exact .inl rfl
            · exact .inr present
          · intro registration present _ associated
            rw [UdpFlowCache.getElem?_setRegistration, if_pos rfl] at present
            cases present
            exact .inr rfl
        · rw [result]
          refine ⟨peers, flows.next .inr ?_ _, live⟩
          intro registration present same associated
          have kept := refused registration present (sound.flows _ _ present).1 same
          rw [UdpFlowRegistration.removable, associated, Bool.true_and,
            Bool.not_eq_false'] at kept
          exact .inr kept

theorem Uninterrupted.clean (sound : system.Sound) (uninterrupted : system.Uninterrupted now)
    (answer : Except String RemoveContextResult) :
    (system.clean answer).Uninterrupted now := by
  cases phase : system.phase
  all_goals
    simp only [Uninterrupted, phase] at uninterrupted
    simp only [UdpSystem.clean, phase]
  case idle => simpa only [Uninterrupted, phase] using uninterrupted
  case endpointsRead time endpointInstances =>
    obtain ⟨rfl, endpoints⟩ := uninterrupted
    refine ⟨rfl, endpoints, ?_⟩
    intro flowContext registration present associated
    have keyed := (sound.flows flowContext registration present).1.keyed
    cases requested : registration.removalRequested with
    | true => exact .inr (.inl rfl)
    | false =>
        refine .inr (.inr (.inr (UdpFlowCache.mem_removalCandidates.mpr
          ⟨flowContext, registration, present, ?_, ?_⟩)))
        · simp [UdpFlowRegistration.removable, associated, requested]
        · rw [keyed]
  case flowsRead time endpointInstances flowCandidates =>
    obtain ⟨rfl, endpoints, flows⟩ := uninterrupted
    refine ⟨rfl, endpoints, flows, ?_⟩
    intro instanceId listed
    rcases live_of_listed listed with old | live
    · cases old
    · exact .inl live
  case v4Read time endpointInstances flowCandidates liveInstances =>
    obtain ⟨rfl, endpoints, flows, live⟩ := uninterrupted
    refine ⟨rfl, endpoints, flows, ?_⟩
    intro instanceId listed
    rcases live_of_listed listed with old | new
    · exact live instanceId old
    · exact .inr new
  case v6Read time endpointInstances flowCandidates liveInstances =>
    obtain ⟨rfl, endpoints, flows, live⟩ := uninterrupted
    refine ⟨?_, flows, live⟩
    intro endpointHandle peer member
    obtain ⟨stored, kept⟩ := UdpEndpointCache.mem_peers_removeInstances.mp member
    rcases kept with spared | current
    · simp only [UdpEndpointCache.protectsPeer, Bool.or_eq_true, Bool.and_eq_true, beq_iff_eq,
        decide_eq_true_eq] at spared
      exact .inr spared
    · have known := endpoints (UdpEndpointCache.mem_instanceIds.mpr
        ⟨endpointHandle, peer, stored, rfl⟩)
      refine .inl (live _ ?_)
      simpa [known] using current
  case claiming liveInstances flowCandidates =>
    obtain ⟨peers, flows, live⟩ := uninterrupted
    exact Uninterrupted.claimNext sound peers flows live
  case removing registration liveInstances flowCandidates =>
    obtain ⟨peers, flows, live⟩ := uninterrupted
    unfold removeUdpFlowContext
    split
    · exact ⟨peers, flows, live⟩
    · exact ⟨peers, flows, live⟩
    · exact ⟨peers, flows.fewer UdpFlowCache.getElem?_cancelRegistration _ _, live⟩
    · refine ⟨peers, ?_, live⟩
      intro flowContext stored present associated
      rcases UdpFlowCache.getElem?_retryRemoval present with earlier | ⟨context, same, -⟩
      · rcases flows flowContext stored earlier associated with
          alive | requested | failed | coming
        · exact .inl alive
        · exact .inr (.inl requested)
        · exact .inr (.inr (.inl (List.mem_cons_of_mem _ failed)))
        · exact .inr (.inr (.inr coming))
      · refine .inr (.inr (.inl ?_))
        rw [context, same]
        exact List.mem_cons_self

theorem Uninterrupted.fewer {flows : UdpFlowCache} (uninterrupted : system.Uninterrupted now)
    (fewer : ∀ {flowContext : Nat} {registration : UdpFlowRegistration},
      flows.registrations[flowContext]? = some registration →
        system.flows.registrations[flowContext]? = some registration) :
    Uninterrupted { system with flows := flows } now := by
  unfold Uninterrupted at uninterrupted ⊢
  dsimp only
  cases phase : system.phase
  all_goals simp only [phase] at uninterrupted ⊢
  case idle => exact ⟨uninterrupted.1, uninterrupted.2.fewer fewer _ _⟩
  case endpointsRead time endpointInstances => exact uninterrupted
  case flowsRead time endpointInstances flowCandidates =>
    obtain ⟨same, endpoints, flows⟩ := uninterrupted
    exact ⟨same, endpoints, flows.fewer fewer _ _⟩
  case v4Read time endpointInstances flowCandidates liveInstances =>
    obtain ⟨same, endpoints, flows, live⟩ := uninterrupted
    exact ⟨same, endpoints, flows.fewer fewer _ _, live⟩
  case v6Read time endpointInstances flowCandidates liveInstances =>
    obtain ⟨same, endpoints, flows, live⟩ := uninterrupted
    exact ⟨same, endpoints, flows.fewer fewer _ _, live⟩
  case claiming liveInstances flowCandidates =>
    obtain ⟨peers, flows, live⟩ := uninterrupted
    exact ⟨peers, flows.fewer fewer _ _, live⟩
  case removing registration liveInstances flowCandidates =>
    obtain ⟨peers, flows, live⟩ := uninterrupted
    exact ⟨peers, flows.fewer fewer _ _, live⟩

def remaining (system : UdpSystem) : Nat :=
  match system.phase with
  | .idle => 0
  | .endpointsRead _ _ => 5 + 2 * system.flows.registrations.size
  | .flowsRead _ _ flowCandidates => 4 + 2 * flowCandidates.length
  | .v4Read _ _ flowCandidates _ => 3 + 2 * flowCandidates.length
  | .v6Read _ _ flowCandidates _ => 2 + 2 * flowCandidates.length
  | .claiming _ flowCandidates => 1 + 2 * flowCandidates.length
  | .removing _ _ flowCandidates => 2 + 2 * flowCandidates.length

theorem remaining_claimNext (system : UdpSystem) (liveInstances : List Nat)
    (flowCandidates : List (Nat × Nat)) :
    (system.claimNext liveInstances flowCandidates).remaining ≤ 2 * flowCandidates.length := by
  cases flowCandidates with
  | nil => exact Nat.le_refl _
  | cons candidate rest =>
      simp only [UdpSystem.claimNext, List.length_cons]
      split
      · change 1 + 2 * rest.length ≤ 2 * (rest.length + 1)
        omega
      · split
        · change 2 + 2 * rest.length ≤ 2 * (rest.length + 1)
          omega
        · change 1 + 2 * rest.length ≤ 2 * (rest.length + 1)
          omega

theorem remaining_clean (system : UdpSystem) (answer : Except String RemoveContextResult) :
    (system.clean answer).remaining ≤ system.remaining - 1 := by
  cases phase : system.phase
  all_goals simp only [UdpSystem.clean, phase, remaining]
  case idle => simp
  case endpointsRead time endpointInstances =>
    have bound : system.flows.removalCandidates.length ≤ system.flows.registrations.size := by
      rw [UdpFlowCache.removalCandidates, List.length_map, ← Std.TreeMap.length_toList]
      refine (List.length_filter_le _ _).trans ?_
      rw [UdpFlowCache.values, List.length_map]
    omega
  case claiming liveInstances flowCandidates =>
    have bound := remaining_claimNext system liveInstances flowCandidates
    unfold remaining at bound
    omega
  all_goals omega

theorem remaining_flow (system : UdpSystem) {flows : UdpFlowCache}
    (size : flows.registrations.size ≤ system.flows.registrations.size) :
    remaining { system with flows := flows } ≤ system.remaining := by
  unfold remaining
  dsimp only
  cases system.phase
  case endpointsRead => simp only
                        omega
  all_goals exact Nat.le_refl _

theorem size_beginCallback (cache : UdpFlowCache) (flowContext layerId calloutId : Nat) :
    (cache.beginCallback flowContext layerId calloutId).2.registrations.size ≤
      cache.registrations.size := by
  unfold UdpFlowCache.beginCallback
  split
  · exact Nat.le_refl _
  · split
    · exact Nat.le_refl _
    · exact Std.TreeMap.size_erase_le

theorem Uninterrupted.step (sound : system.Sound) (uninterrupted : system.Uninterrupted now)
    {step : UdpStep} (ofPass : step.OfPass) :
    (system.step step).Sound ∧ (system.step step).Uninterrupted now ∧
      (system.step step).remaining ≤ system.remaining - [step].countP UdpStep.isClean := by
  cases step with
  | clean answer =>
      exact ⟨sound.clean answer, uninterrupted.clean sound answer, remaining_clean system answer⟩
  | flow op =>
      have known := sound.flow_step op
      cases op with
      | beginCallback flowContext layerId calloutId =>
          refine ⟨{ sound with flows := known trivial },
            uninterrupted.fewer UdpFlowCache.getElem?_beginCallback, ?_⟩
          exact remaining_flow system (size_beginCallback system.flows _ _ _)
      | finishCallback =>
          refine ⟨{ sound with flows := known trivial }, uninterrupted.fewer id, ?_⟩
          exact remaining_flow system (Nat.le_refl _)
      | _ => exact ofPass.elim
  | _ => exact ofPass.elim

theorem Uninterrupted.run {steps : List UdpStep} (ofPass : ∀ step ∈ steps, step.OfPass)
    (sound : system.Sound) (uninterrupted : system.Uninterrupted now) :
    (steps.foldl UdpSystem.step system).Uninterrupted now ∧
      (steps.foldl UdpSystem.step system).remaining ≤
        system.remaining - steps.countP UdpStep.isClean := by
  induction steps generalizing system with
  | nil => exact ⟨uninterrupted, Nat.le_refl _⟩
  | cons step rest ih =>
      obtain ⟨first, later⟩ := List.forall_mem_cons.mp ofPass
      obtain ⟨stepSound, stepSettled, fewer⟩ := uninterrupted.step sound first
      obtain ⟨settled, bound⟩ := ih later stepSound stepSettled
      refine ⟨settled, ?_⟩
      have split : (step :: rest).countP UdpStep.isClean =
          [step].countP UdpStep.isClean + rest.countP UdpStep.isClean := by
        rw [← List.countP_append, List.singleton_append]
      rw [List.foldl_cons, split]
      omega

theorem startClean_uninterrupted (system : UdpSystem) (idle : system.phase = .idle)
    (now : Nat) : (system.startClean now).Uninterrupted now ∧
      (system.startClean now).remaining = 5 + 2 * system.flows.registrations.size := by
  simp [UdpSystem.startClean, idle, Uninterrupted, remaining]

end UdpSystem

/-- A pass never removes an association and never claims a context of a live instance, whatever
runs between its steps. A pass that nothing interrupts ends, and leaves only associations that are
of live instances, exempt or recent, and only associated contexts that are of live instances,
requested, or refused by WFP in this pass. -/
theorem cleanUdpLifecycleState_spares_live {system : UdpSystem} (reachable : system.Reachable)
    (fresh : system.generations.inserted.Nodup) :
    (∀ answer,
      (∀ endpointHandle, ∀ peer ∈ system.endpoints.peers endpointHandle,
        peer ∉ (system.clean answer).endpoints.peers endpointHandle →
          ¬ system.generations.LiveInstance peer.instanceId) ∧
      ∀ (flowContext : Nat) (registration claimed : UdpFlowRegistration),
        system.flows.registrations[flowContext]? = some registration →
        registration.removalRequested = false →
        (system.clean answer).flows.registrations[flowContext]? = some claimed →
        claimed.removalRequested = true →
          ¬ system.generations.LiveInstance registration.connectionInstanceId) ∧
    (system.phase = .idle → ∀ (now : Nat) (steps : List UdpStep),
      (∀ step ∈ steps, step.OfPass) →
      let after := steps.foldl UdpSystem.step (system.startClean now)
      (5 + 2 * system.flows.registrations.size ≤ steps.countP UdpStep.isClean →
        after.phase = .idle) ∧
      (after.phase = .idle →
        (∀ endpointHandle, ∀ peer ∈ after.endpoints.peers endpointHandle,
          after.generations.LiveInstance peer.instanceId ∨ peer.associatedAtMs = 0 ∨
            peer.associatedAtMs ≤ now ∧ now - peer.associatedAtMs < 1000) ∧
        ∀ (flowContext : Nat) (registration : UdpFlowRegistration),
          after.flows.registrations[flowContext]? = some registration →
          registration.associated = true →
            after.generations.LiveInstance registration.connectionInstanceId ∨
              registration.removalRequested = true ∨
              (flowContext, registration.connectionInstanceId) ∈ after.failedRemovals)) := by
  have sound := reachable.sound fresh
  refine ⟨fun answer => ⟨?_, ?_⟩, ?_⟩
  · intro endpointHandle peer member removed
    exact sound.clean_peers answer member removed
  · intro flowContext registration claimed before unclaimed after requested
    exact sound.clean_claims answer before unclaimed after requested
  · intro idle now steps ofPass
    obtain ⟨start, bound⟩ := UdpSystem.startClean_uninterrupted system idle now
    obtain ⟨settled, left⟩ := start.run ofPass (sound.startClean now)
    generalize steps.foldl UdpSystem.step (system.startClean now) = after at settled left
    dsimp only
    refine ⟨?_, ?_⟩
    · intro enough
      have none : after.remaining = 0 := by omega
      unfold UdpSystem.remaining at none
      cases phase : after.phase
      all_goals simp only [phase] at none
      case idle => rfl
      all_goals omega
    · intro ended
      simp only [UdpSystem.Uninterrupted, ended] at settled
      refine ⟨settled.1, ?_⟩
      intro flowContext registration present associated
      rcases settled.2 flowContext registration present associated with
        alive | requested | failed | coming
      · exact .inl alive
      · exact .inr (.inl requested)
      · exact .inr (.inr failed)
      · cases coming

/-- A connection ends while its flow context is associated. -/
def endedFlow : List UdpStep :=
  [.mapV4 false ⟨.insertIfAbsentWith (resolverConnection 1) .unchanged, trivial⟩,
    .endpoint (.associateInstanceAt 9 resolverKey 1 1),
    .flow (.register 7 (.new 70 2 3 1)),
    .flow (.markAssociated 7 1),
    .mapV4 false ⟨.endInstance 6 resolverKey 1, Nat.succ_pos 5⟩]

theorem reachable_endedFlow : (endedFlow.foldl UdpSystem.step .new).Reachable := by
  have inserted := UdpSystem.Reachable.new.step
    (.mapV4 false ⟨.insertIfAbsentWith (resolverConnection 1) .unchanged, trivial⟩) trivial
  have associated := inserted.step (.endpoint (.associateInstanceAt 9 resolverKey 1 1))
    ⟨by decide +kernel, by decide +kernel, by decide +kernel⟩
  have registered := associated.step (.flow (.register 7 (.new 70 2 3 1)))
    ⟨by decide +kernel, by decide +kernel, by decide +kernel⟩
  have accepted := registered.step (.flow (.markAssociated 7 1)) trivial
  exact accepted.step (.mapV4 false ⟨.endInstance 6 resolverKey 1, Nat.succ_pos 5⟩) trivial

def passWith (answer : Except String RemoveContextResult) : List UdpStep :=
  List.replicate 7 (.clean answer)

theorem ofPass_passWith (answer : Except String RemoveContextResult) :
    ∀ step ∈ passWith answer, step.OfPass := by
  intro step member
  rw [List.eq_of_mem_replicate member]
  trivial

theorem cleanUdpLifecycleState_spares_live_endedFlow :
    let system := endedFlow.foldl UdpSystem.step .new
    let after := (passWith (.ok .alreadyGone)).foldl UdpSystem.step (system.startClean 2000)
    system.generations.inserted = [1] ∧ system.flows.registrations.size = 1 ∧
      system.endpoints.instanceIds = [1] ∧ after.phase = .idle ∧
      after.endpoints.instanceIds = [] ∧ after.flows.registrations.size = 0 := by
  have inserted : (endedFlow.foldl UdpSystem.step .new).generations.inserted = [1] := by
    decide +kernel
  have size : (endedFlow.foldl UdpSystem.step .new).flows.registrations.size = 1 := by
    decide +kernel
  have fresh : (endedFlow.foldl UdpSystem.step .new).generations.inserted.Nodup := by
    rw [inserted]
    decide
  have ended := ((cleanUdpLifecycleState_spares_live reachable_endedFlow fresh).2 rfl 2000 _
    (ofPass_passWith (.ok .alreadyGone))).1
  refine ⟨inserted, size, by decide +kernel, ended ?_, by decide +kernel, by decide +kernel⟩
  rw [size]
  decide

/-- WFP refuses the removal, and the request is taken back for a later pass. -/
theorem refusedRemoval_not_requested :
    ¬ ∀ system : UdpSystem, system.Reachable → system.generations.inserted.Nodup →
      system.phase = .idle → ∀ (now : Nat) (steps : List UdpStep),
      (∀ step ∈ steps, step.OfPass) →
        let after := steps.foldl UdpSystem.step (system.startClean now)
        after.phase = .idle → ∀ (flowContext : Nat) (registration : UdpFlowRegistration),
          after.flows.registrations[flowContext]? = some registration →
          registration.associated = true →
            after.generations.LiveInstance registration.connectionInstanceId ∨
              registration.removalRequested = true := by
  intro claim
  have inserted : (endedFlow.foldl UdpSystem.step .new).generations.inserted = [1] := by
    decide +kernel
  have fresh : (endedFlow.foldl UdpSystem.step .new).generations.inserted.Nodup := by
    rw [inserted]
    decide
  have settled := claim _ reachable_endedFlow fresh rfl 2000 _ (ofPass_passWith (.error "")) rfl 7
    ⟨7, 70, 2, 3, 1, true, false⟩ (by decide +kernel) rfl
  rcases settled with (⟨entry, member, same, live⟩ | ⟨entry, member, same, live⟩) | requested
  · have ended : ∀ entry ∈ ((passWith (.error "")).foldl UdpSystem.step
        ((endedFlow.foldl UdpSystem.step .new).startClean 2000)).generations.v4.state.entries,
        entry.hasEnded = true := by decide +kernel
    rw [ended entry member] at live
    cases live
  · have empty : ((passWith (.error "")).foldl UdpSystem.step
        ((endedFlow.foldl UdpSystem.step .new).startClean 2000)).generations.v6.state.entries =
        [] := by decide +kernel
    rw [empty] at member
    cases member
  · cases requested

end WindowsKext
