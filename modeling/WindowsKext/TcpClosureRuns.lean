import WindowsKext.ClassifyPends
import WindowsKext.EventOrder

/-! Deferred endpoint closures over all runs of the driver. A stored closure waits for exactly the
requests of its flow that are open, and one that waits for nothing has a thread that claims it. -/

namespace WindowsKext

open Interleaving

def Task.usesClosures : Task → Bool
  | .publish .. | .finish .. | .deferTcpEndpointClosure .. | .completeReadyTcpEndpointClosure _
  | .drainTcpEndpointClosures => true
  | _ => false

theorem sameClosures_step (input : Input) (system : System) (task : Task)
    (other : task.usesClosures = false) :
    (task.step input system).2.device.tcpClosureCache = system.device.tcpClosureCache := by
  cases task with
  | publish | finish | deferTcpEndpointClosure | completeReadyTcpEndpointClosure
  | drainTcpEndpointClosures => cases other
  | savePacket request =>
      simp only [Task.step]
      split
      · cases input.pendOperation <;> rfl
      · rfl
  | registerAleConnection request packet =>
      simp only [Task.step]
      split
      · rfl
      · simp
  | claimVerdict id value =>
      simp only [Task.step]
      rcases claimVerdict_device system.device id value with ⟨none, same⟩ | ⟨action, claimed⟩
      · rw [same]
      · rw [claimed]
  | applyVerdict pending action =>
      simp only [Task.step, System.perform, applyVerdict_device]
      cases pending.connectionInstanceId <;> rfl
  | endTcpConnection endpoint processId =>
      obtain ⟨cache, ended⟩ := endTcpInstance_device system.device input.now endpoint
      simp [Task.step, ended]
  | _ => rfl

/-- A closure after a task was stored before it, perhaps with other requests, or is new. A new one
is of a live TCP generation. -/
theorem closure_step (input : Input) (system : System) (task : Task) {instanceId : Nat}
    {closure : PendingTcpClosure}
    (stored : (task.step input system).2.device.tcpClosureCache[instanceId]? = some closure) :
    (∃ earlier, system.device.tcpClosureCache[instanceId]? = some earlier ∧
        closure.endpoint = earlier.endpoint) ∨
      (closure.endpoint.instanceId = instanceId ∧ closure.endpoint.key.protocol = .tcp ∧
        system.device.hasLiveInstance closure.endpoint = true) := by
  cases task with
  | publish key packet connectionInstanceId processId threadId direction aleLayer =>
      left
      simp only [Task.step] at stored
      have outcome := publishOutcome input.environment system.device key packet
        connectionInstanceId processId threadId direction aleLayer
      generalize system.device.publishPendingPacket input.environment key packet
        connectionInstanceId processId threadId direction aleLayer = published at outcome stored
      cases outcome with
      | rejected instanceId bound => exact ⟨closure, stored, rfl⟩
      | queued processId threadId live push =>
          rw [TcpClosureCache.getElem?_foldl_addRequest] at stored
          obtain ⟨earlier, found, rfl⟩ := Option.map_eq_some_iff.mp stored
          exact ⟨earlier, found, (PendingTcpClosure.joins_foldl earlier
            ⟨key, connectionInstanceId⟩ _).endpoint⟩
  | finish id key connectionInstanceId =>
      left
      simp only [Task.step, Device.finishPendingRequest] at stored
      rw [TcpClosureCache.getElem?_finishRequest] at stored
      obtain ⟨earlier, found, rfl⟩ := Option.map_eq_some_iff.mp stored
      exact ⟨earlier, found, rfl⟩
  | deferTcpEndpointClosure endpoint processId =>
      simp only [Task.step] at stored
      have outcome := closureOutcome system.device input.now endpoint.connection processId
        (input.pendClassify.map fun _ => (pendedClassifications system.effects).length)
      generalize system.device.deferTcpEndpointClosure input.now endpoint.connection processId
        (input.pendClassify.map fun _ => (pendedClassifications system.effects).length) = taken
        at outcome stored
      cases outcome with
      | deferred live waits classify pended absent =>
          simp only [System.perform, device_recordEnd] at stored
          rw [Std.TreeMap.getElem?_insert] at stored
          split at stored
          · rename_i same
            cases stored
            exact .inr ⟨Nat.compare_eq_eq.mp same, endpoint.tcp, live⟩
          · exact .inl ⟨closure, stored, rfl⟩
      | ended =>
          obtain ⟨cache, ended⟩ := endTcpInstance_device system.device input.now
            endpoint.connection
          simp only [System.perform, device_recordEnd, ended] at stored
          exact .inl ⟨closure, stored, rfl⟩
      | gone | unpended | duplicate =>
          simp only [System.perform, device_recordEnd] at stored
          exact .inl ⟨closure, stored, rfl⟩
  | completeReadyTcpEndpointClosure endpoint =>
      left
      simp only [Task.step, Device.completeReadyTcpEndpointClosure] at stored
      rcases TcpClosureCache.takeReady_cases system.device.tcpClosureCache endpoint.instanceId with
        ⟨same, _⟩ | ⟨taken, _, erased⟩
      · rw [same] at stored
        exact ⟨closure, stored, rfl⟩
      · rw [erased] at stored
        obtain ⟨cache, ended⟩ := endTcpInstance_device { system.device with
          tcpClosureCache := Std.TreeMap.erase system.device.tcpClosureCache
            endpoint.instanceId } input.now endpoint
        simp only [device_recordEnd, ended] at stored
        rw [Std.TreeMap.getElem?_erase] at stored
        split at stored
        · cases stored
        · exact ⟨closure, stored, rfl⟩
  | drainTcpEndpointClosures => simp [Task.step, TcpClosureCache.drain] at stored
  | _ =>
      rw [sameClosures_step input system _ rfl] at stored
      exact .inl ⟨closure, stored, rfl⟩

/-- A stored closure waits for the outstanding requests of its flow, and for those that a thread
has removed and not finished. If it waits for nothing, a thread will claim it. -/
structure Tracks (cache : IdCache) (pending : List Task) (closure : PendingTcpClosure) : Prop where
  complete : ∀ id identity, cache.Outstanding id identity → closure.endpoint.Awaits identity →
    id ∈ closure.requestIds
  relevant : ∀ id ∈ closure.requestIds, ∃ identity, closure.endpoint.Awaits identity ∧
    (cache.Outstanding id identity ∨
      .finish id identity.key identity.connectionInstanceId ∈ pending)
  claimed : closure.requestIds = [] → ∃ endpoint,
    endpoint.instanceId = closure.endpoint.instanceId ∧
      .completeReadyTcpEndpointClosure endpoint ∈ pending
  distinct : closure.requestIds.Nodup

def Task.wakes : Task → Bool
  | .finish .. | .completeReadyTcpEndpointClosure _ => true
  | _ => false

theorem mem_of_wakes {task other : Task} {pending more : List Task}
    (quiet : task.wakes = false) (wakes : other.wakes = true) (member : other ∈ task :: pending) :
    other ∈ more ++ pending := by
  rcases List.mem_cons.mp member with rfl | waiting
  · rw [quiet] at wakes
    cases wakes
  · exact List.mem_append_right _ waiting

section Tracks

variable {cache after : IdCache} {task : Task} {pending more : List Task}
  {closure : PendingTcpClosure}

theorem Tracks.of_queue (tracks : Tracks cache (task :: pending) closure)
    (quiet : task.wakes = false)
    (complete : ∀ id identity, after.Outstanding id identity → closure.endpoint.Awaits identity →
      ∃ earlier, cache.Outstanding id earlier ∧ closure.endpoint.Awaits earlier)
    (relevant : ∀ id identity, cache.Outstanding id identity → closure.endpoint.Awaits identity →
      after.Outstanding id identity ∨
        .finish id identity.key identity.connectionInstanceId ∈ more) :
    Tracks after (more ++ pending) closure := by
  refine ⟨?_, ?_, ?_, tracks.distinct⟩
  · intro id identity outstanding awaits
    obtain ⟨earlier, before, awaited⟩ := complete id identity outstanding awaits
    exact tracks.complete id earlier before awaited
  · intro id member
    obtain ⟨identity, awaits, outstanding | finishing⟩ := tracks.relevant id member
    · refine ⟨identity, awaits, ?_⟩
      exact (relevant id identity outstanding awaits).imp_right (List.mem_append_left _)
    · exact ⟨identity, awaits, .inr (mem_of_wakes quiet rfl finishing)⟩
  · intro ready
    obtain ⟨endpoint, same, claims⟩ := tracks.claimed ready
    exact ⟨endpoint, same, mem_of_wakes quiet rfl claims⟩

theorem Tracks.of_same (tracks : Tracks cache (task :: pending) closure)
    (quiet : task.wakes = false)
    (same : ∀ id identity, after.Outstanding id identity ↔ cache.Outstanding id identity) :
    Tracks after (more ++ pending) closure :=
  tracks.of_queue quiet
    (fun id identity outstanding awaits => ⟨identity, (same id identity).mp outstanding, awaits⟩)
    (fun id identity outstanding _ => .inl ((same id identity).mpr outstanding))

theorem Tracks.join (tracks : Tracks cache (task :: pending) closure) (quiet : task.wakes = false)
    {identity : PendingIdentity} {ids : List Nat}
    (same : ∀ id other, after.Outstanding id other ↔ cache.Outstanding id other ∨
      (id ∈ ids ∧ other = identity)) :
    Tracks after (more ++ pending)
      (ids.foldl (PendingTcpClosure.addRequest identity.key identity.connectionInstanceId)
        closure) := by
  have joins := PendingTcpClosure.joins_foldl closure identity ids
  refine ⟨?_, ?_, ?_, joins.distinct tracks.distinct⟩
  · intro id other outstanding awaits
    rw [joins.endpoint] at awaits
    rw [joins.mem]
    rcases (same id other).mp outstanding with old | ⟨new, rfl⟩
    · exact .inl (tracks.complete id other old awaits)
    · exact .inr ⟨awaits, new⟩
  · intro id member
    rw [joins.endpoint]
    rcases (joins.mem id).mp member with old | ⟨awaits, new⟩
    · obtain ⟨other, awaits, outstanding | finishing⟩ := tracks.relevant id old
      · exact ⟨other, awaits, .inl ((same id other).mpr (.inl outstanding))⟩
      · exact ⟨other, awaits, .inr (mem_of_wakes quiet rfl finishing)⟩
    · exact ⟨identity, awaits, .inl ((same id identity).mpr (.inr ⟨new, rfl⟩))⟩
  · intro ready
    have empty : closure.requestIds = [] := by
      refine List.eq_nil_iff_forall_not_mem.mpr fun id member => ?_
      have kept := (joins.mem id).mpr (.inl member)
      rw [ready] at kept
      cases kept
    obtain ⟨endpoint, sameInstance, claims⟩ := tracks.claimed empty
    rw [joins.endpoint]
    exact ⟨endpoint, sameInstance, mem_of_wakes quiet rfl claims⟩

/-- A finished request is no longer queued, so no closure loses a request that it needs. -/
theorem Tracks.finish {id : Nat} {key : Key} {connectionInstanceId : Option Nat}
    (tracks : Tracks cache (.finish id key connectionInstanceId :: pending) closure)
    (unqueued : ∀ entry ∈ cache.values, entry.id ≠ id)
    (claims : (closure.finishRequest id).requestIds = [] →
      .completeReadyTcpEndpointClosure closure.endpoint ∈ more) :
    Tracks (cache.finishId id) (more ++ pending) (closure.finishRequest id) := by
  refine ⟨?_, ?_, ?_, tracks.distinct.erase id⟩
  · intro other identity outstanding awaits
    obtain ⟨different, before⟩ : other ≠ id ∧ cache.Outstanding other identity := by
      rcases (outstanding_finishId id other identity).mp outstanding with
        ⟨entry, queued, rfl, rfl⟩ | ⟨different, active⟩
      · exact ⟨unqueued entry queued, .queued queued⟩
      · exact ⟨different, .active active⟩
    exact (List.mem_erase_of_ne different).mpr (tracks.complete other identity before awaits)
  · intro other member
    obtain ⟨different, old⟩ := tracks.distinct.mem_erase_iff.mp member
    obtain ⟨identity, awaits, outstanding | finishing⟩ := tracks.relevant other old
    · refine ⟨identity, awaits, .inl ((outstanding_finishId id other identity).mpr ?_)⟩
      rcases outstanding with ⟨queued⟩ | ⟨active⟩
      · exact .inl ⟨_, queued, rfl, rfl⟩
      · exact .inr ⟨different, active⟩
    · refine ⟨identity, awaits, .inr ?_⟩
      rcases List.mem_cons.mp finishing with same | waiting
      · cases same
        exact absurd rfl different
      · exact List.mem_append_right _ waiting
  · intro ready
    exact ⟨closure.endpoint, rfl, List.mem_append_left _ (claims ready)⟩

end Tracks

/-- A stored closure is of a TCP generation, under whose id it is stored. -/
structure StoredClosure (generations : Generations) (instanceId : Nat)
    (closure : PendingTcpClosure) : Prop where
  under : closure.endpoint.instanceId = instanceId
  tcp : closure.endpoint.key.protocol = .tcp
  generation : generations.OfProtocol instanceId .tcp

structure ClosuresTracked (system : System) (pending : List Task) : Prop where
  sound : system.Sound
  stored : ∀ instanceId closure, system.device.tcpClosureCache[instanceId]? = some closure →
    StoredClosure system.generations instanceId closure
  tracked : ∀ (instanceId : Nat) closure,
    system.device.tcpClosureCache[instanceId]? = some closure →
      Tracks system.device.packetCache pending closure
  bound : ∀ entry ∈ system.device.packetCache.values, ∀ instanceId,
    entry.value.connectionInstanceId = some instanceId →
      system.generations.OfProtocol instanceId entry.value.key.protocol
  -- A UDP clone is detached when its generation ends. A closure never waits for one.
  protocol : ∀ (instanceId : Nat) closure,
    system.device.tcpClosureCache[instanceId]? = some closure →
      ∀ entry ∈ system.device.packetCache.values,
        entry.value.connectionInstanceId = some instanceId → entry.value.key.protocol = .tcp
  finishing : ∀ id key connectionInstanceId, .finish id key connectionInstanceId ∈ pending →
    id ≤ system.issued ∧ ∀ entry ∈ system.device.packetCache.values, entry.id ≠ id
  active : ∀ id ∈ system.device.packetCache.active, ∃ key connectionInstanceId,
    .finish id key connectionInstanceId ∈ pending

section Step

variable (input : Input) {system : System} {task : Task} {pending : List Task}
  (fresh : (task.step input system).2.Fresh) (before : ClosuresTracked system (task :: pending))

include fresh before

theorem ClosuresTracked.bound_step {entry : Entry}
    (member : entry ∈ (task.step input system).2.device.packetCache.values) {instanceId : Nat}
    (bound : entry.value.connectionInstanceId = some instanceId) :
    (task.step input system).2.generations.OfProtocol instanceId entry.value.key.protocol := by
  have earlier := fresh_of_step input system task fresh
  obtain ⟨connections, ends⟩ := ends_step input system task
  refine ends.step.ofProtocol fresh.1 before.sound.generations ?_
  rcases WindowsKext.bound_step input system task member bound with old | ⟨_, _, live⟩
  · exact before.bound entry old instanceId bound
  · exact Generations.Live.ofProtocol before.sound.generations earlier.1
      (live_of_matching before.sound.generations live)

theorem ClosuresTracked.generation_before {instanceId : Nat} {closure : PendingTcpClosure}
    (stored : (task.step input system).2.device.tcpClosureCache[instanceId]? = some closure) :
    StoredClosure system.generations instanceId closure := by
  have earlier := fresh_of_step input system task fresh
  rcases closure_step input system task stored with ⟨old, found, same⟩ | ⟨rfl, tcp, live⟩
  · have known := before.stored instanceId old found
    exact ⟨by rw [same, known.under], by rw [same, known.tcp], known.generation⟩
  · refine ⟨rfl, tcp, ?_⟩
    rw [← tcp]
    exact Generations.Live.ofProtocol before.sound.generations earlier.1
      (live_of_hasLiveInstance before.sound.generations live)

theorem ClosuresTracked.stored_step {instanceId : Nat} {closure : PendingTcpClosure}
    (stored : (task.step input system).2.device.tcpClosureCache[instanceId]? = some closure) :
    StoredClosure (task.step input system).2.generations instanceId closure := by
  obtain ⟨connections, ends⟩ := ends_step input system task
  obtain ⟨under, tcp, generation⟩ := before.generation_before input fresh stored
  exact ⟨under, tcp, ends.step.ofProtocol fresh.1 before.sound.generations generation⟩

theorem ClosuresTracked.protocol_step {instanceId : Nat} {closure : PendingTcpClosure}
    (stored : (task.step input system).2.device.tcpClosureCache[instanceId]? = some closure)
    {entry : Entry} (member : entry ∈ (task.step input system).2.device.packetCache.values)
    (bound : entry.value.connectionInstanceId = some instanceId) :
    entry.value.key.protocol = .tcp := by
  have generation := (before.generation_before input fresh stored).generation
  rcases WindowsKext.bound_step input system task member bound with old | ⟨_, _, live⟩
  · rcases closure_step input system task stored with ⟨earlier, found, _⟩ | ⟨rfl, tcp, live⟩
    · exact before.protocol instanceId earlier found entry old bound
    · rw [← tcp]
      exact (before.bound entry old _ bound).eq_of_live
        (live_of_hasLiveInstance before.sound.generations live)
  · exact (generation.eq_of_live (live_of_matching before.sound.generations live)).symm

end Step

theorem mem_resolveTasks {removed : List Entry} {entry : Entry} (member : entry ∈ removed) :
    .finish entry.id entry.value.key entry.value.connectionInstanceId ∈
      removed.flatMap resolveTasks :=
  List.mem_flatMap.mpr ⟨entry, member, by simp [resolveTasks]⟩

section Tracked

variable (input : Input) {system : System} {pending : List Task}

theorem tracked_retire {instanceIds : List Nat}
    (before : ClosuresTracked system (.retire instanceIds :: pending)) {instanceId : Nat}
    {closure : PendingTcpClosure}
    (stored : system.device.tcpClosureCache[instanceId]? = some closure) :
    Tracks (Task.step input system (.retire instanceIds)).2.device.packetCache
      ((Task.step input system (.retire instanceIds)).1 ++ pending) closure := by
  have retires := retires_retireConnectionInstances before.sound.queue.sorted
    before.sound.queue.indexed (retiredInstances instanceIds).sorted
    (retiredInstances instanceIds).nonzero
  obtain ⟨under, tcp, _⟩ := before.stored instanceId closure stored
  refine (before.tracked instanceId closure stored).of_queue rfl ?_ ?_
  · intro id identity outstanding awaits
    rcases outstanding_of_retires retires outstanding with same | ⟨unbound, owner, bound⟩
    · exact ⟨identity, same, awaits⟩
    · -- The clone is detached. What matches it now is its tuple, which it had before.
      refine ⟨_, bound, ?_⟩
      rw [TcpEndpointConnection.awaits_iff, unbound] at awaits
      rcases awaits with ⟨⟨⟩⟩ | reversed
      exact (TcpEndpointConnection.awaits_iff _ _).mpr (.inr reversed)
  · intro id identity outstanding awaits
    rcases outstanding_retires retires outstanding with
      kept | ⟨entry, removed, rfl, rfl⟩ | ⟨entry, member, rfl, udp⟩
    · exact .inl kept
    · exact .inr (mem_resolveTasks removed)
    · rcases (TcpEndpointConnection.awaits_iff _ _).mp awaits with bound | ⟨_, reversed⟩
      · have clash := before.protocol instanceId closure stored entry member
          (bound.trans (congrArg some under))
        rw [udp] at clash
        cases clash
      · have clash := congrArg Key.protocol reversed
        change entry.value.key.protocol = closure.endpoint.key.protocol at clash
        rw [udp, tcp] at clash
        cases clash

theorem tracked_popAll (before : ClosuresTracked system (.popAll :: pending)) {instanceId : Nat}
    {closure : PendingTcpClosure}
    (stored : system.device.tcpClosureCache[instanceId]? = some closure) :
    Tracks (Task.step input system .popAll).2.device.packetCache
      ((Task.step input system .popAll).1 ++ pending) closure := by
  refine (before.tracked instanceId closure stored).of_queue rfl ?_ ?_
  · intro id identity outstanding awaits
    refine ⟨identity, ?_, awaits⟩
    rcases outstanding with ⟨queued⟩ | ⟨active⟩
    · cases queued
    · exact .active active
  · intro id identity outstanding awaits
    rcases outstanding with ⟨queued⟩ | ⟨active⟩
    · right
      refine List.mem_append_left _ (List.mem_flatMap.mpr ⟨_, queued, ?_⟩)
      simp [resolveTasks, Entry.identity]
    · exact .inl (.active active)

theorem tracks_snapshot (sound : system.Sound) {endpoint : TcpEndpointConnection}
    {closure : PendingTcpClosure} (same : closure.endpoint = endpoint)
    (snapshot : closure.requestIds =
      system.device.packetCache.tcpEndpointRequestIds endpoint.key endpoint.instanceId)
    (waits : closure.requestIds ≠ []) :
    Tracks system.device.packetCache pending closure := by
  subst same
  rw [tcpEndpointRequestIds_eq_scan sound.queue.indexed sound.nonzero] at snapshot
  refine ⟨?_, ?_, fun ready => absurd ready waits, ?_⟩
  · intro id identity outstanding awaits
    rw [snapshot, mem_scanTcpEndpointRequestIds]
    exact ⟨identity, outstanding, awaits⟩
  · intro id member
    rw [snapshot, mem_scanTcpEndpointRequestIds] at member
    obtain ⟨identity, outstanding, awaits⟩ := member
    exact ⟨identity, awaits, .inl outstanding⟩
  · rw [snapshot]
    exact (withoutRepeats_mergeSort _).1.imp Nat.ne_of_lt

/-- A claim takes the closure or finds that it waits again. -/
theorem tracked_completeReady {endpoint : TcpEndpointConnection}
    (before : ClosuresTracked system (.completeReadyTcpEndpointClosure endpoint :: pending))
    {more : List Task} {instanceId : Nat} {closure : PendingTcpClosure}
    (stored : system.device.tcpClosureCache[instanceId]? = some closure)
    (waits : endpoint.instanceId = instanceId → closure.requestIds ≠ []) :
    Tracks system.device.packetCache (more ++ pending) closure := by
  have tracks := before.tracked instanceId closure stored
  refine ⟨tracks.complete, ?_, ?_, tracks.distinct⟩
  · intro id member
    obtain ⟨identity, awaits, outstanding | finishing⟩ := tracks.relevant id member
    · exact ⟨identity, awaits, .inl outstanding⟩
    · refine ⟨identity, awaits, .inr (List.mem_append_right _ ?_)⟩
      exact (List.mem_cons.mp finishing).resolve_left nofun
  · intro ready
    obtain ⟨other, same, claims⟩ := tracks.claimed ready
    refine ⟨other, same, List.mem_append_right _ ?_⟩
    rcases List.mem_cons.mp claims with first | waiting
    · cases first
      exact absurd ready (waits (same.trans (before.stored instanceId closure stored).under))
    · exact waiting

theorem tracked_step {task : Task} (fresh : (task.step input system).2.Fresh)
    (before : ClosuresTracked system (task :: pending)) {instanceId : Nat}
    {closure : PendingTcpClosure}
    (stored : (task.step input system).2.device.tcpClosureCache[instanceId]? = some closure) :
    Tracks (task.step input system).2.device.packetCache
      ((task.step input system).1 ++ pending) closure := by
  cases task with
  | retire instanceIds => exact tracked_retire input before stored
  | popAll => exact tracked_popAll input before stored
  | publish key packet connectionInstanceId processId threadId direction aleLayer =>
      have room := fresh.2
      simp only [Task.step] at stored room ⊢
      have outcome := publishOutcome input.environment system.device key packet
        connectionInstanceId processId threadId direction aleLayer
      generalize system.device.publishPendingPacket input.environment key packet
        connectionInstanceId processId threadId direction aleLayer = published
        at outcome stored room ⊢
      cases outcome with
      | rejected _ bound =>
          exact (before.tracked instanceId closure stored).of_same rfl fun _ _ => Iff.rfl
      | queued processId threadId live push =>
          rw [TcpClosureCache.getElem?_foldl_addRequest] at stored
          obtain ⟨earlier, found, rfl⟩ := Option.map_eq_some_iff.mp stored
          exact @Tracks.join _ _ _ _ _ _ (before.tracked instanceId earlier found) rfl
            ⟨key, connectionInstanceId⟩ _ (outstanding_push before.sound.queue push room)
  | claimVerdict id value =>
      rw [sameClosures_step input system _ rfl] at stored
      have tracks := before.tracked instanceId closure stored
      simp only [Task.step]
      rcases claimVerdict_device system.device id value with ⟨none, same⟩ | ⟨action, claimed⟩
      · rw [same]
        exact tracks.of_same rfl fun _ _ => Iff.rfl
      · rw [claimed]
        exact tracks.of_same rfl (outstanding_popId before.sound.queue id)
  | finish id key connectionInstanceId =>
      simp only [Task.step, Device.finishPendingRequest] at stored ⊢
      have listed := TcpClosureCache.mem_finishRequest _ stored
      rw [TcpClosureCache.getElem?_finishRequest] at stored
      obtain ⟨earlier, found, rfl⟩ := Option.map_eq_some_iff.mp stored
      refine (before.tracked instanceId earlier found).finish
        (before.finishing id key connectionInstanceId List.mem_cons_self).2 ?_
      intro ready
      exact List.mem_map_of_mem (listed ready)
  | deferTcpEndpointClosure endpoint processId =>
      simp only [Task.step] at stored ⊢
      have outcome := closureOutcome system.device input.now endpoint.connection processId
        (input.pendClassify.map fun _ => (pendedClassifications system.effects).length)
      generalize system.device.deferTcpEndpointClosure input.now endpoint.connection processId
        (input.pendClassify.map fun _ => (pendedClassifications system.effects).length) = taken
        at outcome stored ⊢
      have kept (found : system.device.tcpClosureCache[instanceId]? = some closure)
          (more : List Task) : Tracks system.device.packetCache (more ++ pending) closure :=
        (before.tracked instanceId closure found).of_same rfl fun _ _ => Iff.rfl
      cases outcome with
      | deferred live waits classify pended absent =>
          simp only [System.perform, device_recordEnd] at stored ⊢
          rw [Std.TreeMap.getElem?_insert] at stored
          split at stored
          · cases stored
            exact tracks_snapshot before.sound rfl rfl waits
          · exact kept stored _
      | ended =>
          obtain ⟨cache, ended⟩ := endTcpInstance_device system.device input.now
            endpoint.connection
          simp only [System.perform, device_recordEnd, ended] at stored ⊢
          exact kept stored _
      | gone | unpended | duplicate =>
          simp only [System.perform, device_recordEnd] at stored ⊢
          exact kept stored _
  | completeReadyTcpEndpointClosure endpoint =>
      simp only [Task.step, Device.completeReadyTcpEndpointClosure] at stored ⊢
      rcases TcpClosureCache.takeReady_cases system.device.tcpClosureCache endpoint.instanceId with
        ⟨same, waits⟩ | ⟨taken, _, erased⟩
      · rw [same] at stored ⊢
        refine tracked_completeReady before stored ?_
        rintro rfl
        exact waits closure stored
      · rw [erased] at stored ⊢
        obtain ⟨cache, ended⟩ := endTcpInstance_device { system.device with
          tcpClosureCache := Std.TreeMap.erase system.device.tcpClosureCache
            endpoint.instanceId } input.now endpoint
        simp only [device_recordEnd, ended] at stored ⊢
        rw [Std.TreeMap.getElem?_erase] at stored
        split at stored
        · cases stored
        · rename_i other
          refine tracked_completeReady before stored fun same => ?_
          exact absurd (Nat.compare_eq_eq.mpr same) other
  | drainTcpEndpointClosures => simp [Task.step, TcpClosureCache.drain] at stored
  | emitConnectionEnd connection processId =>
      exact (before.tracked instanceId closure stored).of_same rfl fun _ _ => Iff.rfl
  | _ =>
      rw [sameClosures_step input system _ rfl] at stored
      rw [(sameQueues_step input system _ rfl).requests]
      exact (before.tracked instanceId closure stored).of_same rfl fun _ _ => Iff.rfl

end Tracked

section Finishing

variable (input : Input) {system : System} {task : Task} {pending : List Task}

theorem id_step (fresh : (task.step input system).2.Fresh) (sound : system.Sound) {entry : Entry}
    (member : entry ∈ (task.step input system).2.device.packetCache.values) :
    (∃ earlier ∈ system.device.packetCache.values, earlier.id = entry.id) ∨
      system.issued < entry.id := by
  have room := fresh.2
  cases queueStep_step input system task with
  | same cache issued =>
      rw [cache] at member
      exact .inl ⟨entry, member, rfl⟩
  | operation operation live cache issued =>
      rw [cache] at member
      rw [issued] at room
      cases operation with
      | push key packet connectionInstanceId processId threadId direction aleLayer =>
          rcases mem_push member with old | ⟨new, _⟩
          · exact .inl ⟨entry, old, rfl⟩
          · exact .inr (issued_lt_of_push sound.queue rfl room new)
      | popId id =>
          left
          simp only [IdCacheRun.step, IdCache.popId] at member
          split at member
          · exact ⟨entry, member, rfl⟩
          · exact ⟨entry, List.mem_of_mem_eraseP member, rfl⟩
      | finishId id => exact .inl ⟨entry, member, rfl⟩
      | retireConnectionInstances instances =>
          left
          rcases detaches_retireConnectionInstances _ entry member with
            old | ⟨original, stored, same, _⟩
          · exact ⟨entry, old, rfl⟩
          · exact ⟨original, stored, same.symm⟩
      | popAll => cases member

def Task.resolves : Task → Bool
  | .retire _ | .claimVerdict .. | .popAll => true
  | _ => false

theorem not_finish_of_mem_endTasks {ended : List EndedConnection} {processId : Nat}
    {follower : Task} (member : follower ∈ endTasks ended processId) (id : Nat) (key : Key)
    (connectionInstanceId : Option Nat) : follower ≠ .finish id key connectionInstanceId := by
  rintro rfl
  simp [endTasks] at member

theorem not_finish_step (system : System) (other : task.resolves = false) {follower : Task}
    (member : follower ∈ (task.step input system).1) (id : Nat) (key : Key)
    (connectionInstanceId : Option Nat) : follower ≠ .finish id key connectionInstanceId := by
  rintro rfl
  cases task with
  | retire | claimVerdict | popAll => cases other
  | mapV4 | mapV6 => exact not_finish_of_mem_endTasks member _ _ _ rfl
  | savePacket request =>
      simp only [Task.step] at member
      split at member
      · cases pended : input.pendOperation <;> simp [pended] at member
      · simp at member
  | registerAleConnection request packet =>
      simp only [Task.step] at member
      split at member <;> simp at member
  | deferTcpEndpointClosure endpoint processId =>
      simp only [Task.step] at member
      split at member
      · exact not_finish_of_mem_endTasks member _ _ _ rfl
      · simp at member
  | endTcpConnection => exact not_finish_of_mem_endTasks member _ _ _ rfl
  | completeReadyTcpEndpointClosure endpoint =>
      simp only [Task.step] at member
      split at member
      · cases member
      · rcases List.mem_append.mp member with ends | completes
        · exact not_finish_of_mem_endTasks ends _ _ _ rfl
        · simp at completes
  | _ => simp [Task.step] at member

theorem finish_step (sound : system.Sound) {id : Nat} {key : Key}
    {connectionInstanceId : Option Nat}
    (follows : .finish id key connectionInstanceId ∈ (task.step input system).1) :
    (∃ entry ∈ system.device.packetCache.values, entry.id = id) ∧
      ∀ entry ∈ (task.step input system).2.device.packetCache.values, entry.id ≠ id := by
  cases task with
  | retire instanceIds =>
      have retires := retires_retireConnectionInstances sound.queue.sorted sound.queue.indexed
        (retiredInstances instanceIds).sorted (retiredInstances instanceIds).nonzero
      obtain ⟨entry, removed, inTasks⟩ := List.mem_flatMap.mp follows
      simp only [resolveTasks, List.mem_cons, reduceCtorEq, Task.finish.injEq, List.not_mem_nil,
        or_false, false_or] at inTasks
      obtain ⟨rfl, -, -⟩ := inTasks
      have distinct := retires.perm.nodup_iff.mpr sound.queue.distinct
      refine ⟨⟨entry, ?_, rfl⟩, ?_⟩
      · have original : entry ∈ system.device.packetCache.values.filter _ :=
          retires.removed ▸ removed
        exact (List.mem_filter.mp original).1
      · intro left kept
        exact (List.nodup_append.mp distinct).2.2 _ (List.mem_map_of_mem kept) _
          (List.mem_map_of_mem removed)
  | claimVerdict claimed value =>
      simp only [Task.step] at follows ⊢
      rcases claimVerdict_device system.device claimed value with ⟨none, same⟩ | ⟨action, taken⟩
      · rw [none] at follows
        cases follows
      · rw [taken] at follows ⊢
        by_cases present : ∃ entry ∈ system.device.packetCache.values, entry.id = claimed
        · obtain ⟨entry, member, rfl⟩ := present
          rw [popId_of_mem sound.queue member] at follows ⊢
          simp only [Option.map_some, Option.toList_some, List.flatMap_singleton, List.mem_cons,
            reduceCtorEq, Task.finish.injEq, List.not_mem_nil, or_false, false_or] at follows
          obtain ⟨rfl, -, -⟩ := follows
          refine ⟨⟨entry, member, rfl⟩, fun other kept => ?_⟩
          simpa using (List.mem_filter.mp kept).2
        · rw [popId_of_absent fun entry member same => present ⟨entry, member, same⟩] at follows
          cases follows
  | popAll =>
      simp only [Task.step, List.mem_append, List.mem_singleton, reduceCtorEq, or_false]
        at follows ⊢
      obtain ⟨entry, member, inTasks⟩ := List.mem_flatMap.mp follows
      simp only [blockTasks, resolveTasks, List.mem_append, List.mem_map, reduceCtorEq, and_false,
        exists_false, List.mem_cons, Task.finish.injEq, List.not_mem_nil, or_false,
        false_or] at inTasks
      obtain ⟨rfl, -, -⟩ := inTasks
      refine ⟨⟨entry, member, rfl⟩, ?_⟩
      simp [IdCache.popAll]
  | _ => exact absurd rfl (not_finish_step input system rfl follows id key connectionInstanceId)

def Task.finished : Task → Option Nat
  | .finish id _ _ => some id
  | _ => none

theorem active_step (fresh : (task.step input system).2.Fresh) (sound : system.Sound) {id : Nat}
    (member : id ∈ (task.step input system).2.device.packetCache.active) :
    (id ∈ system.device.packetCache.active ∧ task.finished ≠ some id) ∨
      ∃ key connectionInstanceId,
        .finish id key connectionInstanceId ∈ (task.step input system).1 := by
  have unfinished : none ≠ some id := (Option.some_ne_none id).symm
  cases task with
  | publish key packet connectionInstanceId processId threadId direction aleLayer =>
      refine .inl ⟨?_, unfinished⟩
      have room := fresh.2
      simp only [Task.step] at member room
      have outcome := publishOutcome input.environment system.device key packet
        connectionInstanceId processId threadId direction aleLayer
      generalize system.device.publishPendingPacket input.environment key packet
        connectionInstanceId processId threadId direction aleLayer = published
        at outcome member room
      cases outcome with
      | rejected _ bound => exact member
      | queued processId threadId live push =>
          rwa [active_push sound.queue push room] at member
  | retire instanceIds =>
      refine .inl ⟨?_, unfinished⟩
      have retires := retires_retireConnectionInstances sound.queue.sorted sound.queue.indexed
        (retiredInstances instanceIds).sorted (retiredInstances instanceIds).nonzero
      exact retires.active ▸ member
  | claimVerdict claimed value =>
      simp only [Task.step] at member ⊢
      rcases claimVerdict_device system.device claimed value with ⟨none, same⟩ | ⟨action, taken⟩
      · rw [same] at member
        exact .inl ⟨member, unfinished⟩
      · rw [taken] at member ⊢
        by_cases present : ∃ entry ∈ system.device.packetCache.values, entry.id = claimed
        · obtain ⟨entry, queued, rfl⟩ := present
          rw [popId_of_mem sound.queue queued] at member ⊢
          rcases Std.TreeMap.mem_insert.mp member with same | old
          · rw [Nat.compare_eq_eq] at same
            subst same
            exact .inr ⟨entry.value.key, entry.value.connectionInstanceId, by simp⟩
          · exact .inl ⟨old, unfinished⟩
        · rw [popId_of_absent fun entry queued same => present ⟨entry, queued, same⟩] at member
          exact .inl ⟨member, unfinished⟩
  | finish finished key connectionInstanceId =>
      obtain ⟨different, old⟩ := Std.TreeMap.mem_erase.mp member
      refine .inl ⟨old, fun same => different ?_⟩
      exact Nat.compare_eq_eq.mpr (Option.some.inj same)
  | popAll => exact .inl ⟨member, unfinished⟩
  | emitConnectionEnd => exact .inl ⟨member, unfinished⟩
  | _ =>
      rw [(sameQueues_step input system _ rfl).requests] at member
      exact .inl ⟨member, unfinished⟩

end Finishing

theorem closuresTracked_step (input : Input) (system : System) (task : Task)
    (pending : List Task) (fresh : (task.step input system).2.Fresh)
    (before : ClosuresTracked system (task :: pending)) :
    ClosuresTracked (task.step input system).2 ((task.step input system).1 ++ pending) where
  sound := before.sound.step input fresh
  stored _ _ stored := before.stored_step input fresh stored
  tracked _ _ stored := tracked_step input fresh before stored
  bound _ member _ bound := before.bound_step input fresh member bound
  protocol _ _ stored _ member bound := before.protocol_step input fresh stored member bound
  finishing := by
    have grows := issued_step input system task
    intro id key connectionInstanceId member
    rcases List.mem_append.mp member with follows | waiting
    · obtain ⟨⟨entry, queued, rfl⟩, gone⟩ := finish_step input before.sound follows
      exact ⟨Nat.le_trans (before.sound.queue.range entry queued).2 grows, gone⟩
    · obtain ⟨known, unqueued⟩ := before.finishing id key connectionInstanceId
        (List.mem_cons_of_mem _ waiting)
      refine ⟨Nat.le_trans known grows, ?_⟩
      rintro entry queued rfl
      rcases id_step input fresh before.sound queued with ⟨earlier, stored, same⟩ | new
      · exact unqueued earlier stored same
      · omega
  active := by
    intro id member
    rcases active_step input fresh before.sound member with ⟨old, other⟩ | ⟨key, owner, follows⟩
    · obtain ⟨key, owner, finishing⟩ := before.active id old
      refine ⟨key, owner, List.mem_append_right _ ?_⟩
      refine (List.mem_cons.mp finishing).resolve_left ?_
      rintro rfl
      exact other rfl
    · exact ⟨key, owner, List.mem_append_left _ follows⟩

theorem ClosuresTracked.mono {system : System} {pending others : List Task}
    (before : ClosuresTracked system pending) (kept : ∀ task ∈ pending, task ∈ others)
    (finishes : ∀ id key connectionInstanceId, .finish id key connectionInstanceId ∈ others →
      .finish id key connectionInstanceId ∈ pending) :
    ClosuresTracked system others where
  sound := before.sound
  stored := before.stored
  tracked := by
    intro instanceId closure stored
    obtain ⟨complete, relevant, claimed, distinct⟩ := before.tracked instanceId closure stored
    refine ⟨complete, ?_, ?_, distinct⟩
    · intro id member
      obtain ⟨identity, awaits, state⟩ := relevant id member
      exact ⟨identity, awaits, state.imp_right (kept _)⟩
    · intro ready
      obtain ⟨endpoint, same, claims⟩ := claimed ready
      exact ⟨endpoint, same, kept _ claims⟩
  bound := before.bound
  protocol := before.protocol
  finishing id key connectionInstanceId member :=
    before.finishing id key connectionInstanceId (finishes id key connectionInstanceId member)
  active := by
    intro id member
    obtain ⟨key, connectionInstanceId, finishing⟩ := before.active id member
    exact ⟨key, connectionInstanceId, kept _ finishing⟩

theorem closuresTracked_start (system : System) (pending : List Task) (call : Call)
    (before : ClosuresTracked system pending) :
    ClosuresTracked system (call.tasks ++ pending) := by
  refine before.mono (fun _ => List.mem_append_right _) ?_
  intro id key connectionInstanceId member
  refine (List.mem_append.mp member).resolve_left ?_
  cases call <;> simp [Call.tasks]

theorem closuresTracked_new : ClosuresTracked System.new [] where
  sound := System.sound_new
  stored := by simp [System.new, Device.new]
  tracked := by simp [System.new, Device.new]
  bound := by simp [System.new, Device.new, IdCache.new]
  protocol := by simp [System.new, Device.new]
  finishing := by simp
  active := by simp [System.new, Device.new, IdCache.new]

theorem closuresTracked_runDriver (choices : List (Choice Call Input))
    (fresh : (runDriver choices).shared.Fresh) :
    ClosuresTracked (runDriver choices).shared (runDriver choices).pending := by
  refine driver.run_invariant System.Fresh fresh_of_step ?_ closuresTracked_start
    closuresTracked_step closuresTracked_new choices fresh
  intro system tasks others same before
  exact before.mono (fun _ => same.mem_iff.mp) fun _ _ _ => same.mem_iff.mpr

section Settled

variable {system : System} {pending : List Task} (tracked : ClosuresTracked system pending)

include tracked

/-- A closure waits for an outstanding or a removed request, or for the thread that claims it. -/
theorem ClosuresTracked.closure_absent
    (settled : ∀ id identity, ¬ system.device.packetCache.Outstanding id identity)
    (finished : ∀ id key connectionInstanceId, .finish id key connectionInstanceId ∉ pending)
    (claimed : ∀ endpoint, .completeReadyTcpEndpointClosure endpoint ∉ pending)
    (instanceId : Nat) : system.device.tcpClosureCache[instanceId]? = none := by
  cases stored : system.device.tcpClosureCache[instanceId]? with
  | none => rfl
  | some closure =>
      have tracks := tracked.tracked instanceId closure stored
      cases waits : closure.requestIds with
      | nil =>
          obtain ⟨endpoint, _, claims⟩ := tracks.claimed waits
          exact absurd claims (claimed endpoint)
      | cons id rest =>
          obtain ⟨identity, _, outstanding | finishing⟩ := tracks.relevant id (by simp [waits])
          · exact absurd outstanding (settled id identity)
          · exact absurd finishing (finished _ _ _)

theorem ClosuresTracked.not_outstanding (idle : pending = [])
    (empty : system.device.packetCache.values = []) (id : Nat) (identity : PendingIdentity) :
    ¬ system.device.packetCache.Outstanding id identity := by
  rintro (⟨queued⟩ | ⟨active⟩)
  · rw [empty] at queued
    cases queued
  · have member : id ∈ system.device.packetCache.active := by
      rw [Std.TreeMap.mem_iff_isSome_getElem?, active]
      rfl
    obtain ⟨_, _, finishing⟩ := tracked.active id member
    rw [idle] at finishing
    cases finishing

end Settled

/-- The endpoint closures in one state of a run, with the ids of the requests they wait for and
their classifications. -/
structure ClosuresExact (state : State System Task) : Prop where
  complete : ∀ (instanceId : Nat) closure,
    state.shared.device.tcpClosureCache[instanceId]? = some closure → ∀ id identity,
      state.shared.device.packetCache.Outstanding id identity →
        closure.endpoint.Awaits identity → id ∈ closure.requestIds
  relevant : ∀ (instanceId : Nat) closure,
    state.shared.device.tcpClosureCache[instanceId]? = some closure →
      ∀ id ∈ closure.requestIds, ∃ identity, closure.endpoint.Awaits identity ∧
        (state.shared.device.packetCache.Outstanding id identity ∨
          .finish id identity.key identity.connectionInstanceId ∈ state.pending)
  claimed : ∀ (instanceId : Nat) closure,
    state.shared.device.tcpClosureCache[instanceId]? = some closure → closure.requestIds = [] →
      ∃ endpoint, endpoint.instanceId = instanceId ∧
        .completeReadyTcpEndpointClosure endpoint ∈ state.pending
  absent : (∀ id identity, ¬ state.shared.device.packetCache.Outstanding id identity) →
    (∀ id key connectionInstanceId, .finish id key connectionInstanceId ∉ state.pending) →
    (∀ endpoint, .completeReadyTcpEndpointClosure endpoint ∉ state.pending) →
      ∀ instanceId : Nat, state.shared.device.tcpClosureCache[instanceId]? = none
  completedOnce : (completedClassifications state.shared.effects).Nodup
  obtained : ∀ classify ∈ completedClassifications state.shared.effects,
    classify ∈ pendedClassifications state.shared.effects
  kept : ∀ classify ∈ pendedClassifications state.shared.effects,
    classify ∈ completedClassifications state.shared.effects ∨
      .completeClassify classify ∈ state.pending ∨
      ∃ (instanceId : Nat) (closure : PendingTcpClosure),
        state.shared.device.tcpClosureCache[instanceId]? = some closure ∧
          closure.classify = classify
  -- No thread has anything left to do, and no request is queued.
  completed : state.pending = [] → state.shared.device.packetCache.values = [] →
    ∀ classify ∈ pendedClassifications state.shared.effects,
      classify ∈ completedClassifications state.shared.effects
  snapshot : ∀ key instanceId,
    state.shared.device.packetCache.tcpEndpointRequestIds key instanceId =
      state.shared.device.packetCache.scanTcpEndpointRequestIds key instanceId

theorem classification_kept (choices : List (Choice Call Input)) {classify : Nat}
    (pended : classify ∈ pendedClassifications (runDriver choices).shared.effects) :
    classify ∈ completedClassifications (runDriver choices).shared.effects ∨
      .completeClassify classify ∈ (runDriver choices).pending ∨
      ∃ (instanceId : Nat) (closure : PendingTcpClosure),
        (runDriver choices).shared.device.tcpClosureCache[instanceId]? = some closure ∧
          closure.classify = classify := by
  have conserved := (classifyPends_runDriver choices).conserved
  rcases List.mem_append.mp (conserved.mem_iff.mpr pended) with held | carried
  · rcases List.mem_append.mp held with stored | completed
    · obtain ⟨⟨instanceId, closure⟩, member, same⟩ := List.mem_map.mp stored
      exact .inr (.inr ⟨instanceId, closure,
        Std.TreeMap.mem_toList_iff_getElem?_eq_some.mp member, same⟩)
    · exact .inl completed
  · obtain ⟨task, member, carries⟩ := List.mem_flatMap.mp carried
    right
    left
    cases task with
    | completeClassify other =>
        rw [List.mem_singleton.mp carries]
        exact member
    | _ => cases carries

/-- In every interleaving of publications, verdicts, retirements, closures and drains, endpoint
closures wait for exactly the requests of their flow, none is lost, and each classification is
completed once. -/
theorem tcpEndpointClosures_exact (choices : List (Choice Call Input))
    (fresh : (runDriver choices).shared.Fresh) : ClosuresExact (runDriver choices) := by
  have tracked := closuresTracked_runDriver choices fresh
  have accounted := classifyPends_runDriver choices
  constructor
  · intro instanceId closure stored
    exact (tracked.tracked instanceId closure stored).complete
  · intro instanceId closure stored
    exact (tracked.tracked instanceId closure stored).relevant
  · intro instanceId closure stored ready
    rw [← (tracked.stored instanceId closure stored).under]
    exact (tracked.tracked instanceId closure stored).claimed ready
  · exact tracked.closure_absent
  · have held := (List.nodup_append.mp accounted.nodup).1
    exact (List.nodup_append.mp held).2.1
  · intro classify completed
    refine accounted.conserved.mem_iff.mp ?_
    exact List.mem_append_left _ (List.mem_append_right _ completed)
  · exact fun classify pended => classification_kept choices pended
  · intro idle empty classify pended
    rcases classification_kept choices pended with completed | waiting | ⟨instanceId, _, stored, _⟩
    · exact completed
    · rw [idle] at waiting
      cases waiting
    · have absent := tracked.closure_absent (tracked.not_outstanding idle empty) (by simp [idle])
        (by simp [idle]) instanceId
      rw [stored] at absent
      cases absent
  · intro key instanceId
    exact tcpEndpointRequestIds_eq_scan tracked.sound.queue.indexed tracked.sound.nonzero key
      instanceId

def browserEndpoint : TcpEndpoint where
  connection := {
    key := {
      protocol := .tcp
      localAddress := .ipv4 (Ipv4Address.new 10 0 0 1)
      localPort := 50000
      remoteAddress := .ipv4 (Ipv4Address.new 1 1 1 1)
      remotePort := 443 }
    parentEndpointHandle := none
    instanceId := 1 }
  tcp := rfl

def browserRequest : AleRequest where
  key := browserEndpoint.connection.key
  packetList := none
  processId := 8
  threadId := 0
  connectionDirection := .outbound
  packetDirection := .outbound
  reauthorize := false

/-- A connection is authorized and its endpoint closes while the request is queued. The verdict
then releases the closure. -/
def closedEndpoint : List (Choice Call Input) :=
  [.start (.aleAuthorize browserRequest), .start (.closeTcpEndpoint browserEndpoint 8),
    .start (.verdict 1 2)] ++
  [0, 0, 0, 1, 1, 2, 2, 2, 2, 2, 2, 2].map fun thread => .advance thread (scenarioInput 1)

theorem tcpEndpointClosures_exact_closedEndpoint :
    (runDriver closedEndpoint).shared.Fresh ∧
      pendedClassifications (runDriver closedEndpoint).shared.effects = [0] ∧
      0 ∈ completedClassifications (runDriver closedEndpoint).shared.effects := by
  have inserted : (runDriver closedEndpoint).shared.generations.inserted = [1] := by
    decide +kernel
  have issued : (runDriver closedEndpoint).shared.issued = 1 := by decide +kernel
  have fresh : (runDriver closedEndpoint).shared.Fresh := by
    refine ⟨?_, ?_⟩
    · rw [inserted]
      decide
    · rw [issued]
      decide
  have idle : (runDriver closedEndpoint).pending.length = 0 := by decide +kernel
  have empty : (runDriver closedEndpoint).shared.device.packetCache.values.length = 0 := by
    decide +kernel
  have pended : pendedClassifications (runDriver closedEndpoint).shared.effects = [0] := by
    decide +kernel
  refine ⟨fresh, pended, ?_⟩
  refine (tcpEndpointClosures_exact closedEndpoint fresh).completed
    (List.eq_nil_of_length_eq_zero idle) (List.eq_nil_of_length_eq_zero empty) 0 ?_
  simp [pended]

end WindowsKext
