import WindowsKext.DeviceThreadsChecks
import WindowsKext.IdCacheRuns

/-! The request queue while the threads of the driver run. A task leaves it alone or does one of
its operations, and a request is bound to a generation only while that generation is live. -/

namespace WindowsKext

open Interleaving

def System.queue (system : System) : IdCacheRun where
  cache := system.device.packetCache
  issued := system.issued
  handedOut := []

theorem withoutRepeats_mergeSort (ids : List Nat) :
    (withoutRepeats none ids.mergeSort).Pairwise (· < ·) ∧
      ∀ id, id ∈ withoutRepeats none ids.mergeSort ↔ id ∈ ids := by
  have sorted : ids.mergeSort.Pairwise (· ≤ ·) :=
    (List.pairwise_mergeSort (by simp; omega) (by simp; omega) ids).imp of_decide_eq_true
  obtain ⟨increasing, members⟩ := withoutRepeats_sorted sorted
  exact ⟨increasing, fun id => by rw [members, List.mem_mergeSort]⟩

def retiredInstances (instanceIds : List Nat) : SortedInstances where
  ids := withoutRepeats none (instanceIds.filter fun instanceId => instanceId != 0).mergeSort
  sorted := (withoutRepeats_mergeSort _).1.imp Nat.le_of_lt
  nonzero := by
    intro zero
    rw [(withoutRepeats_mergeSort _).2, List.mem_filter] at zero
    simp at zero

theorem mem_retiredInstances {instanceIds : List Nat} {instanceId : Nat} (nonzero : instanceId ≠ 0)
    (member : instanceId ∈ instanceIds) : instanceId ∈ (retiredInstances instanceIds).ids := by
  rw [retiredInstances, (withoutRepeats_mergeSort _).2, List.mem_filter]
  exact ⟨member, by simpa using nonzero⟩

def Task.usesQueues : Task → Bool
  | .publish .. | .retire _ | .emitConnectionEnd .. | .claimVerdict .. | .finish .. | .popAll => true
  | _ => false

structure SameQueues (before after : System) : Prop where
  requests : after.device.packetCache = before.device.packetCache
  events : after.device.eventQueue = before.device.eventQueue
  issued : after.issued = before.issued

theorem sameQueues_step (input : Input) (system : System) (task : Task)
    (other : task.usesQueues = false) : SameQueues system (task.step input system).2 := by
  cases task with
  | mapV4 op processId | mapV6 op processId | endFamilies opV4 opV6 processId
  | endFamilyV6 endedV4 opV6 processId | discard packet | block key instanceId
  | completeClassify classify | drainTcpEndpointClosures => exact ⟨rfl, rfl, rfl⟩
  | publish | retire | emitConnectionEnd | claimVerdict | finish | popAll => cases other
  | savePacket request =>
      simp only [Task.step]
      split
      · cases input.pendOperation <;> exact ⟨rfl, rfl, rfl⟩
      · exact ⟨rfl, rfl, rfl⟩
  | registerAleConnection request packet =>
      simp only [Task.step]
      split
      · exact ⟨rfl, rfl, rfl⟩
      · constructor <;> simp
  | applyVerdict pending action =>
      simp only [Task.step, System.perform, applyVerdict_device]
      cases pending.connectionInstanceId <;> exact ⟨rfl, rfl, rfl⟩
  | deferTcpEndpointClosure endpoint processId =>
      simp only [Task.step]
      have outcome := closureOutcome system.device input.now endpoint.connection processId
        (input.pendClassify.map fun _ => (pendedClassifications system.effects).length)
      generalize system.device.deferTcpEndpointClosure input.now endpoint.connection processId
        (input.pendClassify.map fun _ => (pendedClassifications system.effects).length) = taken
        at outcome
      obtain ⟨cache, ended⟩ := endTcpInstance_device system.device input.now endpoint.connection
      cases outcome <;> constructor <;> simp [System.perform, ended]
  | endTcpConnection endpoint processId =>
      obtain ⟨cache, ended⟩ := endTcpInstance_device system.device input.now endpoint
      constructor <;> simp [Task.step, ended]
  | completeReadyTcpEndpointClosure endpoint =>
      simp only [Task.step, Device.completeReadyTcpEndpointClosure]
      cases taken : system.device.tcpClosureCache.takeReady endpoint.instanceId with
      | mk ready closures =>
          cases ready with
          | none => exact ⟨rfl, rfl, rfl⟩
          | some closure =>
              obtain ⟨cache, ended⟩ := endTcpInstance_device
                { system.device with tcpClosureCache := closures } input.now endpoint
              constructor <;> simp [ended]

def IdCacheOp.BindsLive (system : System) : IdCacheOp → Prop
  | .push key _ (some instanceId) _ _ _ _ => ∃ ignoreSpecialPorts threadId,
      system.device.connectionCache.liveConnectionInstanceMatching ignoreSpecialPorts key
        instanceId = some threadId
  | _ => True

inductive QueueStep (before : System) (after : System) : Prop where
  | same (cache : after.device.packetCache = before.device.packetCache)
      (issued : after.issued = before.issued)
  | operation (operation : IdCacheOp) (live : operation.BindsLive before)
      (cache : after.device.packetCache = (before.queue.step operation).cache)
      (issued : after.issued = (before.queue.step operation).issued)

theorem QueueStep.of_sameQueues {before after : System} (same : SameQueues before after) :
    QueueStep before after :=
  .same same.requests same.issued

theorem queueStep_step (input : Input) (system : System) (task : Task) :
    QueueStep system (task.step input system).2 := by
  cases task with
  | emitConnectionEnd connection processId => exact .same rfl rfl
  | retire instanceIds =>
      exact .operation (.retireConnectionInstances (retiredInstances instanceIds)) trivial rfl rfl
  | publish key packet connectionInstanceId processId threadId direction aleLayer =>
      simp only [Task.step]
      have outcome := publishOutcome input.environment system.device key packet
        connectionInstanceId processId threadId direction aleLayer
      generalize system.device.publishPendingPacket input.environment key packet
        connectionInstanceId processId threadId direction aleLayer = published at outcome
      cases outcome with
      | rejected instanceId bound => exact .same rfl rfl
      | queued processId threadId live push =>
          subst push
          refine .operation (.push key packet connectionInstanceId processId threadId direction
            aleLayer) ?_ rfl rfl
          cases connectionInstanceId with
          | none => trivial
          | some instanceId => exact ⟨_, live instanceId rfl⟩
  | claimVerdict id value =>
      simp only [Task.step]
      rcases claimVerdict_device system.device id value with ⟨none, same⟩ | ⟨action, claimed⟩
      · rw [same]
        exact .same rfl rfl
      · rw [claimed]
        exact .operation (.popId id) trivial rfl rfl
  | finish id key connectionInstanceId => exact .operation (.finishId id) trivial rfl rfl
  | popAll => exact .operation .popAll trivial rfl rfl
  | _ => exact QueueStep.of_sameQueues (sameQueues_step input system _ rfl)

/-- Instance ids are unique, and fewer than 2^64 request ids were issued. -/
def System.Fresh (system : System) : Prop :=
  system.generations.inserted.Nodup ∧ system.issued < 2 ^ 64

theorem issued_step (input : Input) (system : System) (task : Task) :
    system.issued ≤ (task.step input system).2.issued := by
  cases queueStep_step input system task with
  | same cache issued => exact Nat.le_of_eq issued.symm
  | operation operation live cache issued =>
      rw [issued]
      exact issued_le_step system.queue operation

theorem fresh_of_step (input : Input) (system : System) (task : Task)
    (fresh : (task.step input system).2.Fresh) : system.Fresh := by
  obtain ⟨connections, ends⟩ := ends_step input system task
  exact ⟨fresh.1.sublist ends.step.inserted_sublist,
    Nat.lt_of_le_of_lt (issued_step input system task) fresh.2⟩

theorem queueInvariant_step (input : Input) (system : System) (task : Task)
    (fresh : (task.step input system).2.Fresh)
    (invariant : QueueInvariant system.device.packetCache system.issued) :
    QueueInvariant (task.step input system).2.device.packetCache
      (task.step input system).2.issued := by
  have room := fresh.2
  cases queueStep_step input system task with
  | same cache issued => rwa [cache, issued]
  | operation operation live cache issued =>
      rw [issued] at room
      rw [cache, issued]
      exact @QueueInvariant.step system.queue invariant operation room

/-- After a step a request is bound to a generation that it was bound to before, or that was live
when the request was published. -/
theorem bound_step (input : Input) (system : System) (task : Task) {entry : Entry}
    (member : entry ∈ (task.step input system).2.device.packetCache.values) {instanceId : Nat}
    (bound : entry.value.connectionInstanceId = some instanceId) :
    entry ∈ system.device.packetCache.values ∨
      ∃ ignoreSpecialPorts threadId,
        system.device.connectionCache.liveConnectionInstanceMatching ignoreSpecialPorts
          entry.value.key instanceId = some threadId := by
  cases queueStep_step input system task with
  | same cache issued => exact .inl (cache ▸ member)
  | operation operation live cache issued =>
      rw [cache] at member
      cases operation with
      | push key packet connectionInstanceId processId threadId direction aleLayer =>
          rcases mem_push member with old | ⟨_, sameKey, sameInstance⟩
          · exact .inl old
          · rw [bound] at sameInstance
            subst sameInstance
            rw [sameKey]
            exact .inr live
      | popId id =>
          left
          simp only [IdCacheRun.step, IdCache.popId] at member
          split at member
          · exact member
          · exact List.mem_of_mem_eraseP member
      | finishId id => exact .inl member
      | retireConnectionInstances instances =>
          rcases detaches_retireConnectionInstances _ entry member with old | ⟨_, _, _, _, none, _⟩
          · exact .inl old
          · rw [none] at bound
            cases bound
      | popAll => cases member

def Unbound (system : System) (instanceId : Nat) : Prop :=
  ∀ entry ∈ system.device.packetCache.values,
    entry.value.connectionInstanceId ≠ some instanceId

structure System.Sound (system : System) : Prop where
  generations : system.generations.Sound
  queue : QueueInvariant system.device.packetCache system.issued
  nonzero : Unbound system 0

theorem System.Sound.step (input : Input) {system : System} {task : Task}
    (fresh : (task.step input system).2.Fresh) (sound : system.Sound) :
    (task.step input system).2.Sound := by
  obtain ⟨connections, ends⟩ := ends_step input system task
  constructor
  · exact ends.step.sound fresh.1 sound.generations
  · exact queueInvariant_step input system task fresh sound.queue
  · intro entry member bound
    rcases bound_step input system task member bound with old | ⟨_, _, live⟩
    · exact sound.nonzero entry old bound
    · exact liveConnectionInstanceMatching_nonzero live rfl

theorem follows_new {A : Type} [AddressFamily A] [DecidableEq A] :
    Follows (A := A) ⟨ConnectionMap.new, [], []⟩ :=
  ⟨[], ConnectionMap.represents_empty, List.Pairwise.nil, List.Sublist.refl _, List.nodup_nil,
    by simp⟩

theorem System.sound_new : System.new.Sound where
  generations := ⟨follows_new, follows_new⟩
  queue := QueueInvariant.new
  nonzero := by simp [Unbound, System.new, Device.new, IdCache.new]

end WindowsKext
