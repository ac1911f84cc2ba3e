import WindowsKext.DeviceThreadsQueue

/-! The order of request and end records. A publication holds the read guard of the map until its
record is pushed, and an end is recorded only after the write guard was held, so in every
interleaving the records of a generation end with its one end record. -/

namespace WindowsKext

open Interleaving

/-- The later record is no request of a generation whose end the earlier one records. -/
def RequestsBeforeEnd (earlier later : Event) : Prop :=
  ∀ record instanceId, earlier = .connectionEnd record instanceId →
    ∀ request, later ≠ .request request (some instanceId)

/-- What a task pushes: requests of live generations, or an end record. -/
structure EventStep (before after : System) : Prop where
  pushed : ∃ events, after.device.eventQueue = before.device.eventQueue ++ events ∧
    events.Pairwise RequestsBeforeEnd ∧
    ∀ request instanceId, .request request (some instanceId) ∈ events →
      ∃ ignoreSpecialPorts key threadId,
        before.device.connectionCache.liveConnectionInstanceMatching ignoreSpecialPorts key
          instanceId = some threadId

theorem EventStep.of_nothing {before after : System}
    (same : after.device.eventQueue = before.device.eventQueue) : EventStep before after :=
  ⟨[], by rw [same, List.append_nil], List.Pairwise.nil, by simp⟩

theorem EventStep.of_sameQueues {before after : System} (same : SameQueues before after) :
    EventStep before after :=
  EventStep.of_nothing same.events

theorem eventStep_step (input : Input) (system : System) (task : Task) :
    EventStep system (task.step input system).2 := by
  cases task with
  | emitConnectionEnd connection processId =>
      exact ⟨_, rfl, List.pairwise_singleton _ _, by simp⟩
  | publish key packet connectionInstanceId processId threadId direction aleLayer =>
      simp only [Task.step]
      have outcome := publishOutcome input.environment system.device key packet
        connectionInstanceId processId threadId direction aleLayer
      generalize system.device.publishPendingPacket input.environment key packet
        connectionInstanceId processId threadId direction aleLayer = published at outcome
      cases outcome with
      | rejected instanceId bound => exact EventStep.of_nothing rfl
      | queued processId threadId live push =>
          refine ⟨_, rfl, ?_, ?_⟩
          · rw [List.pairwise_map]
            refine List.pairwise_of_forall fun _ _ => ?_
            rintro record instanceId ⟨⟩
          · intro request instanceId member
            obtain ⟨_, _, same⟩ := List.mem_map.mp member
            cases same
            obtain ⟨thread, found⟩ := live instanceId rfl
            exact ⟨_, _, thread, found⟩
  | retire instanceIds | finish id key connectionInstanceId | popAll =>
      exact EventStep.of_nothing rfl
  | claimVerdict id value =>
      refine EventStep.of_nothing ?_
      simp only [Task.step]
      rcases claimVerdict_device system.device id value with ⟨none, same⟩ | ⟨action, claimed⟩
      · rw [same]
      · rw [claimed]
  | _ => exact EventStep.of_sameQueues (sameQueues_step input system _ rfl)

theorem unbound_of_retire (input : Input) {system : System}
    (invariant : QueueInvariant system.device.packetCache system.issued) {instanceIds : List Nat}
    {instanceId : Nat} (listed : instanceId ∈ instanceIds) (nonzero : instanceId ≠ 0) :
    Unbound (Task.step input system (.retire instanceIds)).2 instanceId := by
  have retires := retires_retireConnectionInstances invariant.sorted invariant.indexed
    (retiredInstances instanceIds).sorted (retiredInstances instanceIds).nonzero
  intro entry member bound
  obtain ⟨original, _, _, ⟨unlisted, rfl⟩ | ⟨_, _, rfl⟩⟩ := retires.mem_values member
  · rw [(Entry.listedIn_iff _ entry).mpr ⟨instanceId, mem_retiredInstances nonzero listed, by
      simp [Entry.boundTo, bound]⟩] at unlisted
    cases unlisted
  · cases bound

/-- The invariant of all interleavings: end records and what has still to be pushed are the ended
generations, and the requests of an ended generation are retired or will be. -/
structure EventsOrdered (system : System) (pending : List Task) : Prop where
  sound : system.Sound
  records : Conserved (endIds system.device.eventQueue) Task.endIds pending
    system.generations.ended
  ordered : system.device.eventQueue.Pairwise RequestsBeforeEnd
  retired : ∀ instanceId ∈ system.generations.ended,
    (∃ task ∈ pending, instanceId ∈ task.retires) ∨ Unbound system instanceId

section Step

variable (input : Input) {system : System} {task : Task} {pending : List Task}
  (fresh : system.Fresh) (before : EventsOrdered system (task :: pending))

include fresh before

theorem EventsOrdered.not_ended_of_live {ignoreSpecialPorts : Bool} {key : Key}
    {instanceId threadId : Nat}
    (live : system.device.connectionCache.liveConnectionInstanceMatching ignoreSpecialPorts key
      instanceId = some threadId) : instanceId ∉ system.generations.ended :=
  Generations.Live.not_ended before.sound.generations fresh.1
    (live_of_matching before.sound.generations live)

theorem EventsOrdered.ordered_step :
    (task.step input system).2.device.eventQueue.Pairwise RequestsBeforeEnd := by
  obtain ⟨events, appended, ordered, live⟩ := (eventStep_step input system task).pushed
  rw [appended, List.pairwise_append]
  refine ⟨before.ordered, ordered, ?_⟩
  rintro earlier recorded later pushed record instanceId rfl request rfl
  obtain ⟨_, _, _, found⟩ := live request instanceId pushed
  refine before.not_ended_of_live fresh found (before.records.mem_iff.mp ?_)
  exact List.mem_append_left _ (List.mem_filterMap.mpr ⟨_, recorded, rfl⟩)

theorem EventsOrdered.unbound_step {instanceId : Nat} (ended : instanceId ∈ system.generations.ended)
    (unbound : Unbound system instanceId) : Unbound (task.step input system).2 instanceId := by
  intro entry member bound
  rcases bound_step input system task member bound with old | ⟨_, _, live⟩
  · exact unbound entry old bound
  · exact before.not_ended_of_live fresh live ended

theorem EventsOrdered.retired_step (sound : (task.step input system).2.Sound)
    {connections : List EndedConnection}
    (ends : Ends system task connections (task.step input system)) {instanceId : Nat}
    (ended : instanceId ∈ (task.step input system).2.generations.ended) :
    (∃ other ∈ (task.step input system).1 ++ pending, instanceId ∈ other.retires) ∨
      Unbound (task.step input system).2 instanceId := by
  have follows (found : ∃ follower ∈ (task.step input system).1, instanceId ∈ follower.retires) :
      ∃ other ∈ (task.step input system).1 ++ pending, instanceId ∈ other.retires := by
    obtain ⟨follower, member, retires⟩ := found
    exact ⟨follower, List.mem_append_left _ member, retires⟩
  rcases List.mem_append.mp (ends.step.ended_perm.mem_iff.mp ended) with old | new
  · rcases before.retired instanceId old with ⟨other, member, retires⟩ | unbound
    · rcases List.mem_cons.mp member with rfl | waiting
      · by_cases isRetire : ∃ instanceIds, other = .retire instanceIds
        · obtain ⟨instanceIds, rfl⟩ := isRetire
          right
          by_cases zero : instanceId = 0
          · subst zero
            exact sound.nonzero
          · exact unbound_of_retire input before.sound.queue retires zero
        · exact .inl (follows (ends.retires instanceId
            (.inr ⟨fun instanceIds same => isRetire ⟨instanceIds, same⟩, retires⟩)))
      · exact .inl ⟨other, List.mem_append_right _ waiting, retires⟩
    · exact .inr (before.unbound_step input fresh old unbound)
  · exact .inl (follows (ends.retires instanceId (.inl new)))

end Step

theorem eventsOrdered_step (input : Input) (system : System) (task : Task) (pending : List Task)
    (fresh : (task.step input system).2.Fresh) (before : EventsOrdered system (task :: pending)) :
    EventsOrdered (task.step input system).2 ((task.step input system).1 ++ pending) := by
  have earlier := fresh_of_step input system task fresh
  obtain ⟨connections, ends⟩ := ends_step input system task
  have sound := before.sound.step input fresh
  constructor
  · exact sound
  · exact (before.records.step ends.records).trans ends.step.ended_perm.symm
  · exact before.ordered_step input earlier
  · exact fun instanceId ended => before.retired_step input earlier sound ends ended

theorem eventsOrdered_start (system : System) (pending : List Task) (call : Call)
    (before : EventsOrdered system pending) : EventsOrdered system (call.tasks ++ pending) := by
  have starts : ∀ task ∈ call.tasks, task.endIds = [] := by
    cases call <;> simp [Call.tasks, Task.endIds]
  refine ⟨before.sound, before.records.start starts, before.ordered, ?_⟩
  intro instanceId ended
  refine (before.retired instanceId ended).imp_left ?_
  rintro ⟨task, member, retires⟩
  exact ⟨task, List.mem_append_right _ member, retires⟩

theorem eventsOrdered_new : EventsOrdered System.new [] where
  sound := System.sound_new
  records := List.Perm.refl []
  ordered := List.Pairwise.nil
  retired := by simp [System.generations, System.new, Generations.ended]

theorem eventsOrdered_runDriver (choices : List (Choice Call Input))
    (fresh : (runDriver choices).shared.Fresh) :
    EventsOrdered (runDriver choices).shared (runDriver choices).pending := by
  refine driver.run_invariant System.Fresh fresh_of_step ?_ eventsOrdered_start eventsOrdered_step
    eventsOrdered_new choices fresh
  intro system tasks others same before
  refine ⟨before.sound, before.records.reorder same, before.ordered, ?_⟩
  intro instanceId ended
  refine (before.retired instanceId ended).imp_left ?_
  rintro ⟨task, member, retires⟩
  exact ⟨task, same.mem_iff.mp member, retires⟩

/-- In every interleaving each generation has at most one end record, no request record of a
generation follows its end record, and once a generation ended and was retired no queued request
is bound to it. -/
theorem events_ordered (choices : List (Choice Call Input))
    (fresh : (runDriver choices).shared.Fresh) :
    (endIds (runDriver choices).shared.device.eventQueue).Nodup ∧
      (∀ before after record instanceId request,
        (runDriver choices).shared.device.eventQueue =
          before ++ .connectionEnd record instanceId :: after →
        .request request (some instanceId) ∉ after) ∧
      ∀ instanceId ∈ (runDriver choices).shared.generations.ended,
        (∀ task ∈ (runDriver choices).pending, instanceId ∉ task.retires) →
          ∀ entry ∈ (runDriver choices).shared.device.packetCache.values,
            entry.value.connectionInstanceId ≠ some instanceId := by
  have invariant := eventsOrdered_runDriver choices fresh
  refine ⟨?_, ?_, ?_⟩
  · have distinct := invariant.records.nodup_iff.mpr (invariant.sound.generations.ended_nodup fresh.1)
    exact (List.nodup_append.mp distinct).1
  · intro before after record instanceId request split later
    have ordered := invariant.ordered
    rw [split, List.pairwise_append, List.pairwise_cons] at ordered
    exact ordered.2.1.1 _ later record instanceId rfl request rfl
  · intro instanceId ended done
    rcases invariant.retired instanceId ended with ⟨task, member, retires⟩ | unbound
    · exact absurd retires (done task member)
    · exact unbound

def scenarioInput (instanceId : Nat) : Input where
  environment := scenarioEnvironment
  now := 5
  clock := by decide
  instanceId := instanceId
  pendOperation := .ok ()
  pendClassify := .ok ()

/-- A clone is queued for a connection, which then ends and is retired. -/
def endedResolver : List (Choice Call Input) :=
  [.start (.connectionsV4 ⟨.insertIfAbsentWith (resolverConnection 1) .unchanged, trivial⟩ 8),
    .start (.publish resolverKey ⟨.network ⟨some []⟩ outboundInfo, rfl⟩ (some 1) 8 0 .outbound
      false),
    .start (.connectionsV4 ⟨.endInstance 5 resolverKey 1, Nat.succ_pos 4⟩ 8),
    .advance 0 (scenarioInput 0), .advance 1 (scenarioInput 0), .advance 2 (scenarioInput 0),
    .advance 2 (scenarioInput 0), .advance 2 (scenarioInput 0)]

theorem events_ordered_endedResolver :
    (runDriver endedResolver).shared.Fresh ∧
      endIds (runDriver endedResolver).shared.device.eventQueue = [1] ∧
      (runDriver endedResolver).shared.device.packetCache.values.length = 1 ∧
      ∀ entry ∈ (runDriver endedResolver).shared.device.packetCache.values,
        entry.value.connectionInstanceId ≠ some 1 := by
  have inserted : (runDriver endedResolver).shared.generations.inserted = [1] := by decide +kernel
  have ended : (runDriver endedResolver).shared.generations.ended = [1] := by decide +kernel
  have issued : (runDriver endedResolver).shared.issued = 1 := by decide +kernel
  have fresh : (runDriver endedResolver).shared.Fresh := by
    refine ⟨?_, ?_⟩
    · rw [inserted]
      decide
    · rw [issued]
      decide
  have retired : (runDriver endedResolver).pending.flatMap Task.retires = [] := by
    decide +kernel
  refine ⟨fresh, by decide +kernel, by decide +kernel, ?_⟩
  refine (events_ordered endedResolver fresh).2.2 1 (by simp [ended]) ?_
  intro task member retires
  have none := List.flatMap_eq_nil_iff.mp retired task member
  rw [none] at retires
  cases retires

end WindowsKext
