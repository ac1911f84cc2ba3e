import WindowsKext.DeviceThreadsChecks
import WindowsKext.IdCacheRuns

/-! Pended ALE operations over all runs of the driver. The completion contexts are conserved: one
that was issued is in a queued request, in the hands of one thread, or completed, and that once. -/

namespace WindowsKext

open FirstMatch Interleaving

section Effects

variable (effects others : List Effect)

@[simp] theorem pendedOperations_append :
    pendedOperations (effects ++ others) = pendedOperations effects ++ pendedOperations others :=
  List.filterMap_append

@[simp] theorem completedOperations_append :
    completedOperations (effects ++ others) =
      completedOperations effects ++ completedOperations others :=
  List.filterMap_append

@[simp] theorem pendedClassifications_append :
    pendedClassifications (effects ++ others) =
      pendedClassifications effects ++ pendedClassifications others :=
  List.filterMap_append

@[simp] theorem completedClassifications_append :
    completedClassifications (effects ++ others) =
      completedClassifications effects ++ completedClassifications others :=
  List.filterMap_append

end Effects

/-- Effects that complete the operation of a packet and pend none. No effect on a packet is about
a pended classification. -/
structure Completes (packet : Packet) (effects : List Effect) : Prop where
  completed : completedOperations effects = packet.contexts
  pended : pendedOperations effects = []
  pendedClassifications : pendedClassifications effects = []
  completedClassifications : completedClassifications effects = []

theorem Completes.append {packet : Packet} {effects others : List Effect}
    (completes : Completes packet effects)
    (injections : completedOperations others = [] ∧ pendedOperations others = [] ∧
      WindowsKext.pendedClassifications others = [] ∧
      WindowsKext.completedClassifications others = []) :
    Completes packet (effects ++ others) where
  completed := by
    rw [completedOperations_append, completes.completed, injections.1, List.append_nil]
  pended := by rw [pendedOperations_append, completes.pended, injections.2.1, List.append_nil]
  pendedClassifications := by
    rw [pendedClassifications_append, completes.pendedClassifications, injections.2.2.1,
      List.append_nil]
  completedClassifications := by
    rw [completedClassifications_append, completes.completedClassifications, injections.2.2.2,
      List.append_nil]

section Completion

variable (wfp : Wfp)

theorem completes_injectNetBufferLists (injectInfo : InjectInfo) (nbls : List NetBufferList) :
    Completes (.networkBatch nbls injectInfo) (injectNetBufferLists wfp injectInfo nbls).2 := by
  induction nbls with
  | nil => exact ⟨rfl, rfl, rfl, rfl⟩
  | cons nbl rest ih =>
      unfold injectNetBufferLists
      split
      · exact ⟨rfl, rfl, rfl, rfl⟩
      · exact ⟨ih.completed, ih.pended, ih.pendedClassifications, ih.completedClassifications⟩

theorem completes_injectPacket (packet : Packet) (blocked : Bool) :
    Completes packet (injectPacket wfp packet blocked).2 := by
  cases packet with
  | network nbl injectInfo => cases blocked <;> exact ⟨rfl, rfl, rfl, rfl⟩
  | networkBatch nbls injectInfo =>
      cases blocked with
      | true => exact ⟨rfl, rfl, rfl, rfl⟩
      | false => exact completes_injectNetBufferLists wfp injectInfo nbls
  | aleLayer defer =>
      obtain ⟨kind, packetList⟩ := defer
      have completion (inject : Bool) :
          Completes (.aleLayer ⟨kind, packetList⟩) (ClassifyDefer.complete ⟨kind, packetList⟩
            inject) := by
        cases kind <;> exact ⟨rfl, rfl, rfl, rfl⟩
      cases blocked with
      | true => exact completion false
      | false =>
          cases packetList with
          | none => exact completion true
          | some packetList =>
              simp only [injectPacket, Bool.not_false, ↓reduceIte]
              refine (completion true).append ?_
              unfold injectAlePacket
              split <;> exact ⟨rfl, rfl, rfl, rfl⟩

/-- A failed filter reset stops only a reauthorization, which has no pended operation. -/
theorem completes_injectVerdictPacket (packet : Packet) (blocked : Bool) :
    Completes packet (injectVerdictPacket wfp packet blocked).2 := by
  have injected := completes_injectPacket wfp packet blocked
  unfold injectVerdictPacket
  split
  · rename_i reauthorization
    have unpended : packet.contexts = [] := by
      cases packet with
      | network nbl injectInfo => rfl
      | networkBatch nbls injectInfo => rfl
      | aleLayer defer =>
          obtain ⟨kind, packetList⟩ := defer
          cases kind with
          | initial context => cases reauthorization
          | reauthorization => rfl
    split
    · exact ⟨unpended.symm, rfl, rfl, rfl⟩
    · exact ⟨injected.completed, injected.pended, injected.pendedClassifications,
        injected.completedClassifications⟩
  · exact injected

theorem contexts_redirect (smoltcp : Smoltcp) (packet : Packet) (redirectInfo : RedirectInfo) :
    (packet.redirect smoltcp redirectInfo).2.contexts = packet.contexts := by
  cases packet <;> rfl

theorem contexts_of_redirect_error {smoltcp : Smoltcp} {packet after : Packet}
    {redirectInfo : RedirectInfo} {error : String}
    (failed : packet.redirect smoltcp redirectInfo = (.error error, after)) :
    packet.contexts = [] := by
  cases packet with
  | network nbl injectInfo => rfl
  | networkBatch nbls injectInfo => rfl
  | aleLayer defer => cases failed

theorem completes_verdictEffects (smoltcp : Smoltcp) (action : Verdict)
    (redirectInfo : Option RedirectInfo) (packet : Packet) :
    Completes packet (verdictEffects wfp smoltcp action redirectInfo packet) := by
  have decided (blocked : Bool) := completes_injectVerdictPacket wfp packet blocked
  have redirected : Completes packet (verdictEffects wfp smoltcp .redirectNameServer redirectInfo
      packet) := by
    unfold verdictEffects
    cases redirectInfo with
    | none => exact decided true
    | some redirectInfo =>
        dsimp only
        split
        · rename_i rewritten result
          have same := contexts_redirect smoltcp packet redirectInfo
          rw [result] at same
          have injected := completes_injectVerdictPacket wfp rewritten false
          exact ⟨injected.completed.trans same, injected.pended, injected.pendedClassifications,
            injected.completedClassifications⟩
        · rename_i failed
          exact ⟨(contexts_of_redirect_error failed).symm, rfl, rfl, rfl⟩
  cases action with
  | accept | permanentAccept => exact decided false
  | redirectNameServer | redirectTunnel | redirectSplitTunnel => exact redirected
  | _ => exact decided true

theorem completes_applyVerdict (environment : Environment) (device : Device) (now : Nat)
    (pending : PendingPacket) (action : Verdict) :
    Completes pending.packet (device.applyVerdict environment now pending action).1 := by
  have decided (redirectInfo : Option RedirectInfo) :=
    completes_verdictEffects environment.wfp environment.smoltcp action redirectInfo pending.packet
  unfold Device.applyVerdict
  dsimp only
  split
  · split
    · exact decided _
    · split
      · exact decided none
      · exact completes_injectPacket environment.wfp pending.packet true
  · exact decided none

end Completion

def queuedContexts (values : List Entry) : List Nat :=
  values.flatMap fun entry => entry.value.packet.contexts

section Queue

theorem perm_of_find? {values : List Entry} {test : Entry → Bool} {entry : Entry}
    (found : values.find? test = some entry) : values.Perm (entry :: values.eraseP test) := by
  rw [List.find?_eq_some_iff_append] at found
  obtain ⟨accepted, before, after, rfl, rejected⟩ := found
  rw [List.eraseP_append_right _ (by simpa using rejected), List.eraseP_cons_of_pos accepted]
  exact List.perm_middle

theorem queuedContexts_perm {values others : List Entry} (perm : values.Perm others) :
    (queuedContexts values).Perm (queuedContexts others) :=
  perm.flatMap_right _

theorem contexts_requests (packet : Packet) :
    packet.requests.flatMap Packet.contexts = packet.contexts := by
  cases packet with
  | network nbl injectInfo => rfl
  | networkBatch nbls injectInfo => simp [Packet.requests, Packet.contexts]
  | aleLayer defer => simp [Packet.requests]

theorem queuedContexts_pushPackets {context : PendingContext}
    (family : sameFamily context.key.localAddress context.key.remoteAddress = true)
    (cache : IdCache) (packets : List Packet) :
    queuedContexts (cache.pushPackets context packets).2.values =
      queuedContexts cache.values ++ packets.flatMap Packet.contexts := by
  induction packets generalizing cache with
  | nil => simp [IdCache.pushPackets]
  | cons packet rest ih =>
      rw [IdCache.pushPackets, ih]
      simp [IdCache.pushPacket, buildInfo, family, queuedContexts]

theorem queuedContexts_push {key : Key}
    (family : sameFamily key.localAddress key.remoteAddress = true) (cache : IdCache)
    (packet : Packet) (connectionInstanceId : Option Nat) (processId threadId : Nat)
    (direction : Direction) (aleLayer : Bool) :
    queuedContexts (cache.push key packet connectionInstanceId processId threadId direction
        aleLayer).2.values = queuedContexts cache.values ++ packet.contexts := by
  rw [push_eq, (indexes_foldl connectionInstanceId threadId _ _).values,
    queuedContexts_pushPackets family, contexts_requests]

theorem queuedContexts_popId (cache : IdCache) (id : Nat) :
    (queuedContexts (cache.popId id).2.values ++
      (cache.popId id).1.toList.flatMap fun pending => pending.packet.contexts).Perm
        (queuedContexts cache.values) := by
  unfold IdCache.popId
  split
  · simp
  · rename_i entry found
    refine List.perm_append_comm.trans ?_
    simpa [queuedContexts] using (queuedContexts_perm (perm_of_find? found)).symm

theorem queuedContexts_retirePendingId (values : List Entry) (threadIds : Std.TreeMap Nat Nat)
    (removed : List Entry) (id instanceId : Nat) :
    (queuedContexts (retirePendingId values threadIds removed id instanceId).1 ++
      queuedContexts (retirePendingId values threadIds removed id instanceId).2.2).Perm
        (queuedContexts values ++ queuedContexts removed) := by
  unfold retirePendingId
  split
  · exact List.Perm.refl _
  · rename_i entry found
    split
    · exact List.Perm.refl _
    · split
      · obtain ⟨before, after, stored, updated⟩ := modifyFirst_of_some found fun entry : Entry =>
          { entry with value := { entry.value with connectionInstanceId := none } }
        rw [updated, stored]
        simp [queuedContexts]
      · have taken := queuedContexts_perm (perm_of_find? found)
        dsimp only
        refine List.Perm.trans ?_ (taken.symm.append_right _)
        simp only [queuedContexts, List.flatMap_append, List.flatMap_cons, List.flatMap_nil,
          List.append_nil]
        refine (List.perm_append_comm.append_left _).trans ?_
        rw [← List.append_assoc]
        exact List.perm_append_comm.append_right _

theorem queuedContexts_retirePendingIds (ids : List (Nat × Nat)) (values : List Entry)
    (threadIds : Std.TreeMap Nat Nat) (removed : List Entry) :
    (queuedContexts (retirePendingIds values threadIds removed ids).1 ++
      queuedContexts (retirePendingIds values threadIds removed ids).2.2).Perm
        (queuedContexts values ++ queuedContexts removed) := by
  induction ids generalizing values threadIds removed with
  | nil => exact List.Perm.refl _
  | cons first rest ih =>
      exact (ih _ _ _).trans
        (queuedContexts_retirePendingId values threadIds removed first.1 first.2)

theorem queuedContexts_retireInstance (cache : IdCache) (instanceId : Nat) :
    (queuedContexts (cache.retireInstance instanceId).2.values ++
      queuedContexts (cache.retireInstance instanceId).1).Perm (queuedContexts cache.values) := by
  unfold IdCache.retireInstance
  split
  · simp [queuedContexts]
  · simpa [queuedContexts] using queuedContexts_retirePendingIds _ cache.values
      cache.threadIdByRequest []

theorem queuedContexts_retireConnectionInstances (cache : IdCache) (instanceIds : List Nat) :
    (queuedContexts (cache.retireConnectionInstances instanceIds).2.values ++
      queuedContexts (cache.retireConnectionInstances instanceIds).1).Perm
        (queuedContexts cache.values) := by
  have nothing : (queuedContexts cache.values ++ queuedContexts []).Perm
      (queuedContexts cache.values) := by
    simp [queuedContexts]
  unfold IdCache.retireConnectionInstances
  split
  · exact nothing
  · exact queuedContexts_retireInstance cache _
  · dsimp only
    split
    · exact nothing
    · split
      · split
        · exact nothing
        · exact queuedContexts_retireInstance cache _
      · simpa [queuedContexts] using queuedContexts_retirePendingIds _ cache.values
          cache.threadIdByRequest []

end Queue

def Task.contexts : Task → List Nat
  | .registerAleConnection _ packet => packet.contexts
  | .publish _ packet _ _ _ _ _ => packet.contexts
  | .discard packet => packet.contexts
  | .applyVerdict pending _ => pending.packet.contexts
  | _ => []

/-- A pended operation is published under a key of one family, so that its packet is queued. -/
def Task.QueuesPended : Task → Prop
  | .publish key packet _ _ _ _ _ =>
      packet.contexts = [] ∨ sameFamily key.localAddress key.remoteAddress = true
  | _ => True

def System.heldContexts (system : System) : List Nat :=
  queuedContexts system.device.packetCache.values ++ completedOperations system.effects

/-- A context is held until it is passed to `FwpsCompleteOperation0`, and remembered then. -/
def completionContexts : Tokens System Task where
  issued system := pendedOperations system.effects
  held := System.heldContexts
  carried := Task.contexts

/-- One task hands its contexts on to the queue, to its followers or to WFP. -/
structure HandsOn (before : System) (task : Task) (result : List Task × System) : Prop where
  contexts : completionContexts.HandsOn before task result
  queues : ∀ follower ∈ result.1, follower.QueuesPended

section Tasks

variable {system : System} {task : Task}

theorem contexts_endTasks (ended : List EndedConnection) (processId : Nat) :
    (endTasks ended processId).flatMap Task.contexts = [] := by
  simp [endTasks, Task.contexts]

theorem queuesPended_endTasks (ended : List EndedConnection) (processId : Nat) :
    ∀ follower ∈ endTasks ended processId, follower.QueuesPended := by
  simp [endTasks, Task.QueuesPended]

theorem contexts_resolveTasks (entries : List Entry) :
    (entries.flatMap resolveTasks).flatMap Task.contexts = queuedContexts entries := by
  rw [List.flatMap_assoc]
  simp [resolveTasks, Task.contexts, queuedContexts]

theorem contexts_shutdownTasks (entries : List Entry) :
    (entries.flatMap fun entry => blockTasks entry ++ resolveTasks entry).flatMap Task.contexts =
      queuedContexts entries := by
  rw [List.flatMap_assoc]
  refine congrArg entries.flatMap (funext fun entry => ?_)
  rw [List.flatMap_append]
  cases bound : entry.value.connectionInstanceId <;>
    simp [blockTasks, resolveTasks, bound, Task.contexts]

theorem HandsOn.intro {result : List Task × System} (new : List Nat)
    (pended : pendedOperations result.2.effects = pendedOperations system.effects ++ new)
    (fresh : new = [] ∨ new = [(pendedOperations system.effects).length])
    (contexts : (result.2.heldContexts ++ result.1.flatMap Task.contexts).Perm
      (system.heldContexts ++ task.contexts ++ new))
    (queues : ∀ follower ∈ result.1, follower.QueuesPended) : HandsOn system task result :=
  ⟨⟨new, pended, fresh, contexts⟩, queues⟩

theorem HandsOn.of_nothing {result : List Task × System} (nothing : task.contexts = [])
    (queue : result.2.device.packetCache.values = system.device.packetCache.values)
    (effects : ∃ others, result.2.effects = system.effects ++ others ∧
      pendedOperations others = [] ∧ completedOperations others = [])
    (followers : result.1.flatMap Task.contexts = [])
    (queues : ∀ follower ∈ result.1, follower.QueuesPended) : HandsOn system task result := by
  obtain ⟨others, appended, pended, completed⟩ := effects
  refine HandsOn.intro [] ?_ (.inl rfl) ?_ queues
  · rw [appended, pendedOperations_append, pended]
  · rw [nothing, followers, System.heldContexts, System.heldContexts, queue, appended,
      completedOperations_append, completed]
    simp

theorem HandsOn.of_queue {result : List Task × System}
    (effects : result.2.effects = system.effects)
    (contexts : (queuedContexts result.2.device.packetCache.values ++
      result.1.flatMap Task.contexts).Perm
        (queuedContexts system.device.packetCache.values ++ task.contexts))
    (queues : ∀ follower ∈ result.1, follower.QueuesPended) : HandsOn system task result := by
  refine HandsOn.intro [] (by rw [effects, List.append_nil]) (.inl rfl) ?_ queues
  rw [System.heldContexts, System.heldContexts, effects, List.append_nil, List.append_assoc,
    List.append_assoc]
  refine (List.perm_append_comm.append_left _).trans ?_
  rw [← List.append_assoc]
  refine (contexts.append_right _).trans ?_
  rw [List.append_assoc]
  exact List.perm_append_comm.append_left _

theorem HandsOn.of_completes {result : List Task × System} {effects : List Effect}
    {packet : Packet} (completes : Completes packet effects) (same : task.contexts = packet.contexts)
    (queue : result.2.device.packetCache.values = system.device.packetCache.values)
    (performed : result.2.effects = system.effects ++ effects) (last : result.1 = []) :
    HandsOn system task result := by
  refine HandsOn.intro [] ?_ (.inl rfl) ?_ ?_
  · rw [performed, pendedOperations_append, completes.pended]
  · rw [System.heldContexts, System.heldContexts, queue, performed, completedOperations_append,
      completes.completed, last, same]
    simp
  · simp [last]

theorem handsOn_publish (input : Input) (system : System) (key : Key) (packet : Packet)
    (connectionInstanceId : Option Nat) (processId threadId : Nat) (direction : Direction)
    (aleLayer : Bool)
    (queues : packet.contexts = [] ∨ sameFamily key.localAddress key.remoteAddress = true) :
    HandsOn system
      (.publish key packet connectionInstanceId processId threadId direction aleLayer)
      (Task.step input system
        (.publish key packet connectionInstanceId processId threadId direction aleLayer)) := by
  simp only [Task.step]
  have outcome := publishOutcome input.environment system.device key packet connectionInstanceId
    processId threadId direction aleLayer
  generalize system.device.publishPendingPacket input.environment key packet connectionInstanceId
    processId threadId direction aleLayer = published at outcome
  cases outcome with
  | rejected instanceId bound =>
      refine HandsOn.of_queue rfl ?_ ?_
      · simp [Task.contexts]
      · simp [Task.QueuesPended]
  | queued processId threadId live push =>
      refine HandsOn.of_queue rfl ?_ (by simp)
      rw [← push]
      simp only [Option.toList_none, List.map_nil, List.flatMap_nil, List.append_nil]
      cases family : sameFamily key.localAddress key.remoteAddress with
      | true =>
          rw [queuedContexts_push family]
          exact List.Perm.refl _
      | false =>
          have unpended : packet.contexts = [] := by simpa [family] using queues
          rw [push_mixed family]
          simp [Task.contexts, unpended]

theorem handsOn_step (input : Input) (system : System) (task : Task)
    (queues : task.QueuesPended) : HandsOn system task (task.step input system) := by
  have noEffects : ∃ others, system.effects = system.effects ++ others ∧
      pendedOperations others = [] ∧ completedOperations others = [] :=
    ⟨[], (List.append_nil _).symm, rfl, rfl⟩
  cases task with
  | mapV4 op processId | mapV6 op processId =>
      exact HandsOn.of_nothing rfl rfl noEffects (contexts_endTasks _ _)
        (queuesPended_endTasks _ _)
  | endFamilies opV4 opV6 processId =>
      exact HandsOn.of_nothing rfl rfl noEffects rfl (by simp [Task.step, Task.QueuesPended])
  | endFamilyV6 endedV4 opV6 processId =>
      refine HandsOn.of_nothing rfl rfl noEffects ?_ ?_
      · simp [Task.step, Task.contexts, List.flatMap_map]
      · rintro follower member
        simp only [Task.step, List.mem_append, List.mem_cons, List.not_mem_nil, or_false,
          List.mem_map] at member
        rcases member with (rfl | rfl) | ⟨connection, _, rfl⟩ <;> trivial
  | retire instanceIds =>
      refine HandsOn.of_queue rfl ?_ ?_
      · simp only [Task.step, contexts_resolveTasks]
        simpa [Task.contexts, Device.retirePendingConnectionInstances] using
          queuedContexts_retireConnectionInstances system.device.packetCache _
      · intro follower member
        obtain ⟨entry, _, inTasks⟩ := List.mem_flatMap.mp member
        simp only [resolveTasks, List.mem_cons, List.not_mem_nil, or_false] at inTasks
        rcases inTasks with rfl | rfl <;> trivial
  | emitConnectionEnd connection processId =>
      exact HandsOn.of_nothing rfl rfl noEffects rfl (by simp [Task.step])
  | savePacket request =>
      simp only [Task.step]
      split
      · cases input.pendOperation with
        | error error => exact HandsOn.of_nothing rfl rfl noEffects rfl (by simp)
        | ok success =>
            refine HandsOn.intro [(pendedOperations system.effects).length] ?_ (.inr rfl) ?_ ?_
            · rw [System.perform, pendedOperations_append]
              rfl
            · simp [System.heldContexts, System.perform, Task.contexts, Packet.contexts,
                completedOperations]
            · simp [Task.QueuesPended]
      · exact HandsOn.of_nothing rfl rfl noEffects rfl (by simp [Task.QueuesPended])
  | registerAleConnection request packet =>
      simp only [Task.step]
      split
      · exact HandsOn.of_queue rfl (by simp [Task.contexts]) (by simp [Task.QueuesPended])
      · rename_i registration cache registered
        rcases registerAleConnection_cases system _ _ _ _ _ registered with
          ⟨error, failed⟩ | ⟨_, _, family, _⟩
        · cases failed
        · refine HandsOn.of_queue (by simp) (by simp [Task.contexts]) ?_
          simp [Task.QueuesPended, family]
  | publish key packet connectionInstanceId processId threadId direction aleLayer =>
      exact handsOn_publish input system key packet connectionInstanceId processId threadId
        direction aleLayer queues
  | discard packet =>
      exact HandsOn.of_completes (completes_injectPacket input.environment.wfp packet true) rfl
        rfl rfl rfl
  | claimVerdict id value =>
      simp only [Task.step]
      rcases claimVerdict_device system.device id value with ⟨none, same⟩ | ⟨action, claimed⟩
      · rw [none, same]
        exact HandsOn.of_nothing rfl rfl noEffects rfl (by simp)
      · rw [claimed]
        have popped := queuedContexts_popId system.device.packetCache id
        refine HandsOn.of_queue rfl ?_ ?_
        · cases found : (system.device.packetCache.popId id).1 with
          | none => simpa [found, Task.contexts] using popped
          | some pending => simpa [found, Task.contexts] using popped
        · cases (system.device.packetCache.popId id).1 <;> simp [Task.QueuesPended]
  | applyVerdict pending action =>
      refine HandsOn.of_completes (completes_applyVerdict input.environment system.device input.now
        pending action) rfl ?_ rfl rfl
      simp only [Task.step, System.perform, applyVerdict_device]
      split <;> rfl
  | block key instanceId => exact HandsOn.of_nothing rfl rfl noEffects rfl (by simp [Task.step])
  | finish id key connectionInstanceId =>
      refine HandsOn.of_nothing rfl rfl noEffects ?_ ?_
      · simp [Task.step, List.flatMap_map, Task.contexts]
      · intro follower member
        obtain ⟨endpoint, _, rfl⟩ := List.mem_map.mp member
        trivial
  | deferTcpEndpointClosure endpoint processId =>
      simp only [Task.step]
      have outcome := closureOutcome system.device input.now endpoint.connection processId
        (input.pendClassify.map fun _ => (pendedClassifications system.effects).length)
      generalize system.device.deferTcpEndpointClosure input.now endpoint.connection processId
        (input.pendClassify.map fun _ => (pendedClassifications system.effects).length) = taken
        at outcome
      cases outcome with
      | gone =>
          simp only [perform_nil, recordEnd_none]
          exact HandsOn.of_nothing rfl rfl noEffects (contexts_endTasks _ _)
            (queuesPended_endTasks _ _)
      | ended =>
          obtain ⟨cache, ended⟩ := endTcpInstance_device system.device input.now
            endpoint.connection
          refine HandsOn.of_nothing rfl ?_ ?_ (contexts_endTasks _ _) (queuesPended_endTasks _ _)
          · simp [System.perform, ended]
          · simp [System.perform, pendedOperations, completedOperations]
      | unpended error =>
          simp only [perform_nil]
          exact HandsOn.of_nothing rfl rfl noEffects rfl (by simp [Task.QueuesPended])
      | deferred live waits classify pended absent =>
          simp only [recordEnd_none]
          exact HandsOn.of_nothing rfl rfl ⟨_, rfl, rfl, rfl⟩ (contexts_endTasks _ _)
            (queuesPended_endTasks _ _)
      | duplicate error classify pended =>
          exact HandsOn.of_nothing rfl rfl ⟨_, rfl, rfl, rfl⟩ rfl (by simp [Task.QueuesPended])
  | endTcpConnection endpoint processId =>
      obtain ⟨cache, ended⟩ := endTcpInstance_device system.device input.now endpoint
      refine HandsOn.of_nothing rfl ?_ ?_ (contexts_endTasks _ _) (queuesPended_endTasks _ _)
      · simp [Task.step, ended]
      · simpa [Task.step] using noEffects
  | completeReadyTcpEndpointClosure endpoint =>
      simp only [Task.step, Device.completeReadyTcpEndpointClosure]
      cases taken : system.device.tcpClosureCache.takeReady endpoint.instanceId with
      | mk ready closures =>
          cases ready with
          | none => exact HandsOn.of_nothing rfl rfl noEffects rfl (by simp)
          | some closure =>
              obtain ⟨cache, ended⟩ := endTcpInstance_device
                { system.device with tcpClosureCache := closures } input.now endpoint
              refine HandsOn.of_nothing rfl (by simp [ended]) (by simpa using noEffects) ?_ ?_
              · rw [List.flatMap_append, contexts_endTasks]
                rfl
              · intro follower member
                rcases List.mem_append.mp member with inEnd | last
                · exact queuesPended_endTasks _ _ follower inEnd
                · rw [List.mem_singleton.mp last]
                  trivial
  | completeClassify classify =>
      exact HandsOn.of_nothing rfl rfl ⟨_, rfl, rfl, rfl⟩ rfl (by simp [Task.step])
  | popAll =>
      refine HandsOn.of_queue rfl ?_ ?_
      · simp only [Task.step, List.flatMap_append, contexts_shutdownTasks]
        simp [IdCache.popAll, queuedContexts, Task.contexts]
      · intro follower member
        simp only [Task.step, List.mem_append, List.mem_flatMap, List.mem_singleton] at member
        rcases member with ⟨entry, _, blocks | resolves⟩ | rfl
        · simp only [blockTasks, List.mem_map] at blocks
          obtain ⟨instanceId, _, rfl⟩ := blocks
          trivial
        · simp only [resolveTasks, List.mem_cons, List.not_mem_nil, or_false] at resolves
          rcases resolves with rfl | rfl <;> trivial
        · trivial
  | drainTcpEndpointClosures =>
      refine HandsOn.of_nothing rfl rfl noEffects ?_ ?_
      · simp only [Task.step, List.flatMap_assoc]
        exact List.flatMap_eq_nil_iff.mpr fun closure _ => rfl
      · intro follower member
        obtain ⟨closure, _, inTasks⟩ := List.mem_flatMap.mp member
        simp only [List.mem_cons, List.not_mem_nil, or_false] at inTasks
        rcases inTasks with rfl | rfl <;> trivial

end Tasks

/-- No context is lost or used twice. -/
structure ContextsConserved (system : System) (pending : List Task) : Prop where
  accounted : completionContexts.Accounted system pending
  queues : ∀ task ∈ pending, task.QueuesPended

theorem contextsConserved_step (input : Input) (system : System) (task : Task)
    (pending : List Task) (before : ContextsConserved system (task :: pending)) :
    ContextsConserved (task.step input system).2 ((task.step input system).1 ++ pending) := by
  obtain ⟨contexts, queues⟩ :=
    handsOn_step input system task (before.queues task List.mem_cons_self)
  refine ⟨before.accounted.step contexts, ?_⟩
  intro other member
  rcases List.mem_append.mp member with follower | old
  · exact queues other follower
  · exact before.queues other (List.mem_cons_of_mem _ old)

theorem contextsConserved_start (system : System) (pending : List Task) (call : Call)
    (before : ContextsConserved system pending) :
    ContextsConserved system (call.tasks ++ pending) := by
  have starts : ∀ task ∈ call.tasks, task.contexts = [] ∧ task.QueuesPended := by
    cases call with
    | publish key packet =>
        intro task member
        rw [List.mem_singleton.mp member]
        exact ⟨packet.unpended, .inl packet.unpended⟩
    | _ => simp [Call.tasks, Task.contexts, Task.QueuesPended]
  refine ⟨⟨before.accounted.numbered,
    before.accounted.conserved.start fun task member => (starts task member).1⟩, ?_⟩
  intro task member
  rcases List.mem_append.mp member with new | old
  · exact (starts task new).2
  · exact before.queues task old

theorem contextsConserved_new : ContextsConserved System.new [] :=
  ⟨⟨rfl, List.Perm.refl []⟩, by simp⟩

theorem contextsConserved_runDriver (choices : List (Choice Call Input)) :
    ContextsConserved (runDriver choices).shared (runDriver choices).pending := by
  refine driver.run_invariant (fun _ => True) (fun _ _ _ => id) ?_ contextsConserved_start
    (fun input system task pending _ => contextsConserved_step input system task pending)
    contextsConserved_new choices trivial
  intro system tasks others same before
  exact ⟨⟨before.accounted.numbered, before.accounted.conserved.reorder same⟩,
    fun task member => before.queues task (same.mem_iff.mpr member)⟩

/-- Whatever the surroundings answer and however the threads interleave, a completion context is
completed at most once, and when no thread has anything left to do every other one is in a queued
request. -/
theorem pendedOperations_completed (choices : List (Choice Call Input)) :
    (completedOperations (runDriver choices).shared.effects).Nodup ∧
      (∀ context ∈ completedOperations (runDriver choices).shared.effects,
        context ∈ pendedOperations (runDriver choices).shared.effects) ∧
      ((runDriver choices).pending = [] →
        ∀ context ∈ pendedOperations (runDriver choices).shared.effects,
          context ∉ completedOperations (runDriver choices).shared.effects →
            ∃ entry ∈ (runDriver choices).shared.device.packetCache.values,
              context ∈ entry.value.packet.contexts) := by
  have accounted := (contextsConserved_runDriver choices).accounted
  have conserved : (queuedContexts (runDriver choices).shared.device.packetCache.values ++
      completedOperations (runDriver choices).shared.effects ++
      (runDriver choices).pending.flatMap Task.contexts).Perm
        (pendedOperations (runDriver choices).shared.effects) := accounted.conserved
  refine ⟨?_, ?_, ?_⟩
  · have held := (List.nodup_append.mp accounted.nodup).1
    exact (List.nodup_append.mp held).2.1
  · intro context completed
    refine conserved.mem_iff.mp ?_
    exact List.mem_append_left _ (List.mem_append_right _ completed)
  · intro idle context pended uncompleted
    have member := conserved.mem_iff.mpr pended
    rw [idle, List.flatMap_nil, List.append_nil, List.mem_append] at member
    exact List.mem_flatMap.mp (member.resolve_right uncompleted)

end WindowsKext
