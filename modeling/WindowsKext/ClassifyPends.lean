import WindowsKext.PendedOperations
import WindowsKext.TcpClosureChecks

/-! Pended classifications over all runs of the driver. The classification of an endpoint closure
is stored with it until a thread takes the closure, and that thread completes it. -/

namespace WindowsKext

open Interleaving

def Task.classifications : Task → List Nat
  | .completeClassify classify => [classify]
  | _ => []

def System.heldClassifications (system : System) : List Nat :=
  system.device.tcpClosureCache.classifications ++ completedClassifications system.effects

/-- A classification is held by its closure until it is completed, and remembered then. -/
def classifyPends : Tokens System Task where
  issued system := pendedClassifications system.effects
  held := System.heldClassifications
  carried := Task.classifications

section Tasks

variable {system : System} {task : Task} {result : List Task × System}

theorem classifications_endTasks (ended : List EndedConnection) (processId : Nat) :
    (endTasks ended processId).flatMap Task.classifications = [] := by
  simp [endTasks, Task.classifications]

theorem classifyPends_of_nothing (nothing : task.classifications = [])
    (closures : result.2.device.tcpClosureCache.classifications =
      system.device.tcpClosureCache.classifications)
    (effects : ∃ others, result.2.effects = system.effects ++ others ∧
      pendedClassifications others = [] ∧ completedClassifications others = [])
    (followers : result.1.flatMap Task.classifications = []) :
    classifyPends.HandsOn system task result := by
  obtain ⟨others, appended, pended, completed⟩ := effects
  refine ⟨[], ?_, .inl rfl, ?_⟩
  · change pendedClassifications _ = pendedClassifications _ ++ []
    rw [appended, pendedClassifications_append, pended]
  · change (System.heldClassifications _ ++ result.1.flatMap Task.classifications).Perm
      (System.heldClassifications _ ++ task.classifications ++ [])
    rw [nothing, followers, System.heldClassifications, System.heldClassifications, closures,
      appended, completedClassifications_append, completed]
    simp

theorem classifyPends_of_taken (effects : result.2.effects = system.effects)
    (taken : system.device.tcpClosureCache.classifications.Perm
      (result.2.device.tcpClosureCache.classifications ++
        result.1.flatMap Task.classifications)) (nothing : task.classifications = []) :
    classifyPends.HandsOn system task result := by
  refine ⟨[], ?_, .inl rfl, ?_⟩
  · change pendedClassifications _ = pendedClassifications _ ++ []
    rw [effects, List.append_nil]
  · change (System.heldClassifications _ ++ result.1.flatMap Task.classifications).Perm
      (System.heldClassifications _ ++ task.classifications ++ [])
    rw [nothing, System.heldClassifications, System.heldClassifications, effects,
      List.append_nil, List.append_nil, List.append_assoc]
    refine (List.perm_append_comm.append_left _).trans ?_
    rw [← List.append_assoc]
    exact taken.symm.append_right _

theorem classifyPends_of_pended {classify : Nat} {others : List Effect}
    (numbered : classify = (pendedClassifications system.effects).length)
    (effects : result.2.effects = system.effects ++ .pendClassify classify :: others)
    (stored : (result.2.device.tcpClosureCache.classifications ++
      completedClassifications others).Perm
        (system.device.tcpClosureCache.classifications ++ [classify]))
    (unpended : pendedClassifications others = []) (nothing : task.classifications = [])
    (followers : result.1.flatMap Task.classifications = []) :
    classifyPends.HandsOn system task result := by
  have pended : pendedClassifications (.pendClassify classify :: others) = [classify] :=
    congrArg (classify :: ·) unpended
  refine ⟨[classify], ?_, .inr (congrArg (fun number => [number]) numbered), ?_⟩
  · change pendedClassifications _ = pendedClassifications _ ++ [classify]
    rw [effects, pendedClassifications_append, pended]
  · change (System.heldClassifications _ ++ result.1.flatMap Task.classifications).Perm
      (System.heldClassifications _ ++ task.classifications ++ [classify])
    rw [nothing, followers, System.heldClassifications, System.heldClassifications, effects,
      completedClassifications_append, List.append_nil, List.append_nil, List.append_assoc]
    refine (List.perm_append_comm.append_left _).trans ?_
    rw [← List.append_assoc]
    refine (stored.append_right _).trans ?_
    rw [List.append_assoc]
    exact List.perm_append_comm.append_left _

theorem classifyPends_step (input : Input) (system : System) (task : Task) :
    classifyPends.HandsOn system task (task.step input system) := by
  have noEffects : ∃ others, system.effects = system.effects ++ others ∧
      pendedClassifications others = [] ∧ completedClassifications others = [] :=
    ⟨[], (List.append_nil _).symm, rfl, rfl⟩
  cases task with
  | mapV4 op processId | mapV6 op processId =>
      exact classifyPends_of_nothing rfl rfl noEffects (classifications_endTasks _ _)
  | endFamilies opV4 opV6 processId => exact classifyPends_of_nothing rfl rfl noEffects rfl
  | endFamilyV6 endedV4 opV6 processId =>
      refine classifyPends_of_nothing rfl rfl noEffects ?_
      simp [Task.step, Task.classifications, List.flatMap_map]
  | retire instanceIds =>
      refine classifyPends_of_nothing rfl rfl noEffects ?_
      simp [Task.step, resolveTasks, Task.classifications, List.flatMap_assoc]
  | savePacket request =>
      simp only [Task.step]
      split
      · cases input.pendOperation with
        | error error => exact classifyPends_of_nothing rfl rfl noEffects rfl
        | ok success => exact classifyPends_of_nothing rfl rfl ⟨_, rfl, rfl, rfl⟩ rfl
      · exact classifyPends_of_nothing rfl rfl noEffects rfl
  | registerAleConnection request packet =>
      simp only [Task.step]
      split
      · exact classifyPends_of_nothing rfl rfl noEffects rfl
      · exact classifyPends_of_nothing rfl (by simp) (by simpa using noEffects) rfl
  | publish key packet connectionInstanceId processId threadId direction aleLayer =>
      simp only [Task.step]
      have outcome := publishOutcome input.environment system.device key packet
        connectionInstanceId processId threadId direction aleLayer
      generalize system.device.publishPendingPacket input.environment key packet
        connectionInstanceId processId threadId direction aleLayer = published at outcome
      cases outcome with
      | rejected instanceId bound => exact classifyPends_of_nothing rfl rfl noEffects rfl
      | queued processId threadId live push =>
          exact classifyPends_of_nothing rfl
            (TcpClosureCache.classifications_foldl_addRequest _ _ _ _) noEffects rfl
  | discard packet =>
      have completes := completes_injectPacket input.environment.wfp packet true
      exact classifyPends_of_nothing rfl rfl
        ⟨_, rfl, completes.pendedClassifications, completes.completedClassifications⟩ rfl
  | claimVerdict id value =>
      simp only [Task.step]
      rcases claimVerdict_device system.device id value with ⟨none, same⟩ | ⟨action, claimed⟩
      · rw [none, same]
        exact classifyPends_of_nothing rfl rfl noEffects rfl
      · rw [claimed]
        refine classifyPends_of_nothing rfl rfl noEffects ?_
        simp [Task.classifications, List.flatMap_assoc]
  | applyVerdict pending action =>
      have completes := completes_applyVerdict input.environment system.device input.now pending
        action
      refine classifyPends_of_nothing rfl ?_
        ⟨_, rfl, completes.pendedClassifications, completes.completedClassifications⟩ rfl
      simp only [Task.step, System.perform, applyVerdict_device]
      split <;> rfl
  | finish id key connectionInstanceId =>
      refine classifyPends_of_nothing rfl
        (TcpClosureCache.classifications_finishRequest _ id) noEffects ?_
      simp [Task.step, List.flatMap_map, Task.classifications]
  | deferTcpEndpointClosure endpoint processId =>
      simp only [Task.step]
      have outcome := closureOutcome system.device input.now endpoint.connection processId
        (input.pendClassify.map fun _ => (pendedClassifications system.effects).length)
      generalize system.device.deferTcpEndpointClosure input.now endpoint.connection processId
        (input.pendClassify.map fun _ => (pendedClassifications system.effects).length) = taken
        at outcome
      have numbered (classify : Nat) (pended : (input.pendClassify.map fun _ =>
          (pendedClassifications system.effects).length) = .ok classify) :
          classify = (pendedClassifications system.effects).length := by
        cases answer : input.pendClassify with
        | error error => simp [answer, Except.map] at pended
        | ok success => simpa [answer, Except.map] using pended.symm
      cases outcome with
      | gone =>
          simp only [perform_nil, recordEnd_none]
          exact classifyPends_of_nothing rfl rfl noEffects (classifications_endTasks _ _)
      | ended =>
          obtain ⟨cache, ended⟩ := endTcpInstance_device system.device input.now
            endpoint.connection
          refine classifyPends_of_nothing rfl ?_ ?_ (classifications_endTasks _ _)
          · simp [ended]
          · simpa using noEffects
      | unpended error =>
          simp only [perform_nil]
          exact classifyPends_of_nothing rfl rfl noEffects rfl
      | deferred live waits classify pended absent =>
          have inserted := TcpClosureCache.classifications_insert _ absent {
            endpoint := endpoint.connection
            processId := processId
            classify := classify
            requestIds := system.device.packetCache.tcpEndpointRequestIds endpoint.connection.key
              endpoint.connection.instanceId }
          simp only [recordEnd_none]
          refine classifyPends_of_pended (numbered classify pended) rfl ?_ rfl rfl
            (classifications_endTasks _ _)
          simpa [System.perform, completedClassifications] using inserted
      | duplicate error classify pended =>
          exact classifyPends_of_pended (numbered classify pended) rfl (List.Perm.refl _) rfl rfl rfl
  | endTcpConnection endpoint processId =>
      obtain ⟨cache, ended⟩ := endTcpInstance_device system.device input.now endpoint
      refine classifyPends_of_nothing rfl ?_ ?_ (classifications_endTasks _ _)
      · simp [Task.step, ended]
      · simpa [Task.step] using noEffects
  | completeReadyTcpEndpointClosure endpoint =>
      simp only [Task.step, Device.completeReadyTcpEndpointClosure]
      rcases TcpClosureCache.takeReady_cases system.device.tcpClosureCache endpoint.instanceId with
        ⟨same, _⟩ | ⟨closure, stored, erased⟩
      · rw [same]
        exact classifyPends_of_nothing rfl rfl noEffects rfl
      · rw [erased]
        obtain ⟨cache, ended⟩ := endTcpInstance_device { system.device with
          tcpClosureCache := Std.TreeMap.erase system.device.tcpClosureCache
            endpoint.instanceId } input.now endpoint
        refine classifyPends_of_taken (by simp) ?_ rfl
        rw [List.flatMap_append, classifications_endTasks]
        simpa [ended, Task.classifications] using
          TcpClosureCache.classifications_erase _ stored
  | completeClassify classify =>
      refine ⟨[], ?_, .inl rfl, ?_⟩
      · change pendedClassifications (system.effects ++ _) = pendedClassifications _ ++ []
        rw [pendedClassifications_append]
        rfl
      · change (System.heldClassifications _ ++ []).Perm
          (System.heldClassifications _ ++ [classify] ++ [])
        simp [System.heldClassifications, Task.step, System.perform, completedClassifications]
  | popAll =>
      refine classifyPends_of_nothing rfl rfl noEffects ?_
      simp [Task.step, blockTasks, resolveTasks, Task.classifications, List.flatMap_assoc,
        List.flatMap_map]
  | drainTcpEndpointClosures =>
      refine classifyPends_of_taken rfl (List.Perm.of_eq ?_) rfl
      simp only [Task.step, TcpClosureCache.drain, List.flatMap_assoc,
        TcpClosureCache.classifications, List.map_eq_flatMap]
      rfl
  | _ => exact classifyPends_of_nothing rfl rfl noEffects rfl

end Tasks

theorem classifyPends_start (system : System) (pending : List Task) (call : Call)
    (before : classifyPends.Accounted system pending) :
    classifyPends.Accounted system (call.tasks ++ pending) := by
  refine ⟨before.numbered, before.conserved.start ?_⟩
  cases call <;> simp [Call.tasks, classifyPends, Task.classifications]

theorem classifyPends_new : classifyPends.Accounted System.new [] :=
  ⟨rfl, List.Perm.refl []⟩

theorem classifyPends_runDriver (choices : List (Choice Call Input)) :
    classifyPends.Accounted (runDriver choices).shared (runDriver choices).pending := by
  refine driver.run_invariant (fun _ => True) (fun _ _ _ => id) ?_ classifyPends_start
    (fun input system task _ _ before => before.step (classifyPends_step input system task))
    classifyPends_new choices trivial
  intro system tasks others same before
  exact ⟨before.numbered, before.conserved.reorder same⟩

end WindowsKext
