import WindowsKext.DeviceCore
import WindowsKext.ConnectionCacheChecks

/-! Runs of the device in which registrations, lifecycle ends, cache clearing, publications and
the two halves of Verdict commands interleave in any order. Each step is one section under the
locks it holds. A verdict reaches only the generation that its request was published with. -/

namespace WindowsKext

open FirstMatch

/-- A request that a Verdict command has taken from the queue and not applied yet. -/
structure ClaimedRequest where
  id : Nat
  pending : PendingPacket
  action : Verdict

/-- What was recorded with a request when it was published. -/
structure Publication where
  id : Nat
  key : Key
  connectionInstanceId : Option Nat

/-- The device with the claimed requests, and the history of publications and insertions. -/
structure DeviceRun where
  device : Device
  claimed : List ClaimedRequest
  published : List Publication
  insertedV4 : List Nat
  insertedV6 : List Nat

/-- The steps of a run. The map operations cover registrations, tuple reuse, lifecycle ends,
policy updates and cleanup; a deferred TCP closure ends its generation in a later step. -/
inductive DeviceStep where
  | mapV4 (op : MapOp Ipv4Address)
  | mapV6 (op : MapOp Ipv6Address)
  | clearCache
  | publish (key : Key) (packet : Packet) (connectionInstanceId : Option Nat)
      (processId threadId : Nat) (direction : Direction) (aleLayer : Bool)
  | retire (instanceIds : List Nat)
  | claim (id : Nat) (value : UInt8)
  | applyClaimed (index now : Nat)
  | finish (id : Nat)
  | deferClosure (now : Nat) (endpoint : TcpEndpointConnection) (processId : Nat)
      (pendClassify : Except String Nat)
  | completeClosure (now : Nat) (endpoint : TcpEndpointConnection)

def DeviceRun.start : DeviceRun where
  device := Device.new
  claimed := []
  published := []
  insertedV4 := []
  insertedV6 := []

def DeviceStep.step (environment : Environment) (run : DeviceRun) : DeviceStep → DeviceRun
  | .mapV4 op =>
      let cache := run.device.connectionCache
      let after := op.stepWith environment.ignoreSpecialPorts
        { state := cache.connectionsV4, inserted := run.insertedV4, ended := [] }
      { run with
        device := { run.device with
          connectionCache := { cache with connectionsV4 := after.state } }
        insertedV4 := after.inserted }
  | .mapV6 op =>
      let cache := run.device.connectionCache
      let after := op.stepWith environment.ignoreSpecialPorts
        { state := cache.connectionsV6, inserted := run.insertedV6, ended := [] }
      { run with
        device := { run.device with
          connectionCache := { cache with connectionsV6 := after.state } }
        insertedV6 := after.inserted }
  | .clearCache => { run with device := run.device.clearCache }
  | .publish key packet connectionInstanceId processId threadId direction aleLayer =>
      let (_, queued, device) := run.device.publishPendingPacket environment key packet
        connectionInstanceId processId threadId direction aleLayer
      { run with
        device := device
        published := run.published ++ queued.map fun request =>
          { id := request.1, key := key, connectionInstanceId := connectionInstanceId } }
  | .retire instanceIds =>
      { run with
        device := (run.device.retirePendingConnectionInstances environment instanceIds).2.2 }
  | .claim id value =>
      let (claimed, device) := run.device.claimVerdict id value
      { run with
        device := device
        claimed := run.claimed ++ (claimed.map fun request =>
          { id := id, pending := request.1, action := request.2 }).toList }
  | .applyClaimed index now =>
      match run.claimed[index]? with
      | none => run
      | some request =>
          { run with
            device := (run.device.applyVerdict environment now request.pending request.action).2
            claimed := run.claimed.eraseIdx index }
  | .finish id => { run with device := (run.device.finishPendingRequest id).2 }
  | .deferClosure now endpoint processId pendClassify =>
      { run with
        device :=
          (run.device.deferTcpEndpointClosure now endpoint processId pendClassify).2.2 }
  | .completeClosure now endpoint =>
      { run with device := (run.device.completeReadyTcpEndpointClosure now endpoint).2 }

/-- The run from the new device. Every step has its own surroundings. -/
def runDevice (steps : List (Environment × DeviceStep)) : DeviceRun :=
  steps.foldl (fun run step => step.2.step step.1 run) DeviceRun.start

section Queue

variable {cache : IdCache}

theorem mem_pushPacket {packet : Packet} {context : PendingContext} {entry : Entry}
    (member : entry ∈ (cache.pushPacket packet context).2.values) :
    entry ∈ cache.values ∨
      (entry.id ∈ (cache.pushPacket packet context).1.toList.map Prod.fst ∧
        entry.value.key = context.key ∧
        entry.value.connectionInstanceId = context.connectionInstanceId) := by
  unfold IdCache.pushPacket at member ⊢
  dsimp only at member ⊢
  split at member
  · exact .inl member
  · rename_i info built
    simp only [List.mem_append, List.mem_singleton] at member
    rcases member with old | rfl
    · exact .inl old
    · right
      simp

theorem mem_pushPackets {context : PendingContext} (packets : List Packet) {entry : Entry}
    (member : entry ∈ (cache.pushPackets context packets).2.values) :
    entry ∈ cache.values ∨
      (entry.id ∈ (cache.pushPackets context packets).1.map Prod.fst ∧
        entry.value.key = context.key ∧
        entry.value.connectionInstanceId = context.connectionInstanceId) := by
  induction packets generalizing cache with
  | nil => exact .inl member
  | cons packet rest ih =>
      simp only [IdCache.pushPackets, List.map_append, List.mem_append] at member ⊢
      rcases ih member with earlier | ⟨queued, same⟩
      · rcases mem_pushPacket earlier with old | ⟨queued, same⟩
        · exact .inl old
        · exact .inr ⟨.inl queued, same⟩
      · exact .inr ⟨.inr queued, same⟩

theorem values_indexRequest (connectionInstanceId : Option Nat) (threadId : Nat)
    (queued : List (Nat × ConnectionRequest)) :
    (queued.foldl (IdCache.indexRequest connectionInstanceId threadId) cache).values =
      cache.values := by
  induction queued generalizing cache with
  | nil => rfl
  | cons first rest ih => exact ih

theorem mem_push {key : Key} {packet : Packet} {connectionInstanceId : Option Nat}
    {processId threadId : Nat} {direction : Direction} {aleLayer : Bool} {entry : Entry}
    (member : entry ∈ (cache.push key packet connectionInstanceId processId threadId direction
      aleLayer).2.values) :
    entry ∈ cache.values ∨
      (entry.id ∈ (cache.push key packet connectionInstanceId processId threadId direction
          aleLayer).1.map Prod.fst ∧
        entry.value.key = key ∧ entry.value.connectionInstanceId = connectionInstanceId) := by
  unfold IdCache.push at member ⊢
  dsimp only at member ⊢
  rw [values_indexRequest] at member
  split at member
  · exact mem_pushPackets _ member
  · exact mem_pushPackets _ member

/-- An entry that was detached from an ended instance, or is as before. -/
def Detaches (before : List Entry) (entry : Entry) : Prop :=
  entry ∈ before ∨ ∃ original ∈ before,
    entry.id = original.id ∧ entry.value.key = original.value.key ∧
      entry.value.connectionInstanceId = none ∧
      entry.value.packet.survivesConnectionEnd entry.value.key = true

theorem Detaches.trans {before middle : List Entry} {entry : Entry}
    (later : Detaches middle entry) (earlier : ∀ other ∈ middle, Detaches before other) :
    Detaches before entry := by
  rcases later with kept | ⟨original, member, id, key, instanceId, survives⟩
  · exact earlier entry kept
  · rcases earlier original member with kept | ⟨first, inBefore, firstId, firstKey, _, _⟩
    · exact .inr ⟨original, kept, id, key, instanceId, survives⟩
    · exact .inr ⟨first, inBefore, id.trans firstId, key.trans firstKey, instanceId, survives⟩

theorem detaches_retirePendingId (values : List Entry) (threadIds : Std.TreeMap Nat Nat)
    (removed : List Entry) (id instanceId : Nat) :
    ∀ entry ∈ (retirePendingId values threadIds removed id instanceId).1,
      Detaches values entry := by
  intro entry member
  unfold retirePendingId at member
  split at member
  · exact .inl member
  · rename_i found foundEq
    split at member
    · exact .inl member
    · split at member
      · rename_i survives
        obtain ⟨before, after, stored, updated⟩ := modifyFirst_of_some foundEq fun entry : Entry =>
          { entry with value := { entry.value with connectionInstanceId := none } }
        rw [updated, List.mem_append, List.mem_cons] at member
        rcases member with early | rfl | late
        · exact .inl (by simp [stored, early])
        · exact .inr ⟨found, List.mem_of_find?_eq_some foundEq, rfl, rfl, rfl, survives⟩
        · exact .inl (by simp [stored, late])
      · exact .inl (List.mem_of_mem_eraseP member)

theorem detaches_retirePendingIds (ids : List (Nat × Nat)) (values : List Entry)
    (threadIds : Std.TreeMap Nat Nat) (removed : List Entry) :
    ∀ entry ∈ (retirePendingIds values threadIds removed ids).1, Detaches values entry := by
  induction ids generalizing values threadIds removed with
  | nil =>
      intro entry member
      exact .inl member
  | cons first rest ih =>
      intro entry member
      exact (ih _ _ _ entry member).trans
        (detaches_retirePendingId values threadIds removed first.1 first.2)

theorem detaches_retireInstance (instanceId : Nat) :
    ∀ entry ∈ (cache.retireInstance instanceId).2.values, Detaches cache.values entry := by
  intro entry member
  unfold IdCache.retireInstance at member
  split at member
  · exact .inl member
  · exact detaches_retirePendingIds _ _ _ _ entry member

theorem detaches_retireConnectionInstances (instanceIds : List Nat) :
    ∀ entry ∈ (cache.retireConnectionInstances instanceIds).2.values,
      Detaches cache.values entry := by
  intro entry member
  unfold IdCache.retireConnectionInstances at member
  split at member
  · exact .inl member
  · exact detaches_retireInstance _ entry member
  · dsimp only at member
    split at member
    · exact .inl member
    · split at member
      · split at member
        · exact .inl member
        · exact detaches_retireInstance _ entry member
      · exact detaches_retirePendingIds _ _ _ _ entry member

end Queue

/-- A request is bound to what it was published with, or it is an outbound UDP clone that was
detached from its ended instance. -/
structure RequestRecorded (published : List Publication) (id : Nat) (pending : PendingPacket) :
    Prop where
  publication : ∃ publication ∈ published, publication.id = id ∧
    publication.key = pending.key ∧
    (pending.connectionInstanceId = publication.connectionInstanceId ∨
      (pending.connectionInstanceId = none ∧
        pending.packet.survivesConnectionEnd pending.key = true))
  nonzero : pending.connectionInstanceId ≠ some 0

theorem RequestRecorded.mono {published later : List Publication} {id : Nat}
    {pending : PendingPacket} (recorded : RequestRecorded published id pending) :
    RequestRecorded (published ++ later) id pending := by
  obtain ⟨publication, member, rest⟩ := recorded.publication
  exact ⟨⟨publication, List.mem_append_left _ member, rest⟩, recorded.nonzero⟩

theorem RequestRecorded.detaches {published : List Publication} {values : List Entry}
    (recorded : ∀ entry ∈ values, RequestRecorded published entry.id entry.value)
    {entry : Entry} (detaches : Detaches values entry) :
    RequestRecorded published entry.id entry.value := by
  rcases detaches with member | ⟨original, member, id, key, instanceId, survives⟩
  · exact recorded entry member
  · obtain ⟨publication, inPublished, sameId, sameKey, _⟩ := (recorded original member).publication
    refine ⟨⟨publication, inPublished, sameId.trans id.symm, sameKey.trans key.symm,
      .inr ⟨instanceId, survives⟩⟩, ?_⟩
    rw [instanceId]
    exact nofun

structure RunInvariant (run : DeviceRun) : Prop where
  keptV4 : Kept run.device.connectionCache.connectionsV4 run.insertedV4
  keptV6 : Kept run.device.connectionCache.connectionsV6 run.insertedV6
  queued : ∀ entry ∈ run.device.packetCache.values,
    RequestRecorded run.published entry.id entry.value
  claimed : ∀ request ∈ run.claimed, RequestRecorded run.published request.id request.pending

section Steps

variable {run : DeviceRun} (environment : Environment)

theorem mem_enqueuePendingPacket {device : Device} {pending : PendingPacket}
    {processId threadId : Nat} {direction : Direction} {aleLayer : Bool} {entry : Entry}
    (member : entry ∈ (device.enqueuePendingPacket environment pending processId threadId direction
      aleLayer).2.packetCache.values) :
    entry ∈ device.packetCache.values ∨
      (entry.id ∈ (device.enqueuePendingPacket environment pending processId threadId direction
          aleLayer).1.map Prod.fst ∧
        entry.value.key = pending.key ∧
        entry.value.connectionInstanceId = pending.connectionInstanceId) :=
  mem_push member

theorem liveConnectionInstanceMatching_nonzero {cache : ConnectionCache}
    {ignoreSpecialPorts : Bool} {key : Key} {instanceId threadId : Nat}
    (live : cache.liveConnectionInstanceMatching ignoreSpecialPorts key instanceId =
      some threadId) : instanceId ≠ 0 := by
  rintro rfl
  cases live

theorem publishPendingPacket_spec (device : Device) (key : Key) (packet : Packet)
    (connectionInstanceId : Option Nat) (processId threadId : Nat) (direction : Direction)
    (aleLayer : Bool) {result : Option PendingPacket × List (Nat × ConnectionRequest) × Device}
    (published : device.publishPendingPacket environment key packet connectionInstanceId processId
      threadId direction aleLayer = result) :
    result.2.2.connectionCache = device.connectionCache ∧
      ∀ entry ∈ result.2.2.packetCache.values, entry ∈ device.packetCache.values ∨
        (entry.id ∈ result.2.1.map Prod.fst ∧ entry.value.key = key ∧
          entry.value.connectionInstanceId = connectionInstanceId ∧
          connectionInstanceId ≠ some 0) := by
  unfold Device.publishPendingPacket at published
  dsimp only at published
  split at published
  · split at published
    · rename_i instanceId _ live
      subst published
      refine ⟨rfl, ?_⟩
      intro entry member
      rcases mem_enqueuePendingPacket environment member with old | ⟨queued, key, bound⟩
      · exact .inl old
      · refine .inr ⟨queued, key, bound, ?_⟩
        rintro ⟨⟩
        exact liveConnectionInstanceMatching_nonzero live rfl
    · subst published
      exact ⟨rfl, fun entry member => .inl member⟩
  · subst published
    refine ⟨rfl, ?_⟩
    intro entry member
    rcases mem_enqueuePendingPacket environment member with old | ⟨queued, key, bound⟩
    · exact .inl old
    · exact .inr ⟨queued, key, bound, nofun⟩

theorem claimVerdict_spec (device : Device) (id : Nat) (value : UInt8) :
    (device.claimVerdict id value).2.connectionCache = device.connectionCache ∧
      (∀ entry ∈ (device.claimVerdict id value).2.packetCache.values,
        entry ∈ device.packetCache.values) ∧
      ∀ request, (device.claimVerdict id value).1 = some request →
        ∃ entry ∈ device.packetCache.values, entry.id = id ∧ entry.value = request.1 := by
  unfold Device.claimVerdict
  split
  · exact ⟨rfl, fun entry member => member, fun request none => (nomatch none)⟩
  · rename_i action valid
    unfold IdCache.popId
    cases found : device.packetCache.values.find? fun entry => entry.id == id with
    | none => exact ⟨rfl, fun entry member => member, fun request none => (nomatch none)⟩
    | some entry =>
        refine ⟨rfl, fun other member => List.mem_of_mem_eraseP member, ?_⟩
        rintro request ⟨⟩
        exact ⟨entry, List.mem_of_find?_eq_some found, by simpa using List.find?_some found, rfl⟩

def verdictUpdate {A : Type} [AddressFamily A] (verdict : Verdict) : EntryUpdate A where
  apply := setVerdict verdict
  keepsTuple _ := rfl
  keepsInstance _ := rfl

theorem kept_updateConnectionInstance {cache : ConnectionCache} {insertedV4 insertedV6 : List Nat}
    (keptV4 : Kept cache.connectionsV4 insertedV4) (keptV6 : Kept cache.connectionsV6 insertedV6)
    (ignoreSpecialPorts : Bool) (now : Nat) (key : Key) (instanceId : Nat) (verdict : Verdict) :
    Kept (cache.updateConnectionInstance ignoreSpecialPorts now key instanceId
        verdict).2.connectionsV4 insertedV4 ∧
      Kept (cache.updateConnectionInstance ignoreSpecialPorts now key instanceId
        verdict).2.connectionsV6 insertedV6 := by
  unfold ConnectionCache.updateConnectionInstance
  split
  · refine ⟨keptV4, ?_⟩
    have before : Kept (MapRun.mk cache.connectionsV6 insertedV6 []).state insertedV6 := keptV6
    exact kept_stepWith before ignoreSpecialPorts
      (.getMutInstance now key instanceId (verdictUpdate verdict))
  · refine ⟨?_, keptV6⟩
    have before : Kept (MapRun.mk cache.connectionsV4 insertedV4 []).state insertedV4 := keptV4
    exact kept_stepWith before ignoreSpecialPorts
      (.getMutInstance now key instanceId (verdictUpdate verdict))

theorem applyVerdict_device (device : Device) (now : Nat) (pending : PendingPacket)
    (action : Verdict) :
    (device.applyVerdict environment now pending action).2 =
      match pending.connectionInstanceId with
      | some instanceId =>
          { device with connectionCache := (device.connectionCache.updateConnectionInstance
              environment.ignoreSpecialPorts now pending.key instanceId action).2 }
      | none => device := by
  unfold Device.applyVerdict
  dsimp only
  cases pending.connectionInstanceId with
  | none => rfl
  | some instanceId =>
      dsimp only
      split
      · rename_i updated
        rw [updated]
      · rename_i updated
        rw [updated]
        split <;> rfl

theorem kept_endTcpInstance (device : Device) {insertedV4 insertedV6 : List Nat}
    (keptV4 : Kept device.connectionCache.connectionsV4 insertedV4)
    (keptV6 : Kept device.connectionCache.connectionsV6 insertedV6) (now : Nat)
    (endpoint : TcpEndpointConnection) :
    Kept (device.endTcpInstance now endpoint).2.connectionCache.connectionsV4 insertedV4 ∧
      Kept (device.endTcpInstance now endpoint).2.connectionCache.connectionsV6 insertedV6 ∧
      (device.endTcpInstance now endpoint).2.packetCache = device.packetCache := by
  unfold Device.endTcpInstance
  dsimp only
  split
  · refine ⟨keptV4, ?_, rfl⟩
    have before : Kept (MapRun.mk device.connectionCache.connectionsV6 insertedV6 []).state
      insertedV6 := keptV6
    exact kept_step before (.endInstance now endpoint.key endpoint.instanceId)
  · refine ⟨?_, keptV6, rfl⟩
    have before : Kept (MapRun.mk device.connectionCache.connectionsV4 insertedV4 []).state
      insertedV4 := keptV4
    exact kept_step before (.endInstance now endpoint.key endpoint.instanceId)

theorem deferTcpEndpointClosure_cases (device : Device) (now : Nat)
    (endpoint : TcpEndpointConnection) (processId : Nat) (pendClassify : Except String Nat) :
    (device.deferTcpEndpointClosure now endpoint processId pendClassify).2.2 =
        (device.endTcpInstance now endpoint).2 ∨
      ∃ closures, (device.deferTcpEndpointClosure now endpoint processId pendClassify).2.2 =
        { device with tcpClosureCache := closures } := by
  unfold Device.deferTcpEndpointClosure
  generalize (if endpoint.key.isIpv6 = true then _ else _ : Bool) = live
  cases live with
  | false => exact .inr ⟨device.tcpClosureCache, rfl⟩
  | true =>
      simp only [Bool.not_true, Bool.false_eq_true, ↓reduceIte]
      split
      · exact .inl rfl
      · cases pendClassify with
        | error error => exact .inr ⟨device.tcpClosureCache, rfl⟩
        | ok classify =>
            dsimp only
            split
            · exact .inr ⟨_, rfl⟩
            · exact .inr ⟨_, rfl⟩

theorem runInvariant_step (invariant : RunInvariant run) (step : DeviceStep) :
    RunInvariant (step.step environment run) := by
  obtain ⟨keptV4, keptV6, queued, claimed⟩ := invariant
  cases step with
  | mapV4 op =>
      have before : Kept (MapRun.mk run.device.connectionCache.connectionsV4 run.insertedV4
        []).state run.insertedV4 := keptV4
      exact ⟨kept_stepWith before environment.ignoreSpecialPorts op, keptV6, queued, claimed⟩
  | mapV6 op =>
      have before : Kept (MapRun.mk run.device.connectionCache.connectionsV6 run.insertedV6
        []).state run.insertedV6 := keptV6
      exact ⟨keptV4, kept_stepWith before environment.ignoreSpecialPorts op, queued, claimed⟩
  | clearCache =>
      exact ⟨⟨[], ConnectionMap.represents_empty, List.nil_sublist _⟩,
        ⟨[], ConnectionMap.represents_empty, List.nil_sublist _⟩, queued, claimed⟩
  | publish key packet connectionInstanceId processId threadId direction aleLayer =>
      have spec := publishPendingPacket_spec environment run.device key packet connectionInstanceId
        processId threadId direction aleLayer rfl
      simp only [DeviceStep.step]
      refine ⟨spec.1 ▸ keptV4, spec.1 ▸ keptV6, ?_, fun request member =>
        (claimed request member).mono⟩
      intro entry member
      rcases spec.2 entry member with old | ⟨new, sameKey, bound, nonzero⟩
      · exact (queued entry old).mono
      · obtain ⟨request, inQueued, sameId⟩ := List.mem_map.mp new
        refine ⟨⟨_, List.mem_append_right _ (List.mem_map_of_mem inQueued), sameId,
          sameKey.symm, .inl bound⟩, ?_⟩
        rwa [bound]
  | retire instanceIds =>
      refine ⟨keptV4, keptV6, ?_, claimed⟩
      intro entry member
      exact RequestRecorded.detaches queued (detaches_retireConnectionInstances _ entry member)
  | claim id value =>
      obtain ⟨cache, values, taken⟩ := claimVerdict_spec run.device id value
      simp only [DeviceStep.step]
      refine ⟨cache ▸ keptV4, cache ▸ keptV6, fun entry member =>
        queued entry (values entry member), ?_⟩
      intro request member
      rcases List.mem_append.mp member with old | new
      · exact claimed request old
      · obtain ⟨found, isSome, rfl⟩ := Option.map_eq_some_iff.mp (Option.mem_toList.mp new)
        obtain ⟨entry, inQueue, sameId, sameValue⟩ := taken found isSome
        have recorded := queued entry inQueue
        rwa [sameId, sameValue] at recorded
  | applyClaimed index now =>
      simp only [DeviceStep.step]
      split
      · exact ⟨keptV4, keptV6, queued, claimed⟩
      · rename_i request found
        have remaining : ∀ other ∈ run.claimed.eraseIdx index,
            RequestRecorded run.published other.id other.pending :=
          fun other member => claimed other (List.mem_of_mem_eraseIdx member)
        simp only [applyVerdict_device]
        cases request.pending.connectionInstanceId with
        | none => exact ⟨keptV4, keptV6, queued, remaining⟩
        | some instanceId =>
            have kept := kept_updateConnectionInstance keptV4 keptV6
              environment.ignoreSpecialPorts now request.pending.key instanceId request.action
            exact ⟨kept.1, kept.2, queued, remaining⟩
  | finish id => exact ⟨keptV4, keptV6, queued, claimed⟩
  | deferClosure now endpoint processId pendClassify =>
      have kept := kept_endTcpInstance run.device keptV4 keptV6 now endpoint
      simp only [DeviceStep.step]
      rcases deferTcpEndpointClosure_cases run.device now endpoint processId pendClassify with
        ended | ⟨closures, deferred⟩
      · rw [ended]
        exact ⟨kept.1, kept.2.1, kept.2.2 ▸ queued, claimed⟩
      · rw [deferred]
        exact ⟨keptV4, keptV6, queued, claimed⟩
  | completeClosure now endpoint =>
      simp only [DeviceStep.step, Device.completeReadyTcpEndpointClosure]
      split
      · exact ⟨keptV4, keptV6, queued, claimed⟩
      · rename_i closures taken
        have kept := kept_endTcpInstance { run.device with tcpClosureCache := closures } keptV4
          keptV6 now endpoint
        refine ⟨kept.1, kept.2.1, ?_, claimed⟩
        intro entry member
        rw [kept.2.2] at member
        exact queued entry member

end Steps

theorem runInvariant_start : RunInvariant DeviceRun.start :=
  ⟨⟨[], ConnectionMap.represents_empty, List.nil_sublist _⟩,
    ⟨[], ConnectionMap.represents_empty, List.nil_sublist _⟩, fun _ member => (nomatch member),
    fun _ member => (nomatch member)⟩

theorem runInvariant_runDevice (steps : List (Environment × DeviceStep)) :
    RunInvariant (runDevice steps) := by
  suffices held : ∀ run, RunInvariant run →
      RunInvariant (steps.foldl (fun run step => step.2.step step.1 run) run) from
    held DeviceRun.start runInvariant_start
  induction steps with
  | nil => exact fun run invariant => invariant
  | cons step rest ih =>
      exact fun run invariant => ih _ (runInvariant_step step.1 invariant step.2)

section Isolation

variable {A : Type} [AddressFamily A] [DecidableEq A]

/-- One addressed live entry gets the verdict, and no other entry has its instance id. -/
def ReplacesEntry (ignoreSpecialPorts : Bool) (now : Nat) (key : Key) (instanceId : Nat)
    (action : Verdict) (before after : ConnectionMap A) : Prop :=
  ∃ connection rest, before.entries.Perm (connection :: rest) ∧
    after.entries.Perm (setVerdict action (refreshUntrackedActivity now connection) :: rest) ∧
    MatchesRequest ignoreSpecialPorts key instanceId connection ∧
    ∀ other ∈ rest, other.instanceId ≠ instanceId

def Addresses (ignoreSpecialPorts : Bool) (key : Key) (instanceId : Nat)
    (map : ConnectionMap A) : Prop :=
  ∃ connection ∈ map.entries, MatchesRequest ignoreSpecialPorts key instanceId connection

theorem addresses_iff {map : ConnectionMap A} {flat : List (Connection A)}
    (represents : map.Represents flat) {ignoreSpecialPorts : Bool} {key : Key} {instanceId : Nat} :
    Addresses ignoreSpecialPorts key instanceId map ↔
      ∃ connection ∈ flat, MatchesRequest ignoreSpecialPorts key instanceId connection := by
  constructor
  · rintro ⟨connection, member, matched⟩
    exact ⟨connection, represents.entries_perm.mem_iff.mp member, matched⟩
  · rintro ⟨connection, member, matched⟩
    exact ⟨connection, represents.entries_perm.mem_iff.mpr member, matched⟩

/-- An instance update finds its entry exactly when the map addresses it, and returns it with
the new verdict. -/
theorem getMutInstance_verdict {map : ConnectionMap A} {inserted : List Nat}
    (kept : Kept map inserted) (ignoreSpecialPorts : Bool) (now : Nat) {key : Key}
    {instanceId : Nat} (nonzero : instanceId ≠ 0)
    (family : (AddressFamily.ofIpAddress (A := A) key.localAddress).isSome) (action : Verdict) :
    ((¬ Addresses ignoreSpecialPorts key instanceId map) ∧
        map.getMutInstance ignoreSpecialPorts now key instanceId (setVerdict action) =
          (none, map)) ∨
      (Addresses ignoreSpecialPorts key instanceId map ∧
        ∃ updated,
          (map.getMutInstance ignoreSpecialPorts now key instanceId (setVerdict action)).1 =
            some updated ∧ updated.verdict = action) := by
  obtain ⟨flat, represents, stored⟩ := kept
  have cases : InstanceUpdate ignoreSpecialPorts now key instanceId (setVerdict action) map flat
      (map.getMutInstance ignoreSpecialPorts now key instanceId (setVerdict action)) :=
    getMutInstance_cases represents nonzero family (verdictUpdate action)
  rw [addresses_iff represents]
  generalize map.getMutInstance ignoreSpecialPorts now key instanceId (setVerdict action) = result
    at cases
  cases cases with
  | absent missing =>
      refine .inl ⟨?_, rfl⟩
      rintro ⟨connection, member, matched⟩
      exact missing connection member matched
  | replaced before after connection split matched updated returned result updates =>
      obtain ⟨original, rfl⟩ := returned
      exact .inr ⟨⟨connection, by simp [split], matched⟩, _, rfl, rfl⟩

theorem getMutInstance_replaces {map : ConnectionMap A} {inserted : List Nat}
    (kept : Kept map inserted) (unique : inserted.Nodup) (ignoreSpecialPorts : Bool) (now : Nat)
    {key : Key} {instanceId : Nat} (nonzero : instanceId ≠ 0)
    (family : (AddressFamily.ofIpAddress (A := A) key.localAddress).isSome) (action : Verdict)
    (addressed : Addresses ignoreSpecialPorts key instanceId map) :
    ReplacesEntry ignoreSpecialPorts now key instanceId action map
      (map.getMutInstance ignoreSpecialPorts now key instanceId (setVerdict action)).2 := by
  obtain ⟨flat, represents, stored⟩ := kept
  have cases : InstanceUpdate ignoreSpecialPorts now key instanceId (setVerdict action) map flat
      (map.getMutInstance ignoreSpecialPorts now key instanceId (setVerdict action)) :=
    getMutInstance_cases represents nonzero family (verdictUpdate action)
  rw [addresses_iff represents] at addressed
  generalize map.getMutInstance ignoreSpecialPorts now key instanceId (setVerdict action) = result
    at cases
  cases cases with
  | absent missing =>
      obtain ⟨connection, member, matched⟩ := addressed
      exact absurd matched (missing connection member)
  | replaced before after connection split matched updated returned result updates =>
      subst split
      refine ⟨connection, before ++ after, represents.entries_perm.trans List.perm_middle,
        updates.entries_perm.trans List.perm_middle, matched, ?_⟩
      intro other member same
      have distinct := unique.sublist stored
      rw [List.map_append, List.map_cons] at distinct
      have head := List.perm_middle.nodup_iff.mp distinct
      rw [List.nodup_cons] at head
      refine head.1 ?_
      rw [matched.instance_eq, ← same, ← List.map_append]
      exact List.mem_map_of_mem member

end Isolation

def blockedCompletion : Packet → List Effect
  | .aleLayer { kind := .initial context, packetList := _ } => [.completeOperation context none]
  | _ => []

/-- The verdict decides the packet and nothing else. Without redirect info every verdict but
an accept blocks it. -/
def packetDecision (wfp : Wfp) (action : Verdict) (packet : Packet) : List Effect :=
  match action with
  | .accept | .permanentAccept => (injectVerdictPacket wfp packet false).2
  | _ => (injectVerdictPacket wfp packet true).2

theorem injectPacket_blocked (wfp : Wfp) (packet : Packet) :
    (injectPacket wfp packet true).2 = blockedCompletion packet := by
  cases packet with
  | network nbl injectInfo => rfl
  | networkBatch nbls injectInfo => rfl
  | aleLayer defer =>
      obtain ⟨kind, packetList⟩ := defer
      cases kind <;> rfl

theorem verdictEffects_none (wfp : Wfp) (smoltcp : Smoltcp) (action : Verdict) (packet : Packet) :
    verdictEffects wfp smoltcp action none packet = packetDecision wfp action packet := by
  cases action <;> rfl

def CacheAddresses (ignoreSpecialPorts : Bool) (key : Key) (instanceId : Nat)
    (cache : ConnectionCache) : Prop :=
  if key.isIpv6 then Addresses ignoreSpecialPorts key instanceId cache.connectionsV6
  else Addresses ignoreSpecialPorts key instanceId cache.connectionsV4

def CacheReplaces (ignoreSpecialPorts : Bool) (now : Nat) (key : Key) (instanceId : Nat)
    (action : Verdict) (before after : ConnectionCache) : Prop :=
  if key.isIpv6 then
    after.connectionsV4 = before.connectionsV4 ∧
      ReplacesEntry ignoreSpecialPorts now key instanceId action before.connectionsV6
        after.connectionsV6
  else
    after.connectionsV6 = before.connectionsV6 ∧
      ReplacesEntry ignoreSpecialPorts now key instanceId action before.connectionsV4
        after.connectionsV4

theorem ofIpAddress_of_ipv4 {key : Key} (family : key.isIpv6 = false) :
    (AddressFamily.ofIpAddress (A := Ipv4Address) key.localAddress).isSome := by
  unfold Key.isIpv6 at family
  split at family
  · rename_i address
    rw [address]
    rfl
  · cases family

theorem ofIpAddress_of_ipv6 {key : Key} (family : key.isIpv6 = true) :
    (AddressFamily.ofIpAddress (A := Ipv6Address) key.localAddress).isSome := by
  unfold Key.isIpv6 at family
  split at family
  · cases family
  · rename_i address
    rw [address]
    rfl

section CacheUpdate

variable {cache : ConnectionCache} {insertedV4 insertedV6 : List Nat}
  (keptV4 : Kept cache.connectionsV4 insertedV4) (keptV6 : Kept cache.connectionsV6 insertedV6)
  (ignoreSpecialPorts : Bool) (now : Nat) (key : Key) {instanceId : Nat}
  (nonzero : instanceId ≠ 0) (action : Verdict)

include keptV4 keptV6 nonzero

/-- The update succeeds exactly when the cache addresses the instance, and a redirect verdict
then has redirect info. -/
theorem updateConnectionInstance_cases :
    ((¬ CacheAddresses ignoreSpecialPorts key instanceId cache) ∧
        cache.updateConnectionInstance ignoreSpecialPorts now key instanceId action =
          (none, cache)) ∨
      (CacheAddresses ignoreSpecialPorts key instanceId cache ∧
        ∃ update,
          (cache.updateConnectionInstance ignoreSpecialPorts now key instanceId action).1 =
            some update ∧ (action.isRedirect = true → update.redirectInfo.isSome = true)) := by
  have redirects {A : Type} [AddressFamily A] {updated : Connection A}
      (verdict : updated.verdict = action) (redirect : action.isRedirect = true) :
      updated.redirectInfo.isSome = true := by
    unfold Connection.redirectInfo
    rw [verdict]
    cases action <;> first | rfl | cases redirect
  unfold CacheAddresses ConnectionCache.updateConnectionInstance
  cases family : key.isIpv6 with
  | false =>
      have known := ofIpAddress_of_ipv4 family
      simp only [Bool.false_eq_true, ↓reduceIte]
      rcases getMutInstance_verdict keptV4 ignoreSpecialPorts now nonzero known action with
        ⟨missing, same⟩ | ⟨addressed, updated, found, verdict⟩
      · exact .inl ⟨missing, by rw [same]; rfl⟩
      · exact .inr ⟨addressed, _, by rw [found]; rfl, redirects verdict⟩
  | true =>
      have known := ofIpAddress_of_ipv6 family
      simp only [↓reduceIte]
      rcases getMutInstance_verdict keptV6 ignoreSpecialPorts now nonzero known action with
        ⟨missing, same⟩ | ⟨addressed, updated, found, verdict⟩
      · exact .inl ⟨missing, by rw [same]; rfl⟩
      · exact .inr ⟨addressed, _, by rw [found]; rfl, redirects verdict⟩

theorem updateConnectionInstance_replaces (uniqueV4 : insertedV4.Nodup)
    (uniqueV6 : insertedV6.Nodup)
    (addressed : CacheAddresses ignoreSpecialPorts key instanceId cache) :
    CacheReplaces ignoreSpecialPorts now key instanceId action cache
      (cache.updateConnectionInstance ignoreSpecialPorts now key instanceId action).2 := by
  unfold CacheAddresses at addressed
  unfold CacheReplaces ConnectionCache.updateConnectionInstance
  cases family : key.isIpv6 with
  | false =>
      have known := ofIpAddress_of_ipv4 family
      simp only [family, Bool.false_eq_true, ↓reduceIte] at addressed ⊢
      exact ⟨trivial, getMutInstance_replaces keptV4 uniqueV4 ignoreSpecialPorts now nonzero known
        action addressed⟩
  | true =>
      have known := ofIpAddress_of_ipv6 family
      simp only [family, ↓reduceIte] at addressed ⊢
      exact ⟨trivial, getMutInstance_replaces keptV6 uniqueV6 ignoreSpecialPorts now nonzero known
        action addressed⟩

end CacheUpdate

theorem packetDecision_redirect_clone (wfp : Wfp) {action : Verdict} {packet : Packet} {key : Key}
    (redirect : action.isRedirect = true) (clone : packet.survivesConnectionEnd key = true) :
    packetDecision wfp action packet = [] := by
  have blocked : packetDecision wfp action packet = (injectVerdictPacket wfp packet true).2 := by
    cases action <;> first | rfl | cases redirect
  rw [blocked]
  cases packet with
  | network nbl injectInfo => rfl
  | networkBatch nbls injectInfo => rfl
  | aleLayer defer => simp [Packet.survivesConnectionEnd] at clone

/-- The live entry that was recorded with a publication and matches its key. -/
def Publication.Live (ignoreSpecialPorts : Bool) (publication : Publication)
    (cache : ConnectionCache) : Prop :=
  ∃ instanceId, publication.connectionInstanceId = some instanceId ∧
    CacheAddresses ignoreSpecialPorts publication.key instanceId cache

/-- What applying a verdict to a claimed request does to a device. -/
structure VerdictIsolated (environment : Environment) (now : Nat) (device : Device)
    (publication : Publication) (request : ClaimedRequest) : Prop where
  /-- At most the live entry of the publication changes. -/
  entry : (device.applyVerdict environment now request.pending request.action).2 = device ∨
    ∃ instanceId cache, publication.connectionInstanceId = some instanceId ∧
      (device.applyVerdict environment now request.pending request.action).2 =
        { device with connectionCache := cache } ∧
      CacheReplaces environment.ignoreSpecialPorts now publication.key instanceId request.action
        device.connectionCache cache
  /-- Without that entry nothing changes. -/
  gone : ¬ publication.Live environment.ignoreSpecialPorts device.connectionCache →
    (device.applyVerdict environment now request.pending request.action).2 = device
  /-- A packet of a connection that is gone is blocked. -/
  blocked : publication.connectionInstanceId.isSome = true →
    ¬ publication.Live environment.ignoreSpecialPorts device.connectionCache →
    request.pending.packet.survivesConnectionEnd publication.key = false →
    (device.applyVerdict environment now request.pending request.action).1 =
      blockedCompletion request.pending.packet
  /-- An outbound UDP clone, and a packet that never had a connection, is decided alone. -/
  alone : publication.connectionInstanceId = none ∨
      request.pending.packet.survivesConnectionEnd publication.key = true →
    ¬ publication.Live environment.ignoreSpecialPorts device.connectionCache →
    (device.applyVerdict environment now request.pending request.action).1 =
      packetDecision environment.wfp request.action request.pending.packet
  redirected : request.pending.packet.survivesConnectionEnd publication.key = true →
    ¬ publication.Live environment.ignoreSpecialPorts device.connectionCache →
    request.action.isRedirect = true →
    (device.applyVerdict environment now request.pending request.action).1 = []

section Application

variable (environment : Environment) (now : Nat) (device : Device) (pending : PendingPacket)
  (action : Verdict)

theorem applyVerdict_of_unbound (unbound : pending.connectionInstanceId = none) :
    device.applyVerdict environment now pending action =
      (packetDecision environment.wfp action pending.packet, device) := by
  unfold Device.applyVerdict
  simp only [unbound, verdictEffects_none]

theorem applyVerdict_of_gone {instanceId : Nat}
    (bound : pending.connectionInstanceId = some instanceId)
    (gone : device.connectionCache.updateConnectionInstance environment.ignoreSpecialPorts now
      pending.key instanceId action = (none, device.connectionCache)) :
    device.applyVerdict environment now pending action =
      (if pending.packet.survivesConnectionEnd pending.key then
          packetDecision environment.wfp action pending.packet
        else blockedCompletion pending.packet, device) := by
  unfold Device.applyVerdict
  simp only [bound, gone, verdictEffects_none, injectPacket_blocked]
  split <;> rfl

end Application

theorem verdictIsolated_of_unbound (environment : Environment) (now : Nat) (device : Device)
    {publication : Publication} {request : ClaimedRequest}
    (unbound : request.pending.connectionInstanceId = none)
    (detached : publication.connectionInstanceId = none ∨
      request.pending.packet.survivesConnectionEnd publication.key = true) :
    VerdictIsolated environment now device publication request := by
  have result := applyVerdict_of_unbound environment now device request.pending request.action
    unbound
  constructor
  · exact .inl (by rw [result])
  · intro _
    rw [result]
  · intro published _ stays
    rcases detached with never | survives
    · rw [never] at published
      cases published
    · rw [survives] at stays
      cases stays
  · intro _ _
    rw [result]
  · intro survives _ redirect
    rw [result]
    exact packetDecision_redirect_clone environment.wfp redirect survives

theorem verdictIsolated_of_bound {run : DeviceRun} (invariant : RunInvariant run)
    (uniqueV4 : run.insertedV4.Nodup) (uniqueV6 : run.insertedV6.Nodup)
    (environment : Environment) (now : Nat) {publication : Publication}
    {request : ClaimedRequest} {instanceId : Nat}
    (bound : request.pending.connectionInstanceId = some instanceId) (nonzero : instanceId ≠ 0)
    (recorded : publication.connectionInstanceId = some instanceId)
    (sameKey : publication.key = request.pending.key) :
    VerdictIsolated environment now run.device publication request := by
  have device := applyVerdict_device environment run.device now request.pending request.action
  simp only [bound] at device
  rcases updateConnectionInstance_cases invariant.keptV4 invariant.keptV6
    environment.ignoreSpecialPorts now request.pending.key nonzero request.action with
    ⟨missing, same⟩ | ⟨addressed, _⟩
  · have result := applyVerdict_of_gone environment now run.device request.pending request.action
      bound same
    constructor
    · exact .inl (by rw [result])
    · intro _
      rw [result]
    · intro _ _ stays
      rw [result, ← sameKey, stays]
      rfl
    · intro detached _
      rcases detached with never | survives
      · rw [recorded] at never
        cases never
      · rw [result, ← sameKey, survives]
        rfl
    · intro survives _ redirect
      rw [result, ← sameKey, survives]
      exact packetDecision_redirect_clone environment.wfp redirect survives
  · have replaces := updateConnectionInstance_replaces invariant.keptV4 invariant.keptV6
      environment.ignoreSpecialPorts now request.pending.key nonzero request.action uniqueV4
      uniqueV6 addressed
    have live : publication.Live environment.ignoreSpecialPorts run.device.connectionCache :=
      ⟨instanceId, recorded, sameKey ▸ addressed⟩
    constructor
    · exact .inr ⟨instanceId, _, recorded, device, sameKey ▸ replaces⟩
    · exact fun gone => absurd live gone
    · exact fun _ gone => absurd live gone
    · exact fun _ gone => absurd live gone
    · exact fun _ gone => absurd live gone

theorem claimVerdict_of_unqueued (device : Device) (id : Nat) (value : UInt8)
    (unqueued : ∀ entry ∈ device.packetCache.values, entry.id ≠ id) :
    device.claimVerdict id value = (none, device) := by
  have absent : (device.packetCache.values.find? fun entry => entry.id == id) = none := by
    rw [List.find?_eq_none]
    intro entry member
    simpa using unqueued entry member
  unfold Device.claimVerdict IdCache.popId
  split
  · rfl
  · rw [absent]
    rfl

/-- Verdicts are isolated by generation: in every run a Verdict command for an unqueued request
changes nothing, claiming a request changes no connection, and a claimed request, applied at any
later moment, reaches at most the live entry it was published with. -/
theorem verdict_isolated (steps : List (Environment × DeviceStep))
    (unique : ((runDevice steps).insertedV4 ++ (runDevice steps).insertedV6).Nodup) :
    (∀ id value, (∀ entry ∈ (runDevice steps).device.packetCache.values, entry.id ≠ id) →
      (runDevice steps).device.claimVerdict id value = (none, (runDevice steps).device)) ∧
    (∀ id value, ((runDevice steps).device.claimVerdict id value).2.connectionCache =
      (runDevice steps).device.connectionCache) ∧
    ∀ request ∈ (runDevice steps).claimed, ∀ environment now,
      ∃ publication ∈ (runDevice steps).published, publication.id = request.id ∧
        publication.key = request.pending.key ∧
        VerdictIsolated environment now (runDevice steps).device publication request := by
  have invariant := runInvariant_runDevice steps
  refine ⟨fun id value unqueued => claimVerdict_of_unqueued _ id value unqueued,
    fun id value => (claimVerdict_spec _ id value).1, ?_⟩
  intro request claimed environment now
  obtain ⟨⟨publication, member, sameId, sameKey, binding⟩, nonzero⟩ :=
    invariant.claimed request claimed
  refine ⟨publication, member, sameId, sameKey, ?_⟩
  rw [List.nodup_append] at unique
  cases bound : request.pending.connectionInstanceId with
  | none =>
      refine verdictIsolated_of_unbound environment now _ bound ?_
      rcases binding with same | ⟨_, survives⟩
      · exact .inl (by rw [← same, bound])
      · exact .inr (sameKey ▸ survives)
  | some instanceId =>
      have recorded : publication.connectionInstanceId = some instanceId := by
        rcases binding with same | ⟨unbound, _⟩
        · rw [← same, bound]
        · rw [bound] at unbound
          cases unbound
      refine verdictIsolated_of_bound invariant unique.1 unique.2.1 environment now bound ?_
        recorded sameKey
      rintro rfl
      exact nonzero bound

section Scenarios

/-- Surroundings in which every call succeeds. -/
def scenarioEnvironment : Environment where
  smoltcp := Smoltcp.documented
  wfp := {
    resetFilters := .ok ()
    injectNetwork _ _ := .ok ()
    injectTransport _ := .ok () }
  ignoreSpecialPorts := false
  inboundUdpPidFallbackEnabled := false
  currentProcessId := 8
  currentThreadId := 12
  ownerPid := 100

def outboundInfo : InjectInfo where
  ipv6 := false
  inbound := false
  loopback := false
  compartmentId := none
  interfaceIndex := 1
  subInterfaceIndex := 0

/-- A clone is queued for the first generation of a tuple and its verdict is claimed. Then the
generation ends and the tuple is reused. -/
def lateVerdict : List (Environment × DeviceStep) :=
  [.mapV4 (.insertIfAbsentWith (resolverConnection 1) .unchanged),
    .publish resolverKey (.network ⟨some []⟩ outboundInfo) (some 1) 8 0 .outbound false,
    .claim 1 3, .mapV4 (.endInstance 5 resolverKey 1),
    .mapV4 (.insertIfAbsentWith (resolverConnection 2) .unchanged)].map (scenarioEnvironment, ·)

theorem verdict_isolated_lateVerdict :
    (runDevice lateVerdict).insertedV4 = [1, 2] ∧
      ∃ request ∈ (runDevice lateVerdict).claimed,
        ∃ publication ∈ (runDevice lateVerdict).published, publication.id = request.id ∧
          publication.key = request.pending.key ∧
          VerdictIsolated scenarioEnvironment 9 (runDevice lateVerdict).device publication
            request := by
  have insertedV4 : (runDevice lateVerdict).insertedV4 = [1, 2] := by rfl
  have insertedV6 : (runDevice lateVerdict).insertedV6 = [] := by rfl
  have count : (runDevice lateVerdict).claimed.length = 1 := by rfl
  obtain ⟨request, claimed⟩ := List.length_eq_one_iff.mp count
  have member : request ∈ (runDevice lateVerdict).claimed := by simp [claimed]
  have unique : ((runDevice lateVerdict).insertedV4 ++
      (runDevice lateVerdict).insertedV6).Nodup := by
    rw [insertedV4, insertedV6]
    decide
  exact ⟨insertedV4, request, member,
    (verdict_isolated lateVerdict unique).2.2 request member scenarioEnvironment 9⟩

def echoKey : Key where
  protocol := .icmp
  localAddress := .ipv4 (Ipv4Address.new 10 0 0 1)
  localPort := 0
  remoteAddress := .ipv4 (Ipv4Address.new 1 1 1 1)
  remotePort := 0

/-- An echo request has no connection. It is published without an instance and accepted. -/
def echoRequest : List (Environment × DeviceStep) :=
  [.publish echoKey (.network ⟨some []⟩ outboundInfo) none 8 12 .outbound false,
    .claim 1 2].map (scenarioEnvironment, ·)

/-- A request without a connection has no live entry and is no UDP clone. Its packet is injected
and not blocked. -/
theorem echoRequest_injected :
    ∃ request ∈ (runDevice echoRequest).claimed,
      ((runDevice echoRequest).insertedV4 ++ (runDevice echoRequest).insertedV6).Nodup ∧
      (∀ publication ∈ (runDevice echoRequest).published,
        ¬ publication.Live false (runDevice echoRequest).device.connectionCache) ∧
      request.pending.packet.survivesConnectionEnd request.pending.key = false ∧
      ((runDevice echoRequest).device.applyVerdict scenarioEnvironment 9 request.pending
        request.action).1 ≠ blockedCompletion request.pending.packet := by
  refine ⟨_, List.mem_singleton_self _, by decide, ?_, rfl, nofun⟩
  intro publication member
  have published : (runDevice echoRequest).published = [⟨1, echoKey, none⟩] := by rfl
  rw [published, List.mem_singleton] at member
  subst member
  rintro ⟨instanceId, recorded, _⟩
  cases recorded

end Scenarios

end WindowsKext
