import WindowsKext.DeviceThreadsCore

/-! The connection generations of the driver while its threads run. A task does nothing to the
connection maps, or one map operation on one of them, so that the lifecycle of the maps carries
over to the driver: an ended generation is never live again, and its id is never used again. -/

namespace WindowsKext

open FirstMatch Interleaving Relation

section Family

variable {A : Type} [AddressFamily A]

theorem Evolves.trans {first second third : Connection A} (earlier : Evolves first second)
    (later : Evolves second third) : Evolves first third where
  tuple := later.tuple.trans earlier.tuple
  instanceId := later.instanceId.trans earlier.instanceId
  frozen ended := by
    have same := earlier.frozen ended
    subst same
    exact later.frozen ended

theorem source_of_star {before after : MapRun (List (Connection A))}
    (advances : ReflTransGen Advances before after) (fresh : after.inserted.Nodup)
    (lifecycle : Lifecycle before) {entry : Connection A} (member : entry ∈ after.state) :
    (∃ earlier ∈ before.state, Evolves earlier entry) ∨
      (entry.instanceId ∉ before.inserted ∧ entry.instanceId ∈ after.inserted) := by
  induction advances generalizing entry with
  | refl => exact .inl ⟨entry, member, Evolves.refl entry⟩
  | tail star last ih =>
      have grows := last.inserted_extends
      rcases last.source fresh member with ⟨middle, inMiddle, step⟩ | new
      · rcases ih (fresh.sublist grows.sublist) inMiddle with ⟨first, inFirst, steps⟩ | new
        · exact .inl ⟨first, inFirst, steps.trans step⟩
        · rw [← step.instanceId] at new
          exact .inr ⟨new.1, grows.subset new.2⟩
      · have stored := (last.lifecycle fresh (lifecycle_of_star star
          (fresh.sublist grows.sublist) lifecycle)).stored
        refine .inr ⟨fun old => new ((inserted_extends_of_star star).subset old), ?_⟩
        exact stored.mem (List.mem_map_of_mem member)

/-- A map that is in step with a run of fresh generations. -/
def Follows (run : MapRun (ConnectionMap A)) : Prop :=
  ∃ flat, run.state.Represents flat ∧ Lifecycle ⟨flat, run.inserted, run.ended⟩

structure Advanced (before after : MapRun (ConnectionMap A)) : Prop where
  follows : Follows after
  source : ∀ entry ∈ after.state.entries,
    (∃ earlier ∈ before.state.entries, Evolves earlier entry) ∨
      (entry.instanceId ∉ before.inserted ∧ entry.instanceId ∈ after.inserted)

variable [DecidableEq A] {before after : MapRun (ConnectionMap A)}

theorem advanced_of_star {flat : List (Connection A)} {result : MapRun (List (Connection A))}
    (represents : before.state.Represents flat)
    (lifecycle : Lifecycle ⟨flat, before.inserted, before.ended⟩)
    (star : ReflTransGen Advances ⟨flat, before.inserted, before.ended⟩ result)
    (simulates : Simulates after result) (fresh : after.inserted.Nodup) :
    Advanced before after := by
  rw [simulates.inserted] at fresh
  have held := lifecycle_of_star star fresh lifecycle
  refine ⟨⟨result.state, simulates.represents, ?_⟩, ?_⟩
  · constructor
    · exact held.oneLive
    · exact simulates.inserted ▸ held.stored
    · exact simulates.ended.nodup_iff.mpr held.reportedOnce
    · intro instanceId reported
      obtain ⟨known, closed⟩ := held.reportedEnded instanceId (simulates.ended.mem_iff.mp reported)
      exact ⟨simulates.inserted ▸ known, closed⟩
  · intro entry member
    have inResult := simulates.represents.entries_perm.mem_iff.mp member
    rcases source_of_star star fresh lifecycle inResult with ⟨earlier, inFlat, evolves⟩ | new
    · exact .inl ⟨earlier, represents.entries_perm.mem_iff.mpr inFlat, evolves⟩
    · exact .inr ⟨new.1, simulates.inserted ▸ new.2⟩

theorem advanced_step (follows : Follows before) (op : MapOp A) (clock : op.ClockPositive)
    (fresh : (op.step before).inserted.Nodup) : Advanced before (op.step before) := by
  obtain ⟨flat, represents, lifecycle⟩ := follows
  have simulates : Simulates before ⟨flat, before.inserted, before.ended⟩ :=
    ⟨represents, rfl, List.Perm.refl _⟩
  exact advanced_of_star represents lifecycle (op.advances clock) (simulates.step op) fresh

theorem advanced_updateInBucket (follows : Follows before) (fresh : before.inserted.Nodup)
    (key : Key) {test : Connection A → Bool} {update : Connection A → Connection A}
    (exact : ∀ connection, test connection = true → connection.remoteEquals key = true)
    (evolves : ∀ connection, test connection = true → Evolves connection (update connection)) :
    Advanced before (before.store (before.state.updateInBucket key test update).2) := by
  obtain ⟨flat, represents, lifecycle⟩ := follows
  have updated := represents.updateInBucket key test update exact fun connection accepted =>
    Connection.place_eq_of_getKey_eq (evolves connection accepted).tuple
  exact advanced_of_star represents lifecycle
    (ReflTransGen.single (Advances.of_evolves (evolves_modifyFirst flat evolves)))
    ⟨updated.2, rfl, List.Perm.refl _⟩ fresh

theorem advanced_stepWith (follows : Follows before) (ignoreSpecialPorts : Bool) (op : MapOp A)
    (clock : op.ClockPositive) (fresh : (op.stepWith ignoreSpecialPorts before).inserted.Nodup) :
    Advanced before (op.stepWith ignoreSpecialPorts before) := by
  cases ignoreSpecialPorts with
  | false =>
      rw [stepWith_false] at fresh ⊢
      exact advanced_step follows op clock fresh
  | true =>
      have unchanged (kept : before.inserted.Nodup) : Advanced before before := by
        obtain ⟨flat, represents, lifecycle⟩ := follows
        exact advanced_of_star represents lifecycle ReflTransGen.refl
          ⟨represents, rfl, List.Perm.refl _⟩ kept
      have refreshed (now : Nat) (key : Key) (fallback : Bool) (kept : before.inserted.Nodup) :
          Advanced before (before.store (before.state.readMatching true now key some
            fallback).2) := by
        rw [readMatching_ignoring]
        exact advanced_updateInBucket follows kept key (isLiveExact_exact key)
          fun connection _ => evolves_refresh now connection
      cases op with
      | getMutInstance now key instanceId update =>
          simp only [MapOp.stepWith, ConnectionMap.getMutInstance, isRedirectPort,
            Bool.not_true, Bool.and_false, Bool.not_false, ↓reduceIte] at fresh ⊢
          split
          · exact unchanged fresh
          · split
            · exact unchanged fresh
            · refine advanced_updateInBucket follows fresh key ConnectionMap.isLiveInstance_exact ?_
              intro connection accepted
              simp only [ConnectionMap.isLiveInstance, Bool.and_eq_true,
                Bool.not_eq_true'] at accepted
              exact evolves_update now update connection accepted.2
      | read now key => exact refreshed now key false fresh
      | readWithEndedFallback now key => exact refreshed now key true fresh
      | readForPacket now key direction =>
          cases direction with
          | inbound => exact refreshed now key false fresh
          | outbound => exact refreshed now key true fresh
      | _ => exact advanced_step follows _ clock fresh

omit [DecidableEq A] in
theorem Advanced.protocol (advanced : Advanced before after) {instanceId : Nat}
    {protocol : IpProtocol}
    (known : ∀ entry ∈ before.state.entries, entry.instanceId = instanceId →
      entry.protocol = protocol)
    (old : instanceId ∈ before.inserted ∨ instanceId ∉ after.inserted) :
    ∀ entry ∈ after.state.entries, entry.instanceId = instanceId → entry.protocol = protocol := by
  intro entry member same
  rcases advanced.source entry member with ⟨earlier, stored, evolves⟩ | ⟨new, inserted⟩
  · have kept := known earlier stored (evolves.instanceId.symm.trans same)
    exact (congrArg Key.protocol evolves.tuple).trans kept
  · rw [same] at new inserted
    rcases old with earlier | never
    · exact absurd earlier new
    · exact absurd inserted never

theorem ended_stepWith (ignoreSpecialPorts : Bool) (op : MapOp A) :
    (op.stepWith ignoreSpecialPorts before).ended =
      before.ended ++ (op.endedConnections before.state).map Connection.instanceId := by
  cases op with
  | insertIfAbsentWith connection update =>
      simp only [MapOp.stepWith, MapOp.step, MapRun.insert, MapOp.endedConnections, List.map_nil,
        List.append_nil]
      split <;> rfl
  | _ => simp [MapOp.stepWith, MapOp.step, MapRun.store, MapRun.finish, MapOp.endedConnections]

theorem inserted_stepWith (ignoreSpecialPorts : Bool) (op : MapOp A) :
    before.inserted <+: (op.stepWith ignoreSpecialPorts before).inserted := by
  cases op with
  | insertIfAbsentWith connection update =>
      simp only [MapOp.stepWith, MapOp.step, MapRun.insert]
      split
      · exact List.prefix_rfl
      · exact List.prefix_append _ _
  | _ => exact List.prefix_rfl

/-- A live generation, as a publication or an endpoint closure finds it. -/
structure LiveEntry (key : Key) (instanceId : Nat) (entry : Connection A) : Prop where
  live : entry.hasEnded = false
  instanceId : entry.instanceId = instanceId
  protocol : entry.protocol = key.protocol

theorem liveEntry_of_exact {key : Key} {instanceId : Nat} {entry : Connection A}
    (accepted : ConnectionMap.isLiveInstance key instanceId entry = true) :
    LiveEntry key instanceId entry := by
  simp only [ConnectionMap.isLiveInstance, Bool.and_eq_true, beq_iff_eq,
    Bool.not_eq_true'] at accepted
  exact ⟨accepted.2, accepted.1.2, congrArg Key.protocol
    ((entry.remoteEquals_iff key).mp accepted.1.1)⟩

theorem liveEntry_of_getLiveInstanceMatching (follows : Follows before)
    {ignoreSpecialPorts : Bool} {key : Key} {instanceId : Nat} {entry : Connection A}
    (found : before.state.getLiveInstanceMatching ignoreSpecialPorts key instanceId =
      some entry) :
    entry ∈ before.state.entries ∧ LiveEntry key instanceId entry := by
  obtain ⟨flat, represents, _⟩ := follows
  rw [represents.entries_perm.mem_iff]
  unfold ConnectionMap.getLiveInstanceMatching at found
  rw [represents.find_bucket ConnectionMap.isLiveInstance_exact] at found
  split at found
  · cases found
  · split at found
    · rename_i exact
      cases found
      exact ⟨List.mem_of_find?_eq_some exact, liveEntry_of_exact (List.find?_some exact)⟩
    · split at found
      · cases found
      · rw [represents.find_group] at found
        obtain ⟨stored, group⟩ := mem_candidates.mp (List.mem_of_find?_eq_some found)
        have accepted := List.find?_some found
        simp only [ConnectionMap.isLiveRedirectInstance, Bool.and_eq_true, beq_iff_eq,
          Bool.not_eq_true'] at accepted
        exact ⟨stored, accepted.2, accepted.1.2, congrArg Prod.fst group⟩

theorem liveEntry_of_hasLiveInstance (follows : Follows before) {key : Key} {instanceId : Nat}
    (found : before.state.hasLiveInstance key instanceId = true) :
    ∃ entry ∈ before.state.entries, LiveEntry key instanceId entry := by
  obtain ⟨flat, represents, _⟩ := follows
  have inBucket : (((before.state.bucket key).bind fun bucket =>
      bucket.iter.find? (ConnectionMap.isLiveInstance key instanceId))).isSome = true := by
    unfold ConnectionMap.hasLiveInstance at found
    split at found
    · cases found
    · split at found
      · cases found
      · rename_i bucket stored
        rw [stored, Option.bind_some, List.find?_isSome]
        exact List.any_eq_true.mp found
  rw [represents.find_bucket ConnectionMap.isLiveInstance_exact] at inBucket
  obtain ⟨entry, selected⟩ := Option.isSome_iff_exists.mp inBucket
  exact ⟨entry, represents.entries_perm.mem_iff.mpr (List.mem_of_find?_eq_some selected),
    liveEntry_of_exact (List.find?_some selected)⟩

theorem live_not_ended (follows : Follows before) {key : Key} {instanceId : Nat}
    {entry : Connection A} (member : entry ∈ before.state.entries)
    (live : LiveEntry key instanceId entry) :
    instanceId ∈ before.inserted ∧ instanceId ∉ before.ended := by
  obtain ⟨flat, represents, lifecycle⟩ := follows
  have stored := represents.entries_perm.mem_iff.mp member
  refine ⟨live.instanceId ▸ lifecycle.stored.mem (List.mem_map_of_mem stored), ?_⟩
  intro reported
  have ended := (lifecycle.reportedEnded instanceId reported).2 entry stored live.instanceId
  rw [live.live] at ended
  cases ended

theorem stored_inserted (follows : Follows before) {entry : Connection A}
    (member : entry ∈ before.state.entries) : entry.instanceId ∈ before.inserted := by
  obtain ⟨flat, represents, lifecycle⟩ := follows
  exact lifecycle.stored.mem (List.mem_map_of_mem (represents.entries_perm.mem_iff.mp member))

theorem entries_unique (follows : Follows before) (fresh : before.inserted.Nodup)
    {left right : Connection A} (leftMember : left ∈ before.state.entries)
    (rightMember : right ∈ before.state.entries) (same : left.instanceId = right.instanceId) :
    left = right := by
  obtain ⟨flat, represents, lifecycle⟩ := follows
  exact List.inj_on_of_nodup_map (fresh.sublist lifecycle.stored)
    (represents.entries_perm.mem_iff.mp leftMember)
    (represents.entries_perm.mem_iff.mp rightMember) same

end Family

/-- The connection maps of both families with the history of their generations. -/
structure Generations where
  v4 : MapRun (ConnectionMap Ipv4Address)
  v6 : MapRun (ConnectionMap Ipv6Address)

def System.generations (system : System) : Generations where
  v4 := {
    state := system.device.connectionCache.connectionsV4
    inserted := system.insertedV4
    ended := system.endedV4 }
  v6 := {
    state := system.device.connectionCache.connectionsV6
    inserted := system.insertedV6
    ended := system.endedV6 }

namespace Generations

def inserted (generations : Generations) : List Nat :=
  generations.v4.inserted ++ generations.v6.inserted

def ended (generations : Generations) : List Nat :=
  generations.v4.ended ++ generations.v6.ended

variable {before after : Generations} {connections : List EndedConnection}

/-- What one task does: nothing, or one operation on the map of one family. -/
inductive Step (before : Generations) : List EndedConnection → Generations → Prop where
  | same : Step before [] before
  | v4 (ignoreSpecialPorts : Bool) (op : TimedOp Ipv4Address) :
      Step before ((op.op.endedConnections before.v4.state).map Connection.toEnded)
        { before with v4 := op.op.stepWith ignoreSpecialPorts before.v4 }
  | v6 (ignoreSpecialPorts : Bool) (op : TimedOp Ipv6Address) :
      Step before ((op.op.endedConnections before.v6.state).map Connection.toEnded)
        { before with v6 := op.op.stepWith ignoreSpecialPorts before.v6 }

structure Sound (generations : Generations) : Prop where
  v4 : Follows generations.v4
  v6 : Follows generations.v6

theorem Step.ended_perm (step : Step before connections after) :
    after.ended.Perm (before.ended ++ connections.map EndedConnection.instanceId) := by
  cases step with
  | same => simp
  | v4 ignoreSpecialPorts op =>
      simp only [Generations.ended, ended_stepWith, List.map_map, List.append_assoc]
      exact List.perm_append_comm.append_left _
  | v6 ignoreSpecialPorts op =>
      simp only [Generations.ended, ended_stepWith, List.map_map, List.append_assoc]
      exact List.Perm.refl _

theorem Step.inserted_sublist (step : Step before connections after) :
    before.inserted.Sublist after.inserted := by
  cases step with
  | same => exact List.Sublist.refl _
  | v4 ignoreSpecialPorts op =>
      exact (inserted_stepWith ignoreSpecialPorts op.op).sublist.append (List.Sublist.refl _)
  | v6 ignoreSpecialPorts op =>
      exact (List.Sublist.refl _).append (inserted_stepWith ignoreSpecialPorts op.op).sublist

theorem Step.sound (step : Step before connections after) (fresh : after.inserted.Nodup)
    (sound : Sound before) : Sound after := by
  cases step with
  | same => exact sound
  | v4 ignoreSpecialPorts op =>
      exact ⟨(advanced_stepWith sound.v4 ignoreSpecialPorts op.op op.clock
        (List.nodup_append.mp fresh).1).follows, sound.v6⟩
  | v6 ignoreSpecialPorts op =>
      exact ⟨sound.v4, (advanced_stepWith sound.v6 ignoreSpecialPorts op.op op.clock
        (List.nodup_append.mp fresh).2.1).follows⟩

theorem Sound.ended_nodup {generations : Generations} (sound : Sound generations)
    (fresh : generations.inserted.Nodup) : generations.ended.Nodup := by
  obtain ⟨_, _, v4⟩ := sound.v4
  obtain ⟨_, _, v6⟩ := sound.v6
  rw [Generations.ended, List.nodup_append]
  refine ⟨v4.reportedOnce, v6.reportedOnce, ?_⟩
  intro left inV4 right inV6
  exact (List.nodup_append.mp fresh).2.2 left (v4.reportedEnded left inV4).1 right
    (v6.reportedEnded right inV6).1

structure OfProtocol (generations : Generations) (instanceId : Nat) (protocol : IpProtocol) :
    Prop where
  inserted : instanceId ∈ generations.inserted
  v4 : ∀ entry ∈ generations.v4.state.entries, entry.instanceId = instanceId →
    entry.protocol = protocol
  v6 : ∀ entry ∈ generations.v6.state.entries, entry.instanceId = instanceId →
    entry.protocol = protocol

theorem Step.ofProtocol (step : Step before connections after) (fresh : after.inserted.Nodup)
    (sound : Sound before) {instanceId : Nat} {protocol : IpProtocol}
    (known : OfProtocol before instanceId protocol) : OfProtocol after instanceId protocol := by
  have separate := (List.nodup_append.mp fresh).2.2
  cases step with
  | same => exact known
  | v4 ignoreSpecialPorts op =>
      refine ⟨(Step.v4 ignoreSpecialPorts op).inserted_sublist.mem known.inserted, ?_, known.v6⟩
      refine (advanced_stepWith sound.v4 ignoreSpecialPorts op.op op.clock
        (List.nodup_append.mp fresh).1).protocol known.v4 ?_
      rcases List.mem_append.mp known.inserted with inV4 | inV6
      · exact .inl inV4
      · exact .inr fun inserted => separate _ inserted _ inV6 rfl
  | v6 ignoreSpecialPorts op =>
      refine ⟨(Step.v6 ignoreSpecialPorts op).inserted_sublist.mem known.inserted, known.v4, ?_⟩
      refine (advanced_stepWith sound.v6 ignoreSpecialPorts op.op op.clock
        (List.nodup_append.mp fresh).2.1).protocol known.v6 ?_
      rcases List.mem_append.mp known.inserted with inV4 | inV6
      · exact .inr fun inserted => separate _ inV4 _ inserted rfl
      · exact .inl inV6

def Live (generations : Generations) (key : Key) (instanceId : Nat) : Prop :=
  (∃ entry ∈ generations.v4.state.entries, LiveEntry key instanceId entry) ∨
    ∃ entry ∈ generations.v6.state.entries, LiveEntry key instanceId entry

section Live

variable {generations : Generations} {key : Key} {instanceId : Nat} (sound : Sound generations)
  (fresh : generations.inserted.Nodup) (live : generations.Live key instanceId)

include sound fresh live

theorem Live.not_ended : instanceId ∉ generations.ended := by
  have separate := (List.nodup_append.mp fresh).2.2
  intro reported
  obtain ⟨_, _, v4⟩ := sound.v4
  obtain ⟨_, _, v6⟩ := sound.v6
  rcases live with ⟨entry, member, live⟩ | ⟨entry, member, live⟩
  · obtain ⟨inserted, unreported⟩ := live_not_ended sound.v4 member live
    rcases List.mem_append.mp reported with inV4 | inV6
    · exact unreported inV4
    · exact separate _ inserted _ (v6.reportedEnded instanceId inV6).1 rfl
  · obtain ⟨inserted, unreported⟩ := live_not_ended sound.v6 member live
    rcases List.mem_append.mp reported with inV4 | inV6
    · exact separate _ (v4.reportedEnded instanceId inV4).1 _ inserted rfl
    · exact unreported inV6

theorem Live.ofProtocol : OfProtocol generations instanceId key.protocol := by
  obtain ⟨freshV4, freshV6, separate⟩ := List.nodup_append.mp fresh
  rcases live with ⟨entry, member, live⟩ | ⟨entry, member, live⟩
  · have inserted := (live_not_ended sound.v4 member live).1
    refine ⟨List.mem_append_left _ inserted, ?_, ?_⟩
    · intro other stored same
      rw [entries_unique sound.v4 freshV4 stored member (same.trans live.instanceId.symm)]
      exact live.protocol
    · intro other stored same
      exact absurd same.symm (separate _ inserted _ (stored_inserted sound.v6 stored))
  · have inserted := (live_not_ended sound.v6 member live).1
    refine ⟨List.mem_append_right _ inserted, ?_, ?_⟩
    · intro other stored same
      exact absurd same (separate _ (stored_inserted sound.v4 stored) _ inserted)
    · intro other stored same
      rw [entries_unique sound.v6 freshV6 stored member (same.trans live.instanceId.symm)]
      exact live.protocol

end Live

theorem OfProtocol.eq_of_live {generations : Generations} {key : Key} {instanceId : Nat}
    {protocol : IpProtocol} (known : OfProtocol generations instanceId protocol)
    (live : generations.Live key instanceId) : protocol = key.protocol := by
  rcases live with ⟨entry, member, live⟩ | ⟨entry, member, live⟩
  · rw [← known.v4 entry member live.instanceId, live.protocol]
  · rw [← known.v6 entry member live.instanceId, live.protocol]

end Generations

section Records

variable (system : System) (key : Key)

@[simp] theorem device_recordEnd (ended : Option EndedConnection) :
    (system.recordEnd key ended).device = system.device := by
  unfold System.recordEnd
  split <;> rfl

@[simp] theorem effects_recordEnd (ended : Option EndedConnection) :
    (system.recordEnd key ended).effects = system.effects := by
  unfold System.recordEnd
  split <;> rfl

@[simp] theorem issued_recordEnd (ended : Option EndedConnection) :
    (system.recordEnd key ended).issued = system.issued := by
  unfold System.recordEnd
  split <;> rfl

@[simp] theorem perform_nil : system.perform [] = system := by
  simp [System.perform]

@[simp] theorem recordEnd_none : system.recordEnd key none = system := by
  unfold System.recordEnd
  split <;> simp

@[simp] theorem device_recordRegistration (registration : ConnectionRegistration) :
    (system.recordRegistration key registration).device = system.device := by
  unfold System.recordRegistration
  dsimp only
  split <;> rfl

@[simp] theorem effects_recordRegistration (registration : ConnectionRegistration) :
    (system.recordRegistration key registration).effects = system.effects := by
  unfold System.recordRegistration
  dsimp only
  split <;> rfl

@[simp] theorem issued_recordRegistration (registration : ConnectionRegistration) :
    (system.recordRegistration key registration).issued = system.issued := by
  unfold System.recordRegistration
  dsimp only
  split <;> rfl

end Records

theorem endTcpInstance_device (device : Device) (now : Nat) (endpoint : TcpEndpointConnection) :
    ∃ cache, (device.endTcpInstance now endpoint).2 =
      { device with connectionCache := cache } := by
  unfold Device.endTcpInstance
  dsimp only
  split
  · exact ⟨_, rfl⟩
  · exact ⟨_, rfl⟩

section Operations

variable (system : System) {now : Nat} (clock : 1 ≤ now)

include clock in
theorem generations_endTcpInstance (endpoint : TcpEndpointConnection) :
    system.generations.Step (system.device.endTcpInstance now endpoint).1.toList
      ({ system with device := (system.device.endTcpInstance now endpoint).2 }.recordEnd
        endpoint.key (system.device.endTcpInstance now endpoint).1).generations := by
  unfold Device.endTcpInstance System.recordEnd
  cases family : endpoint.key.isIpv6 with
  | true =>
      have step : system.generations.Step _ _ := Generations.Step.v6 false
        ⟨.endInstance now endpoint.key endpoint.instanceId, clock⟩
      simp only [MapOp.endedConnections, MapOp.stepWith, MapOp.step, MapRun.finish] at step
      simpa [System.generations, Option.toList_map, Function.comp_def, Connection.toEnded] using
        step
  | false =>
      have step : system.generations.Step _ _ := Generations.Step.v4 false
        ⟨.endInstance now endpoint.key endpoint.instanceId, clock⟩
      simp only [MapOp.endedConnections, MapOp.stepWith, MapOp.step, MapRun.finish] at step
      simpa [System.generations, Option.toList_map, Function.comp_def, Connection.toEnded] using
        step

include clock in
theorem generations_updateConnectionInstance (ignoreSpecialPorts : Bool) (key : Key)
    (instanceId : Nat) (verdict : Verdict) :
    system.generations.Step [] { system with
      device := { system.device with
        connectionCache := (system.device.connectionCache.updateConnectionInstance
          ignoreSpecialPorts now key instanceId verdict).2 } }.generations := by
  unfold ConnectionCache.updateConnectionInstance
  split
  · exact Generations.Step.v6 ignoreSpecialPorts
      ⟨.getMutInstance now key instanceId (verdictUpdate verdict), clock⟩
  · exact Generations.Step.v4 ignoreSpecialPorts
      ⟨.getMutInstance now key instanceId (verdictUpdate verdict), clock⟩

include clock in
theorem generations_applyVerdict (environment : Environment) (pending : PendingPacket)
    (action : Verdict) :
    system.generations.Step [] { system with
      device := (system.device.applyVerdict environment now pending action).2 }.generations := by
  rw [applyVerdict_device]
  split
  · exact generations_updateConnectionInstance system clock environment.ignoreSpecialPorts _ _ _
  · exact Generations.Step.same

theorem mergeProcessId_keeps {A : Type} [AddressFamily A] (incoming threadId : Nat)
    (connection : Connection A) :
    (mergeProcessId incoming threadId connection).getKey = connection.getKey ∧
      (mergeProcessId incoming threadId connection).instanceId = connection.instanceId := by
  unfold mergeProcessId
  split
  · exact ⟨rfl, rfl⟩
  · exact ⟨rfl, rfl⟩

def registerUpdate {A : Type} [AddressFamily A] (connection : Connection A) : EntryUpdate A where
  apply existing :=
    let existing := mergeProcessId connection.processId connection.threadId existing
    if connection.extra.nativeLifecycle then existing.markNativeLifecycle else existing
  keepsTuple existing := by
    have keeps := (mergeProcessId_keeps connection.processId connection.threadId existing).1
    dsimp only
    split
    · exact keeps
    · exact keeps
  keepsInstance existing := by
    have keeps := (mergeProcessId_keeps connection.processId connection.threadId existing).2
    dsimp only
    split
    · exact keeps
    · exact keeps

theorem registerConnection_eq {A : Type} [AddressFamily A] [DecidableEq A] (map : ConnectionMap A)
    (connection : Connection A) (inserted ended : List Nat) :
    (MapOp.insertIfAbsentWith connection (registerUpdate connection)).stepWith false
        ⟨map, inserted, ended⟩ =
      ⟨(registerConnection map connection).2,
        inserted ++
          if (registerConnection map connection).1.inserted then
            [(registerConnection map connection).1.instanceId]
          else [],
        ended⟩ := by
  generalize registered : registerConnection map connection = result
  unfold registerConnection at registered
  dsimp only at registered
  split at registered
  · rename_i instanceId after inserts
    have stored : map.insertIfAbsentWith connection (registerUpdate connection).apply =
      (.ok instanceId, after) := inserts
    subst registered
    simp [MapOp.stepWith, MapOp.step, MapRun.insert, stored]
  · rename_i existing instanceId after finds
    have kept : map.insertIfAbsentWith connection (registerUpdate connection).apply =
      (.error (existing, instanceId), after) := finds
    subst registered
    simp [MapOp.stepWith, MapOp.step, MapRun.insert, MapRun.store, kept]

/-- A registration fails for a key of two families, and otherwise inserts a generation or finds
the live one. -/
theorem registerAleConnection_cases (instanceId : Nat) (key : Key) (processId threadId : Nat)
    (direction : Direction) {result : Except String ConnectionRegistration × ConnectionCache}
    (registered : system.device.connectionCache.registerAleConnection now instanceId key processId
      threadId direction = result) :
    (∃ error, result.1 = .error error) ∨
      ∃ registration, result.1 = .ok registration ∧
        sameFamily key.localAddress key.remoteAddress = true ∧
        system.generations.Step [] ({ system with
          device := { system.device with
            connectionCache := result.2 } }.recordRegistration key registration).generations := by
  unfold ConnectionCache.registerAleConnection ConnectionCache.registerConnectionWithLifecycle
    at registered
  cases localAddress : key.localAddress with
  | ipv4 =>
      have family : key.isIpv6 = false := by simp [Key.isIpv6, localAddress]
      simp only [family, Bool.false_eq_true, ↓reduceIte] at registered
      split at registered
      · subst registered
        exact .inl ⟨_, rfl⟩
      · rename_i connection built
        subst registered
        refine .inr ⟨_, rfl, ?_, ?_⟩
        · unfold Connection.fromKeyWithLifecycle at built
          cases remoteAddress : key.remoteAddress with
          | ipv4 => rfl
          | ipv6 =>
              rw [localAddress, remoteAddress] at built
              cases built
        · have step : system.generations.Step _ _ := Generations.Step.v4 false
            ⟨.insertIfAbsentWith { connection with threadId := threadId }
              (registerUpdate { connection with threadId := threadId }), trivial⟩
          simp only [System.generations, registerConnection_eq, MapOp.endedConnections,
            List.map_nil] at step
          simpa only [System.recordRegistration, System.generations, family, Bool.false_eq_true,
            ↓reduceIte] using step
  | ipv6 =>
      have family : key.isIpv6 = true := by simp [Key.isIpv6, localAddress]
      simp only [family, ↓reduceIte] at registered
      split at registered
      · subst registered
        exact .inl ⟨_, rfl⟩
      · rename_i connection built
        subst registered
        refine .inr ⟨_, rfl, ?_, ?_⟩
        · unfold Connection.fromKeyWithLifecycle at built
          cases remoteAddress : key.remoteAddress with
          | ipv6 => rfl
          | ipv4 =>
              rw [localAddress, remoteAddress] at built
              cases built
        · have step : system.generations.Step _ _ := Generations.Step.v6 false
            ⟨.insertIfAbsentWith { connection with threadId := threadId }
              (registerUpdate { connection with threadId := threadId }), trivial⟩
          simp only [System.generations, registerConnection_eq, MapOp.endedConnections,
            List.map_nil] at step
          simpa only [System.recordRegistration, System.generations, family, Bool.false_eq_true,
            ↓reduceIte] using step

end Operations

def Device.hasLiveInstance (device : Device) (endpoint : TcpEndpointConnection) : Bool :=
  if endpoint.key.isIpv6 then
    device.connectionCache.connectionsV6.hasLiveInstance endpoint.key endpoint.instanceId
  else device.connectionCache.connectionsV4.hasLiveInstance endpoint.key endpoint.instanceId

theorem live_of_hasLiveInstance {system : System} (sound : system.generations.Sound)
    {endpoint : TcpEndpointConnection} (found : system.device.hasLiveInstance endpoint = true) :
    system.generations.Live endpoint.key endpoint.instanceId := by
  unfold Device.hasLiveInstance at found
  split at found
  · exact .inr (liveEntry_of_hasLiveInstance sound.v6 found)
  · exact .inl (liveEntry_of_hasLiveInstance sound.v4 found)

theorem live_of_matching {system : System} (sound : system.generations.Sound)
    {ignoreSpecialPorts : Bool} {key : Key} {instanceId threadId : Nat}
    (found : system.device.connectionCache.liveConnectionInstanceMatching ignoreSpecialPorts key
      instanceId = some threadId) : system.generations.Live key instanceId := by
  unfold ConnectionCache.liveConnectionInstanceMatching at found
  split at found
  · cases found
  · split at found
    · obtain ⟨entry, selected, _⟩ := Option.map_eq_some_iff.mp found
      exact .inr ⟨entry, liveEntry_of_getLiveInstanceMatching sound.v6 selected⟩
    · obtain ⟨entry, selected, _⟩ := Option.map_eq_some_iff.mp found
      exact .inl ⟨entry, liveEntry_of_getLiveInstanceMatching sound.v4 selected⟩

/-- The five ways in which an endpoint closure is taken. -/
inductive ClosureOutcome (device : Device) (now : Nat) (endpoint : TcpEndpointConnection)
    (processId : Nat) (pendClassify : Except String Nat) :
    Except String (Option EndedConnection) × List Effect × Device → Prop where
  | gone : ClosureOutcome device now endpoint processId pendClassify (.ok none, [], device)
  | ended : ClosureOutcome device now endpoint processId pendClassify
      (.ok (device.endTcpInstance now endpoint).1, [], (device.endTcpInstance now endpoint).2)
  | unpended (error : String) : ClosureOutcome device now endpoint processId pendClassify
      (.error error, [], device)
  | deferred (live : device.hasLiveInstance endpoint = true)
      (waits : device.packetCache.tcpEndpointRequestIds endpoint.key endpoint.instanceId ≠ [])
      (classify : Nat) (pended : pendClassify = .ok classify)
      (absent : endpoint.instanceId ∉ device.tcpClosureCache) :
      ClosureOutcome device now endpoint processId pendClassify
        (.ok none, [.pendClassify classify],
          { device with
            tcpClosureCache := Std.TreeMap.insert device.tcpClosureCache endpoint.instanceId {
              endpoint := endpoint
              processId := processId
              classify := classify
              requestIds := device.packetCache.tcpEndpointRequestIds endpoint.key
                endpoint.instanceId } })
  | duplicate (error : String) (classify : Nat) (pended : pendClassify = .ok classify) :
      ClosureOutcome device now endpoint processId pendClassify
        (.error error, [.pendClassify classify, .completeClassify classify], device)

theorem closureOutcome (device : Device) (now : Nat) (endpoint : TcpEndpointConnection)
    (processId : Nat) (pendClassify : Except String Nat) :
    ClosureOutcome device now endpoint processId pendClassify
      (device.deferTcpEndpointClosure now endpoint processId pendClassify) := by
  unfold Device.deferTcpEndpointClosure
  change ClosureOutcome device now endpoint processId pendClassify
    (if !device.hasLiveInstance endpoint then _ else _)
  cases live : device.hasLiveInstance endpoint with
  | false => exact ClosureOutcome.gone
  | true =>
      simp only [Bool.not_true, Bool.false_eq_true, ↓reduceIte, List.isEmpty_iff]
      split
      · exact ClosureOutcome.ended
      · rename_i waits
        cases pendClassify with
        | error error => exact ClosureOutcome.unpended error
        | ok classify =>
            simp only [TcpClosureCache.insert]
            split
            · rename_i inserted
              split at inserted
              · cases inserted
              · rename_i absent
                cases inserted
                refine ClosureOutcome.deferred live waits classify rfl ?_
                rwa [Std.TreeMap.mem_iff_contains]
            · rename_i inserted
              split at inserted
              · cases inserted
                exact ClosureOutcome.duplicate _ classify rfl
              · cases inserted

/-- A publication is rejected when the generation has ended, and otherwise queues the requests of
its packet, adds them to the closures that wait for them, and pushes their records. -/
inductive PublishOutcome (environment : Environment) (device : Device) (key : Key)
    (packet : Packet) (connectionInstanceId : Option Nat) (direction : Direction)
    (aleLayer : Bool) :
    Option PendingPacket × List (Nat × ConnectionRequest) × Device → Prop where
  | rejected (instanceId : Nat) (bound : connectionInstanceId = some instanceId) :
      PublishOutcome environment device key packet connectionInstanceId direction aleLayer
        (some ⟨key, packet, connectionInstanceId⟩, [], device)
  | queued (processId threadId : Nat)
      (live : ∀ instanceId, connectionInstanceId = some instanceId →
        ∃ threadId, device.connectionCache.liveConnectionInstanceMatching
          environment.ignoreSpecialPorts key instanceId = some threadId)
      {pushed : List (Nat × ConnectionRequest) × IdCache}
      (push : device.packetCache.push key packet connectionInstanceId processId threadId direction
        aleLayer = pushed) :
      PublishOutcome environment device key packet connectionInstanceId direction aleLayer
        (none, pushed.1,
          { device with
            packetCache := pushed.2
            tcpClosureCache := (pushed.1.map Prod.fst).foldl
              (TcpClosureCache.addRequest key connectionInstanceId) device.tcpClosureCache
            eventQueue := device.eventQueue ++ pushed.1.map fun request =>
              .request request.2 connectionInstanceId })

theorem publishOutcome (environment : Environment) (device : Device) (key : Key)
    (packet : Packet) (connectionInstanceId : Option Nat) (processId threadId : Nat)
    (direction : Direction) (aleLayer : Bool) :
    PublishOutcome environment device key packet connectionInstanceId direction aleLayer
      (device.publishPendingPacket environment key packet connectionInstanceId processId threadId
        direction aleLayer) := by
  unfold Device.publishPendingPacket
  cases connectionInstanceId with
  | none =>
      refine PublishOutcome.queued _ _ ?_ rfl
      intro instanceId bound
      cases bound
  | some instanceId =>
      dsimp only
      split
      · rename_i thread live
        refine PublishOutcome.queued _ _ ?_ rfl
        rintro _ ⟨⟩
        exact ⟨thread, live⟩
      · exact PublishOutcome.rejected instanceId rfl

theorem claimVerdict_device (device : Device) (id : Nat) (value : UInt8) :
    ((device.claimVerdict id value).1 = none ∧ (device.claimVerdict id value).2 = device) ∨
      ∃ action, device.claimVerdict id value =
        ((device.packetCache.popId id).1.map fun pending => (pending, action),
          { device with packetCache := (device.packetCache.popId id).2 }) := by
  unfold Device.claimVerdict
  split
  · exact .inl ⟨rfl, rfl⟩
  · exact .inr ⟨_, rfl⟩

def endIds (events : List Event) : List Nat :=
  events.filterMap fun event =>
    match event with
    | .connectionEnd _ instanceId => some instanceId
    | .request _ _ => none

namespace Task

def endIds : Task → List Nat
  | .emitConnectionEnd connection _ => [connection.instanceId]
  | .endFamilyV6 endedV4 _ _ => endedV4.map EndedConnection.instanceId
  | _ => []

def retires : Task → List Nat
  | .retire instanceIds => instanceIds
  | .endFamilyV6 endedV4 _ _ => endedV4.map EndedConnection.instanceId
  | _ => []

end Task

/-- What a task does to the generations. The end records and the retirement of what it ends are
left to its followers. -/
structure Ends (before : System) (task : Task) (connections : List EndedConnection)
    (result : List Task × System) : Prop where
  step : before.generations.Step connections result.2.generations
  records : (endIds result.2.device.eventQueue ++ result.1.flatMap Task.endIds).Perm
    (endIds before.device.eventQueue ++ task.endIds ++
      connections.map EndedConnection.instanceId)
  retires : ∀ instanceId, instanceId ∈ connections.map EndedConnection.instanceId ∨
    ((∀ instanceIds, task ≠ .retire instanceIds) ∧ instanceId ∈ task.retires) →
      ∃ follower ∈ result.1, instanceId ∈ follower.retires

section Ends

variable {system : System} {task : Task} {result : List Task × System}
  {connections : List EndedConnection}

theorem endIds_append (events others : List Event) :
    endIds (events ++ others) = endIds events ++ endIds others :=
  List.filterMap_append

theorem endIds_endTasks (connections : List EndedConnection) (processId : Nat) :
    (endTasks connections processId).flatMap Task.endIds =
      connections.map EndedConnection.instanceId := by
  simp only [endTasks, List.flatMap_cons, Task.endIds, List.nil_append, List.flatMap_map]
  induction connections with
  | nil => rfl
  | cons first rest ih => simpa using ih

theorem Ends.of_nothing (step : system.generations.Step [] result.2.generations)
    (records : endIds result.2.device.eventQueue = endIds system.device.eventQueue)
    (ends : task.endIds = []) (followers : result.1.flatMap Task.endIds = [])
    (retires : (∃ instanceIds, task = .retire instanceIds) ∨ task.retires = []) :
    Ends system task [] result := by
  refine ⟨step, by simp [records, ends, followers], ?_⟩
  intro instanceId
  rintro (ended | ⟨other, unretired⟩)
  · cases ended
  · rcases retires with ⟨instanceIds, same⟩ | none
    · exact absurd same (other instanceIds)
    · rw [none] at unretired
      cases unretired

theorem Ends.of_endTasks {processId : Nat} (rest : List Task)
    (step : system.generations.Step connections result.2.generations)
    (records : result.2.device.eventQueue = system.device.eventQueue) (ends : task.endIds = [])
    (followers : result.1 = endTasks connections processId ++ rest)
    (others : rest.flatMap Task.endIds = []) (retires : task.retires = []) :
    Ends system task connections result := by
  refine ⟨step, ?_, ?_⟩
  · rw [records, ends, followers, List.flatMap_append, endIds_endTasks, others]
    simp
  · intro instanceId
    rintro (ended | ⟨_, unretired⟩)
    · refine ⟨.retire (connections.map EndedConnection.instanceId), ?_, ended⟩
      simp [followers, endTasks]
    · rw [retires] at unretired
      cases unretired

theorem endIds_requests (requests : List (Nat × ConnectionRequest))
    (connectionInstanceId : Option Nat) :
    endIds (requests.map fun request => .request request.2 connectionInstanceId) = [] := by
  simp [endIds]

theorem ends_step (input : Input) (system : System) (task : Task) :
    ∃ connections, Ends system task connections (task.step input system) := by
  cases task with
  | mapV4 op processId =>
      exact ⟨_, Ends.of_endTasks []
        (Generations.Step.v4 input.environment.ignoreSpecialPorts op) rfl rfl
        (List.append_nil _).symm rfl rfl⟩
  | mapV6 op processId =>
      exact ⟨_, Ends.of_endTasks []
        (Generations.Step.v6 input.environment.ignoreSpecialPorts op) rfl rfl
        (List.append_nil _).symm rfl rfl⟩
  | endFamilies opV4 opV6 processId =>
      refine ⟨_, Generations.Step.v4 input.environment.ignoreSpecialPorts opV4, ?_, ?_⟩
      · simp [Task.step, Task.endIds, System.stepV4, System.generations]
      · rintro instanceId (ended | ⟨_, unretired⟩)
        · exact ⟨_, List.mem_singleton_self _, ended⟩
        · cases unretired
  | endFamilyV6 endedV4 opV6 processId =>
      refine ⟨_, Generations.Step.v6 input.environment.ignoreSpecialPorts opV6, ?_, ?_⟩
      · have emitted (connections : List EndedConnection) :
            (connections.map fun connection => Task.emitConnectionEnd connection
              processId).flatMap Task.endIds = connections.map EndedConnection.instanceId := by
          simpa [endTasks, Task.endIds] using endIds_endTasks connections processId
        simp only [Task.step, List.flatMap_append, emitted, List.map_append]
        simp [Task.endIds, System.stepV6, System.generations]
      · rintro instanceId (ended | ⟨_, unretired⟩)
        · refine ⟨.retire ((system.stepV6 input.environment.ignoreSpecialPorts opV6.op).1.map
            EndedConnection.instanceId), ?_, ended⟩
          simp [Task.step]
        · refine ⟨.retire (endedV4.map EndedConnection.instanceId), ?_, unretired⟩
          simp [Task.step]
  | retire instanceIds =>
      refine ⟨[], Ends.of_nothing Generations.Step.same rfl rfl ?_ (.inl ⟨_, rfl⟩)⟩
      simp only [Task.step, List.flatMap_assoc]
      exact List.flatMap_eq_nil_iff.mpr fun entry _ => rfl
  | emitConnectionEnd connection processId =>
      refine ⟨[], Generations.Step.same, ?_, ?_⟩
      · simp [Task.step, Device.emitConnectionEnd, endIds, Task.endIds]
      · rintro instanceId (ended | ⟨_, unretired⟩)
        · cases ended
        · cases unretired
  | savePacket request =>
      refine ⟨[], ?_⟩
      simp only [Task.step]
      split
      · cases input.pendOperation with
        | error error => exact Ends.of_nothing Generations.Step.same rfl rfl rfl (.inr rfl)
        | ok success => exact Ends.of_nothing Generations.Step.same rfl rfl rfl (.inr rfl)
      · exact Ends.of_nothing Generations.Step.same rfl rfl rfl (.inr rfl)
  | registerAleConnection request packet =>
      refine ⟨[], ?_⟩
      simp only [Task.step]
      split
      · exact Ends.of_nothing Generations.Step.same rfl rfl rfl (.inr rfl)
      · rename_i registration cache registered
        rcases registerAleConnection_cases system _ _ _ _ _ registered with
          ⟨error, failed⟩ | ⟨inserted, same, _, step⟩
        · cases failed
        · cases same
          refine Ends.of_nothing step ?_ rfl rfl (.inr rfl)
          simp
  | publish key packet connectionInstanceId processId threadId direction aleLayer =>
      refine ⟨[], ?_⟩
      simp only [Task.step]
      have outcome := publishOutcome input.environment system.device key packet
        connectionInstanceId processId threadId direction aleLayer
      generalize system.device.publishPendingPacket input.environment key packet
        connectionInstanceId processId threadId direction aleLayer = published at outcome
      cases outcome with
      | rejected instanceId bound =>
          exact Ends.of_nothing Generations.Step.same rfl rfl rfl (.inr rfl)
      | queued processId threadId live push =>
          refine Ends.of_nothing Generations.Step.same ?_ rfl rfl (.inr rfl)
          simp [endIds_append, endIds_requests]
  | discard packet => exact ⟨[], Ends.of_nothing Generations.Step.same rfl rfl rfl (.inr rfl)⟩
  | claimVerdict id value =>
      refine ⟨[], ?_⟩
      simp only [Task.step]
      rcases claimVerdict_device system.device id value with ⟨none, same⟩ | ⟨action, claimed⟩
      · rw [none, same]
        exact Ends.of_nothing Generations.Step.same rfl rfl rfl (.inr rfl)
      · rw [claimed]
        refine Ends.of_nothing Generations.Step.same rfl rfl ?_ (.inr rfl)
        rw [List.flatMap_assoc]
        exact List.flatMap_eq_nil_iff.mpr fun entry _ => rfl
  | applyVerdict pending action =>
      refine ⟨[], Ends.of_nothing (generations_applyVerdict system input.clock input.environment
        pending action) ?_ rfl rfl (.inr rfl)⟩
      simp only [Task.step, System.perform, applyVerdict_device]
      split <;> rfl
  | block key instanceId =>
      exact ⟨[], Ends.of_nothing (generations_updateConnectionInstance system input.clock
        input.environment.ignoreSpecialPorts key instanceId .permanentBlock) rfl rfl rfl
        (.inr rfl)⟩
  | finish id key connectionInstanceId =>
      refine ⟨[], Ends.of_nothing Generations.Step.same rfl rfl ?_ (.inr rfl)⟩
      simp [Task.step, List.flatMap_map, Task.endIds]
  | deferTcpEndpointClosure endpoint processId =>
      simp only [Task.step]
      have outcome := closureOutcome system.device input.now endpoint.connection processId
        (input.pendClassify.map fun _ => (pendedClassifications system.effects).length)
      generalize system.device.deferTcpEndpointClosure input.now endpoint.connection processId
        (input.pendClassify.map fun _ => (pendedClassifications system.effects).length) = taken
        at outcome
      cases outcome with
      | gone =>
          simp only [perform_nil, recordEnd_none]
          exact ⟨[], Ends.of_endTasks [] Generations.Step.same rfl rfl
            (List.append_nil _).symm rfl rfl⟩
      | ended =>
          simp only [perform_nil]
          obtain ⟨cache, ended⟩ := endTcpInstance_device system.device input.now
            endpoint.connection
          refine ⟨_, Ends.of_endTasks []
            (generations_endTcpInstance system input.clock endpoint.connection) ?_ rfl
            (List.append_nil _).symm rfl rfl⟩
          simp [ended]
      | unpended error => exact ⟨[], Ends.of_nothing Generations.Step.same rfl rfl rfl (.inr rfl)⟩
      | deferred live waits classify pended absent =>
          simp only [recordEnd_none]
          exact ⟨[], Ends.of_endTasks [] Generations.Step.same rfl rfl
            (List.append_nil _).symm rfl rfl⟩
      | duplicate error classify pended =>
          exact ⟨[], Ends.of_nothing Generations.Step.same rfl rfl rfl (.inr rfl)⟩
  | endTcpConnection endpoint processId =>
      obtain ⟨cache, ended⟩ := endTcpInstance_device system.device input.now endpoint
      refine ⟨_, Ends.of_endTasks [] (generations_endTcpInstance system input.clock
        endpoint) ?_ rfl (List.append_nil _).symm rfl rfl⟩
      simp [Task.step, ended]
  | completeReadyTcpEndpointClosure endpoint =>
      simp only [Task.step, Device.completeReadyTcpEndpointClosure]
      cases taken : system.device.tcpClosureCache.takeReady endpoint.instanceId with
      | mk ready closures =>
          cases ready with
          | none => exact ⟨[], Ends.of_nothing Generations.Step.same rfl rfl rfl (.inr rfl)⟩
          | some closure =>
              obtain ⟨cache, ended⟩ := endTcpInstance_device
                { system.device with tcpClosureCache := closures } input.now endpoint
              refine ⟨_, Ends.of_endTasks _ (generations_endTcpInstance { system with
                device := { system.device with tcpClosureCache := closures } } input.clock
                endpoint) ?_ rfl rfl rfl rfl⟩
              simp [ended]
  | completeClassify classify =>
      exact ⟨[], Ends.of_nothing Generations.Step.same rfl rfl rfl (.inr rfl)⟩
  | popAll =>
      refine ⟨[], Ends.of_nothing Generations.Step.same rfl rfl ?_ (.inr rfl)⟩
      simp only [Task.step, List.flatMap_append, List.flatMap_assoc, List.append_eq_nil_iff]
      refine ⟨List.flatMap_eq_nil_iff.mpr fun entry _ => ?_, rfl⟩
      simp [blockTasks, resolveTasks, List.flatMap_map, Task.endIds]
  | drainTcpEndpointClosures =>
      refine ⟨[], Ends.of_nothing Generations.Step.same rfl rfl ?_ (.inr rfl)⟩
      simp only [Task.step, List.flatMap_assoc]
      exact List.flatMap_eq_nil_iff.mpr fun entry _ => rfl

end Ends

end WindowsKext
