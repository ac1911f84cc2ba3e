import WindowsKext.ConnectionCacheCore
import WindowsKext.ConnectionMapRuns

/-! Connection maps under both settings of IgnoreSpecialPorts. Every map operation keeps the
stored instance ids among the inserted ones, and an instance update replaces one live entry. -/

namespace WindowsKext

open FirstMatch KeyedGroups

section Requests

variable {A : Type} [AddressFamily A] [DecidableEq A]

/-- A live entry that a request with this key and instance id addresses: its tuple is the key,
or the key is a reply to its redirect target. -/
structure MatchesRequest (ignoreSpecialPorts : Bool) (key : Key) (instanceId : Nat)
    (connection : Connection A) : Prop where
  live : connection.hasEnded = false
  instance_eq : connection.instanceId = instanceId
  tuple : connection.remoteEquals key = true ∨
    (isRedirectPort ignoreSpecialPorts key.remotePort = true ∧
      connection.getKey.small = key.small ∧ connection.redirectEquals key = true)

theorem matchesRequest_of_exact {ignoreSpecialPorts : Bool} {key : Key} {instanceId : Nat}
    {connection : Connection A}
    (accepted : ConnectionMap.isLiveInstance key instanceId connection = true) :
    MatchesRequest ignoreSpecialPorts key instanceId connection := by
  simp only [ConnectionMap.isLiveInstance, Bool.and_eq_true, beq_iff_eq, Bool.not_eq_true']
    at accepted
  exact ⟨accepted.2, accepted.1.2, .inl accepted.1.1⟩

theorem MatchesRequest.accepted {ignoreSpecialPorts : Bool} {key : Key} {instanceId : Nat}
    {connection : Connection A}
    (matched : MatchesRequest ignoreSpecialPorts key instanceId connection) :
    ConnectionMap.isLiveInstance key instanceId connection = true ∨
      (isRedirectPort ignoreSpecialPorts key.remotePort = true ∧
        connection.getKey.small = key.small ∧
        ConnectionMap.isLiveRedirectInstance key instanceId connection = true) := by
  rcases matched.tuple with exactTuple | ⟨port, group, redirect⟩
  · left
    simp [ConnectionMap.isLiveInstance, exactTuple, matched.instance_eq, matched.live]
  · right
    refine ⟨port, group, ?_⟩
    simp [ConnectionMap.isLiveRedirectInstance, redirect, matched.instance_eq, matched.live]

omit [DecidableEq A] in
theorem remoteEndpoint_of_redirectEquals {connection : Connection A} {key : Key}
    (family : (AddressFamily.ofIpAddress (A := A) key.localAddress).isSome)
    (matched : connection.redirectEquals key = true) :
    (remoteEndpointFromKey A key).isSome := by
  have known : (AddressFamily.ofIpAddress (A := A) key.remoteAddress).isSome := by
    unfold Connection.redirectEquals at matched
    split at matched
    · split at matched
      · cases matched
      · cases found : AddressFamily.ofIpAddress (A := A) key.remoteAddress with
        | none => simp [found] at matched
        | some address => rfl
    · split at matched
      · cases matched
      · rw [← beq_iff_eq.mp matched]
        exact family
    · split at matched
      · cases matched
      · rw [← beq_iff_eq.mp matched]
        exact family
    · cases matched
  simpa [remoteEndpointFromKey] using known

/-- The outcome of an update of one instance: nothing is addressed and nothing changes, or one
live entry is replaced. -/
inductive InstanceUpdate (ignoreSpecialPorts : Bool) (now : Nat) (key : Key) (instanceId : Nat)
    (update : Connection A → Connection A) (map : ConnectionMap A) (flat : List (Connection A)) :
    Option (Connection A) × ConnectionMap A → Prop where
  | absent (missing : ∀ connection ∈ flat,
      ¬ MatchesRequest ignoreSpecialPorts key instanceId connection) :
      InstanceUpdate ignoreSpecialPorts now key instanceId update map flat (none, map)
  | replaced (before after : List (Connection A)) (connection : Connection A)
      (stored : flat = before ++ connection :: after)
      (matched : MatchesRequest ignoreSpecialPorts key instanceId connection)
      (updated : Connection A) (returned : ∃ original, updated = update original)
      (result : ConnectionMap A) (represents : result.Represents
        (before ++ update (refreshUntrackedActivity now connection) :: after)) :
      InstanceUpdate ignoreSpecialPorts now key instanceId update map flat (some updated, result)

section Update

variable {map : ConnectionMap A} {flat : List (Connection A)} {key : Key}
  {ignoreSpecialPorts : Bool} {now instanceId : Nat}

theorem updateInBucket_of_none (represents : map.Represents flat)
    {test : Connection A → Bool} {update : Connection A → Connection A}
    (exact : ∀ connection, test connection = true → connection.remoteEquals key = true)
    (missing : flat.find? test = none) : map.updateInBucket key test update = (none, map) := by
  rw [ConnectionMap.updateInBucket, represents.find_bucket exact, missing]

omit [DecidableEq A] in
theorem mem_candidates {group : IpProtocol × UInt16} {connection : Connection A} :
    connection ∈ FlatReference.candidates flat group ↔
      connection ∈ flat ∧ connection.getKey.small = group := by
  rw [FlatReference.candidates, sortByKey, List.mem_mergeSort, List.mem_filter, beq_iff_eq]

theorem instanceUpdate_exact (represents : map.Represents flat)
    (update : Connection A → Connection A)
    (stable : ∀ connection, (update (refreshUntrackedActivity now connection)).place =
      connection.place)
    {connection : Connection A}
    (found : flat.find? (ConnectionMap.isLiveInstance key instanceId) = some connection) :
    InstanceUpdate ignoreSpecialPorts now key instanceId update map flat
      (map.updateInBucket key (ConnectionMap.isLiveInstance key instanceId)
        fun connection => update (refreshUntrackedActivity now connection)) := by
  have inBucket := represents.updateInBucket key (ConnectionMap.isLiveInstance key instanceId)
    (fun connection => update (refreshUntrackedActivity now connection))
    ConnectionMap.isLiveInstance_exact fun connection _ => stable connection
  obtain ⟨before, after, stored, updated⟩ := modifyFirst_of_some found
    fun connection => update (refreshUntrackedActivity now connection)
  rw [found, updated] at inBucket
  generalize ConnectionMap.updateInBucket map key _ _ = result at inBucket
  obtain ⟨selected, result⟩ := result
  obtain ⟨rfl, represents⟩ := inBucket
  exact .replaced before after connection stored
    (matchesRequest_of_exact (List.find?_some found)) _ ⟨_, rfl⟩ result represents

theorem instanceUpdate_redirect (represents : map.Represents flat)
    (update : Connection A → Connection A)
    (stable : ∀ connection, (update (refreshUntrackedActivity now connection)).place =
      connection.place)
    (port : isRedirectPort ignoreSpecialPorts key.remotePort = true)
    (absent : flat.find? (ConnectionMap.isLiveInstance key instanceId) = none) :
    InstanceUpdate ignoreSpecialPorts now key instanceId update map flat
      (map.updateInGroup key (ConnectionMap.isLiveRedirectInstance key instanceId)
        fun connection => update (refreshUntrackedActivity now connection)) := by
  have inGroup := represents.updateInGroup key
    (ConnectionMap.isLiveRedirectInstance key instanceId)
    (fun connection => update (refreshUntrackedActivity now connection))
    fun connection _ => stable connection
  cases found : (FlatReference.candidates flat key.small).find?
      (ConnectionMap.isLiveRedirectInstance key instanceId) with
  | none =>
      have unchanged : map.updateInGroup key
          (ConnectionMap.isLiveRedirectInstance key instanceId)
          (fun connection => update (refreshUntrackedActivity now connection)) = (none, map) := by
        rw [ConnectionMap.updateInGroup, represents.find_group, found]
      rw [unchanged]
      refine .absent ?_
      intro connection member matched
      rcases matched.accepted with exactTuple | ⟨_, group, redirect⟩
      · exact List.find?_eq_none.mp absent connection member exactTuple
      · exact List.find?_eq_none.mp found connection (mem_candidates.mpr ⟨member, group⟩) redirect
  | some selected =>
      have inFlat := mem_candidates.mp (List.mem_of_find?_eq_some found)
      rw [found, FlatReference.modifyCandidate] at inGroup
      -- The first entry at the selected place that passes the test is the one updated.
      cases first : flat.find? fun connection => decide (connection.place = selected.place) &&
          ConnectionMap.isLiveRedirectInstance key instanceId connection with
      | none =>
          refine absurd (List.find?_eq_none.mp first selected inFlat.1) ?_
          simp [List.find?_some found]
      | some connection =>
          obtain ⟨before, after, stored, updated⟩ := modifyFirst_of_some first
            fun connection => update (refreshUntrackedActivity now connection)
          rw [updated] at inGroup
          generalize ConnectionMap.updateInGroup map key _ _ = result at inGroup
          obtain ⟨result, final⟩ := result
          obtain ⟨rfl, represents⟩ := inGroup
          have accepted := List.find?_some first
          simp only [Bool.and_eq_true, decide_eq_true_eq, ConnectionMap.isLiveRedirectInstance,
            beq_iff_eq, Bool.not_eq_true'] at accepted
          obtain ⟨placed, ⟨redirect, sameInstance⟩, live⟩ := accepted
          have group : connection.getKey.small = key.small :=
            (congrArg Prod.fst placed).trans inFlat.2
          exact .replaced before after connection stored
            ⟨live, sameInstance, .inr ⟨port, group, redirect⟩⟩ _ ⟨_, rfl⟩ final represents

theorem getMutInstance_cases (represents : map.Represents flat) (nonzero : instanceId ≠ 0)
    (family : (AddressFamily.ofIpAddress (A := A) key.localAddress).isSome)
    (update : EntryUpdate A) :
    InstanceUpdate ignoreSpecialPorts now key instanceId update.apply map flat
      (map.getMutInstance ignoreSpecialPorts now key instanceId update.apply) := by
  have stable : ∀ connection : Connection A,
      (update.apply (refreshUntrackedActivity now connection)).place = connection.place := by
    intro connection
    rw [update.keepsPlace, place_refreshUntrackedActivity]
  unfold ConnectionMap.getMutInstance
  simp only [nonzero, beq_iff_eq, ↓reduceIte]
  cases known : remoteEndpointFromKey A key with
  | none =>
      refine .absent ?_
      intro connection member matched
      rcases matched.tuple with exactTuple | ⟨_, _, redirect⟩
      · obtain ⟨endpoint, same, _⟩ := place_of_remoteEquals exactTuple
        rw [known] at same
        cases same
      · have some := remoteEndpoint_of_redirectEquals family redirect
        rw [known] at some
        cases some
  | some endpoint =>
      dsimp only
      cases found : flat.find? (ConnectionMap.isLiveInstance key instanceId) with
      | some connection =>
          have replaced : InstanceUpdate ignoreSpecialPorts now key instanceId update.apply map
              flat (map.updateInBucket key (ConnectionMap.isLiveInstance key instanceId)
                fun connection => update.apply (refreshUntrackedActivity now connection)) :=
            instanceUpdate_exact represents update.apply stable found
          split
          · exact replaced
          · split
            · rename_i same
              rw [same] at replaced
              exact replaced
            · rename_i same
              rw [same] at replaced
              cases replaced with
              | absent missing =>
                  exact absurd (matchesRequest_of_exact (List.find?_some found))
                    (missing connection (List.mem_of_find?_eq_some found))
      | none =>
          have unchanged : map.updateInBucket key (ConnectionMap.isLiveInstance key instanceId)
              (fun connection => update.apply (refreshUntrackedActivity now connection)) =
                (none, map) :=
            updateInBucket_of_none represents ConnectionMap.isLiveInstance_exact found
          rw [unchanged]
          split
          · rename_i port
            refine .absent ?_
            intro connection member matched
            rcases matched.accepted with exactTuple | ⟨redirectPort, _, _⟩
            · exact List.find?_eq_none.mp found connection member exactTuple
            · simp [redirectPort] at port
          · rename_i port
            exact instanceUpdate_redirect represents update.apply stable (by simpa using port) found

end Update

end Requests

section Stored

variable {A : Type}

theorem instanceIds_modifyFirst {test : Connection A → Bool}
    {update : Connection A → Connection A} (flat : List (Connection A))
    (same : ∀ connection, (update connection).instanceId = connection.instanceId) :
    (modifyFirst test update flat).map Connection.instanceId = flat.map Connection.instanceId :=
  map_modifyFirst flat fun connection _ => same connection

theorem instanceIds_endWhere (flat : List (Connection A)) (now : Nat)
    (test : Connection A → Bool) :
    (FlatReference.endWhere flat now test).2.map Connection.instanceId =
      flat.map Connection.instanceId := by
  simp only [FlatReference.endWhere, List.map_map]
  refine List.map_congr_left fun connection _ => ?_
  simp only [Function.comp_apply]
  split <;> rfl

variable [AddressFamily A]

theorem instanceIds_modifyCandidate {test : Connection A → Bool}
    {update : Connection A → Connection A} (flat : List (Connection A))
    (selected : Option (Connection A))
    (same : ∀ connection, (update connection).instanceId = connection.instanceId) :
    (FlatReference.modifyCandidate flat selected test update).map Connection.instanceId =
      flat.map Connection.instanceId := by
  cases selected with
  | none => rfl
  | some selected => exact instanceIds_modifyFirst flat same

variable [DecidableEq A]

theorem instanceIds_refreshRead (flat : List (Connection A)) (now : Nat) (key : Key) :
    (FlatReference.refreshRead flat now key).map Connection.instanceId =
      flat.map Connection.instanceId := by
  unfold FlatReference.refreshRead
  split
  · exact instanceIds_modifyFirst flat fun connection =>
      instanceId_refreshUntrackedActivity connection now
  · exact instanceIds_modifyCandidate flat _ fun connection =>
      instanceId_refreshUntrackedActivity connection now

theorem instanceIds_updateInstance (flat : List (Connection A)) (key : Key) (instanceId : Nat)
    {update : Connection A → Connection A}
    (same : ∀ connection, (update connection).instanceId = connection.instanceId) :
    (FlatReference.updateInstance flat key instanceId update).map Connection.instanceId =
      flat.map Connection.instanceId := by
  unfold FlatReference.updateInstance
  split
  · rfl
  · split
    · exact instanceIds_modifyFirst flat same
    · exact instanceIds_modifyCandidate flat _ same

theorem instanceIds_endInstance (flat : List (Connection A)) (now : Nat) (key : Key)
    (instanceId : Nat) :
    (FlatReference.endInstance flat now key instanceId).2.map Connection.instanceId =
      flat.map Connection.instanceId := by
  unfold FlatReference.endInstance
  split
  · rfl
  · exact instanceIds_modifyFirst flat fun _ => rfl

theorem instanceIds_endInstances (flat : List (Connection A)) (now : Nat)
    (instances : List (Key × Nat)) :
    (FlatReference.endInstances flat now instances).2.map Connection.instanceId =
      flat.map Connection.instanceId := by
  induction instances generalizing flat with
  | nil => rfl
  | cons first rest ih =>
      simp only [FlatReference.endInstances]
      rw [ih, instanceIds_endInstance]

/-- The instance ids of the stored entries are among the inserted ones, in order. -/
def StoredInserted (run : MapRun (List (Connection A))) : Prop :=
  (run.state.map Connection.instanceId).Sublist run.inserted

theorem storedInserted_flatStep {flat : MapRun (List (Connection A))}
    (stored : StoredInserted flat) (op : MapOp A) : StoredInserted (op.flatStep flat) := by
  have updated (now : Nat) (update : EntryUpdate A) (connection : Connection A) :
      (update.apply (refreshUntrackedActivity now connection)).instanceId =
        connection.instanceId := by
    rw [update.keepsInstance, instanceId_refreshUntrackedActivity]
  unfold StoredInserted at *
  cases op with
  | insertIfAbsentWith connection update =>
      simp only [MapOp.flatStep, FlatReference.insertIfAbsentWith]
      split
      · simp only [MapRun.store]
        rwa [instanceIds_modifyFirst _ update.keepsInstance]
      · simp only [List.map_append, List.map_cons, List.map_nil]
        exact stored.append (List.Sublist.refl _)
  | getMut now key update =>
      simp only [MapOp.flatStep, MapRun.store]
      rwa [instanceIds_modifyFirst _ (updated now update)]
  | getMutInstance now key instanceId update =>
      simp only [MapOp.flatStep, MapRun.store]
      rwa [instanceIds_updateInstance _ key instanceId (updated now update)]
  | read now key | readWithEndedFallback now key | readForPacket now key direction =>
      simp only [MapOp.flatStep, MapRun.store]
      rwa [instanceIds_refreshRead]
  | markNativeLifecycleInstance key instanceId =>
      simp only [MapOp.flatStep, MapRun.store, FlatReference.markNativeLifecycleInstance]
      split
      · exact stored
      · have same : ∀ connection : Connection A,
            connection.markNativeLifecycle.instanceId = connection.instanceId := fun _ => rfl
        rwa [instanceIds_modifyFirst _ same]
  | endInstance now key instanceId =>
      simp only [MapOp.flatStep, MapRun.finish]
      rwa [instanceIds_endInstance]
  | endInstances now instances =>
      simp only [MapOp.flatStep, MapRun.finish]
      rwa [instanceIds_endInstances]
  | endAllOnEndpoint now group localAddress processId
  | endUntrackedOnEndpoint now group localAddress processId =>
      simp only [MapOp.flatStep, MapRun.finish, FlatReference.endMatchingOnEndpoint]
      rwa [instanceIds_endWhere]
  | endInactiveUntrackedConnections now =>
      simp only [MapOp.flatStep, MapRun.finish]
      rwa [instanceIds_endWhere]
  | cleanEndedConnections now =>
      simp only [MapOp.flatStep, MapRun.store]
      exact (List.filter_sublist.map _).trans stored
  | clear => exact List.nil_sublist _

/-- A map operation under a setting of IgnoreSpecialPorts. -/
def MapOp.stepWith (ignoreSpecialPorts : Bool) (run : MapRun (ConnectionMap A)) :
    MapOp A → MapRun (ConnectionMap A)
  | .getMutInstance now key instanceId update =>
      run.store (run.state.getMutInstance ignoreSpecialPorts now key instanceId update.apply).2
  | .read now key => run.store (run.state.read ignoreSpecialPorts now key some).2
  | .readWithEndedFallback now key =>
      run.store (run.state.readWithEndedFallback ignoreSpecialPorts now key some).2
  | .readForPacket now key direction =>
      run.store (run.state.readForPacket ignoreSpecialPorts now key direction some).2
  | op => op.step run

theorem stepWith_false (run : MapRun (ConnectionMap A)) (op : MapOp A) :
    op.stepWith false run = op.step run := by
  cases op <;> rfl

/-- A map that stores a list of entries with inserted instance ids. -/
def Kept (map : ConnectionMap A) (inserted : List Nat) : Prop :=
  ∃ flat, map.Represents flat ∧ (flat.map Connection.instanceId).Sublist inserted

theorem kept_step {run : MapRun (ConnectionMap A)} (kept : Kept run.state run.inserted)
    (op : MapOp A) : Kept (op.step run).state (op.step run).inserted := by
  obtain ⟨flat, represents, stored⟩ := kept
  have simulates : Simulates run ⟨flat, run.inserted, run.ended⟩ :=
    ⟨represents, rfl, List.Perm.refl _⟩
  have after := simulates.step op
  have before : StoredInserted ⟨flat, run.inserted, run.ended⟩ := stored
  exact ⟨_, after.represents, after.inserted ▸ storedInserted_flatStep before op⟩

theorem kept_updateInBucket {map : ConnectionMap A} {inserted : List Nat}
    (kept : Kept map inserted) (key : Key) {test : Connection A → Bool}
    {update : Connection A → Connection A}
    (exact : ∀ connection, test connection = true → connection.remoteEquals key = true)
    (place : ∀ connection, (update connection).place = connection.place)
    (same : ∀ connection, (update connection).instanceId = connection.instanceId) :
    Kept (map.updateInBucket key test update).2 inserted := by
  obtain ⟨flat, represents, stored⟩ := kept
  have updated := represents.updateInBucket key test update exact fun connection _ =>
    place connection
  refine ⟨_, updated.2, ?_⟩
  rwa [instanceIds_modifyFirst flat same]

theorem readMatching_ignoring {C : Type} (map : ConnectionMap A) (now : Nat) (key : Key)
    (readConnection : Connection A → Option C) (useEndedFallback : Bool) :
    (map.readMatching true now key readConnection useEndedFallback).2 =
      (map.updateInBucket key (isLiveExact key) (refreshUntrackedActivity now)).2 := by
  have noRedirect (connections : RemoteConnections A) :
      ConnectionMap.redirectMatches true connections key = (none, none) := by
    simp [ConnectionMap.redirectMatches, isRedirectPort]
  unfold ConnectionMap.readMatching ConnectionMap.updateInBucket ConnectionMap.bucket
  cases known : remoteEndpointFromKey A key with
  | none =>
      cases map[key.small]? with
      | none => rfl
      | some connections =>
          simp only [ConnectionMap.exactMatches, known, noRedirect]
          cases useEndedFallback <;> rfl
  | some endpoint =>
      cases map[key.small]? with
      | none => rfl
      | some connections =>
          simp only [ConnectionMap.exactMatches, known, noRedirect, Option.bind_eq_bind,
            Option.bind_some]
          cases connections.get endpoint with
          | none => cases useEndedFallback <;> rfl
          | some bucket =>
              have spec := (ConnectionMap.liveAndEndedMatch_spec
                (fun connection : Connection A => connection.remoteEquals key) none bucket.iter).1
              dsimp only
              generalize liveAndEndedMatch _ none bucket.iter = found at spec
              obtain ⟨live, ended⟩ := found
              subst spec
              have test : (fun connection : Connection A =>
                  connection.remoteEquals key && !connection.hasEnded) = isLiveExact key := rfl
              simp only [test, Option.bind_some]
              cases bucket.iter.find? (isLiveExact key) with
              | some connection => rfl
              | none =>
                  dsimp only
                  split <;> rfl

theorem kept_stepWith {run : MapRun (ConnectionMap A)} (kept : Kept run.state run.inserted)
    (ignoreSpecialPorts : Bool) (op : MapOp A) :
    Kept (op.stepWith ignoreSpecialPorts run).state
      (op.stepWith ignoreSpecialPorts run).inserted := by
  cases ignoreSpecialPorts with
  | false => exact stepWith_false run op ▸ kept_step kept op
  | true =>
      have refreshed (now : Nat) (key : Key) : Kept
          (run.state.updateInBucket key (isLiveExact key) (refreshUntrackedActivity now)).2
          run.inserted :=
        kept_updateInBucket kept key (isLiveExact_exact key)
          (fun connection => place_refreshUntrackedActivity connection now)
          fun connection => instanceId_refreshUntrackedActivity connection now
      have read (now : Nat) (key : Key) (fallback : Bool) :
          Kept (run.state.readMatching true now key some fallback).2 run.inserted := by
        rw [readMatching_ignoring]
        exact refreshed now key
      cases op with
      | getMutInstance now key instanceId update =>
          simp only [MapOp.stepWith, MapRun.store, ConnectionMap.getMutInstance, isRedirectPort,
            Bool.not_true, Bool.and_false, Bool.not_false, ↓reduceIte]
          split
          · exact kept
          · split
            · exact kept
            · refine kept_updateInBucket kept key ConnectionMap.isLiveInstance_exact ?_ ?_
              · intro connection
                rw [update.keepsPlace, place_refreshUntrackedActivity]
              · intro connection
                rw [update.keepsInstance, instanceId_refreshUntrackedActivity]
      | read now key => exact read now key false
      | readWithEndedFallback now key => exact read now key true
      | readForPacket now key direction =>
          cases direction with
          | inbound => exact read now key false
          | outbound => exact read now key true
      | _ => exact kept_step kept _

end Stored

end WindowsKext
