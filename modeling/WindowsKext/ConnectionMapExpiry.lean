import WindowsKext.ConnectionMapLifecycle

/-! Idle expiry and history cleanup, compared with the insertion-ordered list, and the activity that
keeps an entry from being expired. -/

namespace WindowsKext

open FirstMatch KeyedGroups

variable {A : Type}

def Connection.IdleExpirable (connection : Connection A) : Prop :=
  connection.hasEnded = false ∧ connection.extra.nativeLifecycle = false ∧
    connection.extra.idleExpiration = true

instance (connection : Connection A) : Decidable connection.IdleExpirable :=
  inferInstanceAs (Decidable (_ ∧ _ ∧ _))

theorem shouldExpireUntracked_iff (connection : Connection A) (cutoff : Nat) :
    shouldExpireUntracked connection cutoff = true ↔
      connection.IdleExpirable ∧ connection.lastAccessedTimestamp < cutoff := by
  simp [shouldExpireUntracked, Connection.IdleExpirable, and_assoc]

theorem refreshUntrackedActivity_idle {connection : Connection A} (idle : connection.IdleExpirable)
    (now : Nat) : refreshUntrackedActivity now connection = connection.setLastAccessedTime now := by
  obtain ⟨live, untracked, expires⟩ := idle
  simp [refreshUntrackedActivity, live, untracked, expires]

theorem refreshUntrackedActivity_notIdle {connection : Connection A}
    (notIdle : ¬ connection.IdleExpirable) (now : Nat) :
    refreshUntrackedActivity now connection = connection := by
  unfold refreshUntrackedActivity
  split
  · rename_i accepted
    simp only [Bool.and_eq_true, Bool.not_eq_true'] at accepted
    exact absurd ⟨accepted.1.1, accepted.1.2, accepted.2⟩ notIdle
  · rfl

/-- Idle expiry would not take an entry whose last access is not before `time`. -/
def Connection.Recent (time : Nat) (connection : Connection A) : Prop :=
  connection.IdleExpirable → time ≤ connection.lastAccessedTimestamp

theorem recent_refresh {time now : Nat} (notBefore : time ≤ now) {connection : Connection A}
    (recent : connection.Recent time) : (refreshUntrackedActivity now connection).Recent time := by
  by_cases idle : connection.IdleExpirable
  · rw [refreshUntrackedActivity_idle idle]
    exact fun _ => notBefore
  · rw [refreshUntrackedActivity_notIdle idle]
    exact recent

structure KeepsActivity (time : Nat) (before after : Connection A) : Prop where
  instanceId : after.instanceId = before.instanceId
  recent : before.Recent time → after.Recent time

namespace KeepsActivity

variable {time now : Nat}

theorem refl (connection : Connection A) : KeepsActivity time connection connection :=
  ⟨rfl, id⟩

theorem trans {first second third : Connection A} (left : KeepsActivity time first second)
    (right : KeepsActivity time second third) : KeepsActivity time first third :=
  ⟨right.instanceId.trans left.instanceId, fun recent => right.recent (left.recent recent)⟩

theorem refresh (notBefore : time ≤ now) (connection : Connection A) :
    KeepsActivity time connection (refreshUntrackedActivity now connection) :=
  ⟨instanceId_refreshUntrackedActivity connection now, recent_refresh notBefore⟩

theorem endAt {connection : Connection A} (live : connection.hasEnded = false) :
    KeepsActivity time connection (connection.endAt now) :=
  ⟨rfl, fun recent idle => recent ⟨live, idle.2⟩⟩

theorem markNativeLifecycle (connection : Connection A) :
    KeepsActivity time connection connection.markNativeLifecycle := by
  refine ⟨rfl, ?_⟩
  intro _ idle
  cases idle.2.1

end KeepsActivity

structure ActivityKept (time : Nat) (before after : List (Connection A)) : Prop where
  instanceIds : (after.map Connection.instanceId).Sublist (before.map Connection.instanceId)
  source : ∀ entry ∈ after, ∃ earlier ∈ before, KeepsActivity time earlier entry

namespace ActivityKept

variable {time now : Nat} {flat : List (Connection A)} {test : Connection A → Bool}
  {update : Connection A → Connection A}

theorem refl (flat : List (Connection A)) : ActivityKept time flat flat :=
  ⟨List.Sublist.refl _, fun entry member => ⟨entry, member, .refl entry⟩⟩

theorem trans {first second third : List (Connection A)} (left : ActivityKept time first second)
    (right : ActivityKept time second third) : ActivityKept time first third := by
  refine ⟨right.instanceIds.trans left.instanceIds, ?_⟩
  intro entry member
  obtain ⟨middle, inSecond, later⟩ := right.source entry member
  obtain ⟨earlier, inFirst, step⟩ := left.source middle inSecond
  exact ⟨earlier, inFirst, step.trans later⟩

theorem filter (test : Connection A → Bool) : ActivityKept time flat (flat.filter test) :=
  ⟨List.filter_sublist.map _, fun entry member =>
    ⟨entry, (List.mem_filter.mp member).1, .refl entry⟩⟩

theorem map (keeps : ∀ connection, KeepsActivity time connection (update connection)) :
    ActivityKept time flat (flat.map update) := by
  constructor
  · have same : flat.map (Connection.instanceId ∘ update) = flat.map Connection.instanceId :=
      List.map_congr_left fun connection _ => (keeps connection).instanceId
    rw [List.map_map, same]
  · intro entry member
    obtain ⟨connection, inFlat, rfl⟩ := List.mem_map.mp member
    exact ⟨connection, inFlat, keeps connection⟩

theorem modifyFirst
    (keeps : ∀ connection, test connection = true → KeepsActivity time connection (update connection)) :
    ActivityKept time flat (modifyFirst test update flat) := by
  constructor
  · rw [map_modifyFirst flat fun connection accepted => (keeps connection accepted).instanceId]
  · intro entry member
    rcases mem_modifyFirst member with old | ⟨connection, inFlat, accepted, rfl⟩
    · exact ⟨entry, old, .refl entry⟩
    · exact ⟨connection, inFlat, keeps connection accepted⟩

theorem endWhere (live : ∀ connection, test connection = true → connection.hasEnded = false) :
    ActivityKept time flat (FlatReference.endWhere flat now test).2 := by
  refine map ?_
  intro connection
  split
  · rename_i accepted
    exact .endAt (live connection accepted)
  · exact .refl connection

variable [AddressFamily A]

theorem modifyCandidate (selected : Option (Connection A))
    (keeps : ∀ connection, test connection = true → KeepsActivity time connection (update connection)) :
    ActivityKept time flat (FlatReference.modifyCandidate flat selected test update) := by
  cases selected with
  | none => exact refl flat
  | some selected =>
      refine modifyFirst ?_
      intro connection accepted
      exact keeps connection (Bool.and_eq_true _ _ ▸ accepted).2

variable [DecidableEq A]

theorem refreshRead (notBefore : time ≤ now) (key : Key) :
    ActivityKept time flat (FlatReference.refreshRead flat now key) := by
  unfold FlatReference.refreshRead
  split
  · exact modifyFirst fun connection _ => .refresh notBefore connection
  · exact modifyCandidate _ fun connection _ => .refresh notBefore connection

theorem updateInstance (keeps : ∀ connection, KeepsActivity time connection (update connection))
    (key : Key) (instanceId : Nat) :
    ActivityKept time flat (FlatReference.updateInstance flat key instanceId update) := by
  unfold FlatReference.updateInstance
  split
  · exact refl flat
  · split
    · exact modifyFirst fun connection _ => keeps connection
    · exact modifyCandidate _ fun connection _ => keeps connection

theorem endInstance (key : Key) (instanceId : Nat) :
    ActivityKept time flat (FlatReference.endInstance flat now key instanceId).2 := by
  unfold FlatReference.endInstance
  split
  · exact refl flat
  · refine modifyFirst ?_
    intro connection accepted
    simp only [ConnectionMap.isLiveInstance, Bool.and_eq_true, Bool.not_eq_true'] at accepted
    exact .endAt accepted.2

theorem endInstances (instances : List (Key × Nat)) :
    ActivityKept time flat (FlatReference.endInstances flat now instances).2 := by
  induction instances generalizing flat with
  | nil => exact refl flat
  | cons first rest ih => exact (endInstance first.1 first.2).trans ih

end ActivityKept

variable [AddressFamily A]

/-- The update of a caller does not take away that an entry is recent. -/
def EntryUpdate.KeepsRecent (update : EntryUpdate A) (time : Nat) : Prop :=
  ∀ connection, connection.Recent time → (update.apply connection).Recent time

/-- An operation at `time` or later, whose update keeps entries recent. -/
def MapOp.KeepsRecent (time : Nat) : MapOp A → Prop
  | .getMut now _ update | .getMutInstance now _ _ update => time ≤ now ∧ update.KeepsRecent time
  | .insertIfAbsentWith _ update => update.KeepsRecent time
  | .read now _ | .readWithEndedFallback now _ | .readForPacket now _ _ => time ≤ now
  | .markNativeLifecycleInstance _ _ | .endInstance _ _ _ | .endInstances _ _
  | .endAllOnEndpoint _ _ _ _ | .endUntrackedOnEndpoint _ _ _ _
  | .endInactiveUntrackedConnections _ | .cleanEndedConnections _ | .clear => True

theorem EntryUpdate.KeepsRecent.afterRefresh {update : EntryUpdate A} {time now : Nat}
    (keeps : update.KeepsRecent time) (notBefore : time ≤ now) (connection : Connection A) :
    KeepsActivity time connection (update.apply (refreshUntrackedActivity now connection)) :=
  (KeepsActivity.refresh notBefore connection).trans
    ⟨update.keepsInstance _, keeps _⟩

/-- Among the entries of its place, the selected candidate is the first one in the flat list too:
the candidates of one endpoint stay in insertion order. -/
theorem find_candidate_place {test : Connection A → Bool} {flat : List (Connection A)}
    {group : IpProtocol × UInt16} {selected : Connection A}
    (found : (FlatReference.candidates flat group).find? test = some selected) :
    (flat.find? fun entry => decide (entry.place = selected.place) && test entry) =
      some selected := by
  have member := List.mem_of_find?_eq_some found
  have inGroup : selected.getKey.small = group := by
    have inFiltered := (List.mergeSort_perm _ _).mem_iff.mp member
    exact eq_of_beq (List.mem_filter.mp inFiltered).2
  have atEndpoint : (atKey remoteEndpointFromConnection (remoteEndpointFromConnection selected)
      (FlatReference.candidates flat group)).find? test = some selected :=
    find?_filter_of_some found (decide_eq_true rfl)
  rw [FlatReference.candidates, atKey_sortByKey, atKey, List.filter_filter, List.find?_filter]
    at atEndpoint
  rw [← atEndpoint]
  congr 1
  funext entry
  rw [Connection.place, Connection.place, inGroup, Bool.eq_iff_iff]
  simp [and_comm]

theorem MapOp.keepsRecent_zero (op : MapOp A) : op.KeepsRecent 0 := by
  have always (update : EntryUpdate A) : update.KeepsRecent 0 :=
    fun connection _ _ => Nat.zero_le _
  cases op with
  | insertIfAbsentWith connection update => exact always update
  | getMut now key update | getMutInstance now key instanceId update =>
      exact ⟨Nat.zero_le now, always update⟩
  | read now key | readWithEndedFallback now key | readForPacket now key _ => exact Nat.zero_le now
  | _ => trivial

theorem modifyCandidate_mem {test : Connection A → Bool} {update : Connection A → Connection A}
    {flat : List (Connection A)} {group : IpProtocol × UInt16} {selected : Connection A}
    (found : (FlatReference.candidates flat group).find? test = some selected) :
    update selected ∈ FlatReference.modifyCandidate flat
      ((FlatReference.candidates flat group).find? test) test update := by
  rw [found]
  exact update_mem_modifyFirst (find_candidate_place found) update

variable [DecidableEq A]

/-- The stored entry that a lookup, an update or an insertion leaves behind. -/
def MapOp.touched (flat : List (Connection A)) : MapOp A → Option (Connection A)
  | .insertIfAbsentWith connection update =>
      some (((flat.find? (isLiveExact connection.getKey)).map update.apply).getD connection)
  | .getMut now key update => (flat.find? (isLiveExact key)).map fun connection =>
      update.apply (refreshUntrackedActivity now connection)
  | .getMutInstance now key instanceId update =>
      if (remoteEndpointFromKey A key).isSome then
        (FlatReference.liveInstance flat key instanceId).map fun connection =>
          update.apply (refreshUntrackedActivity now connection)
      else none
  | .read now key | .readWithEndedFallback now key | .readForPacket now key _ =>
      (FlatReference.readLive flat key).map (refreshUntrackedActivity now)
  | .markNativeLifecycleInstance _ _ | .endInstance _ _ _ | .endInstances _ _
  | .endAllOnEndpoint _ _ _ _ | .endUntrackedOnEndpoint _ _ _ _
  | .endInactiveUntrackedConnections _ | .cleanEndedConnections _ | .clear => none

/-- The operation leaves the instance with an access time that is not before `time`. -/
def MapOp.Touches (op : MapOp A) (flat : List (Connection A)) (time instanceId : Nat) : Prop :=
  ∃ entry, op.touched flat = some entry ∧ entry.instanceId = instanceId ∧
    time ≤ entry.lastAccessedTimestamp

section Steps

variable {run : MapRun (List (Connection A))} {time : Nat}

/-- Everything an operation can do to the activity: keep that of the entries it leaves, or append
the entry that it inserts. -/
theorem MapOp.flatStep_activity (op : MapOp A) (keeps : op.KeepsRecent time) :
    (ActivityKept time run.state (op.flatStep run).state ∧
        (op.flatStep run).inserted = run.inserted) ∨
      ∃ connection, (op.flatStep run).state = run.state ++ [connection] ∧
        (op.flatStep run).inserted = run.inserted ++ [connection.instanceId] := by
  cases op with
  | insertIfAbsentWith connection update =>
      simp only [flatStep, FlatReference.insertIfAbsentWith]
      split
      · exact .inl ⟨.modifyFirst fun entry _ => ⟨update.keepsInstance entry, keeps entry⟩, rfl⟩
      · exact .inr ⟨connection, rfl, rfl⟩
  | getMut now key update =>
      exact .inl ⟨.modifyFirst fun entry _ => keeps.2.afterRefresh keeps.1 entry, rfl⟩
  | getMutInstance now key instanceId update =>
      exact .inl ⟨.updateInstance (keeps.2.afterRefresh keeps.1) key instanceId, rfl⟩
  | read now key | readWithEndedFallback now key | readForPacket now key _ =>
      exact .inl ⟨.refreshRead keeps key, rfl⟩
  | markNativeLifecycleInstance key instanceId =>
      refine .inl ⟨?_, rfl⟩
      simp only [flatStep, MapRun.store, FlatReference.markNativeLifecycleInstance]
      split
      · exact .refl run.state
      · exact .modifyFirst fun entry _ => .markNativeLifecycle entry
  | endInstance now key instanceId => exact .inl ⟨.endInstance key instanceId, rfl⟩
  | endInstances now instances => exact .inl ⟨.endInstances instances, rfl⟩
  | endAllOnEndpoint now group localAddress processId
  | endUntrackedOnEndpoint now group localAddress processId =>
      refine .inl ⟨.endWhere ?_, rfl⟩
      intro connection accepted
      exact matchesEndpoint_live (Bool.and_eq_true _ _ ▸ accepted).2
  | endInactiveUntrackedConnections now =>
      refine .inl ⟨.endWhere ?_, rfl⟩
      intro connection accepted
      exact ((shouldExpireUntracked_iff connection _).mp accepted).1.1
  | cleanEndedConnections now => exact .inl ⟨.filter _, rfl⟩
  | clear =>
      have dropped : ActivityKept time run.state (run.state.filter fun _ => false) := .filter _
      rw [List.filter_false] at dropped
      exact .inl ⟨dropped, rfl⟩

theorem refreshRead_mem {flat : List (Connection A)} {key : Key} {entry : Connection A}
    (found : FlatReference.readLive flat key = some entry) (now : Nat) :
    refreshUntrackedActivity now entry ∈ FlatReference.refreshRead flat now key := by
  rw [FlatReference.readLive] at found
  rw [FlatReference.refreshRead]
  cases exact : flat.find? (isLiveExact key) with
  | some live =>
      rw [exact, Option.some_or] at found
      cases found
      exact update_mem_modifyFirst exact _
  | none =>
      rw [exact, Option.none_or] at found
      exact modifyCandidate_mem found

theorem updateInstance_mem {flat : List (Connection A)} {key : Key} {instanceId : Nat}
    {update : Connection A → Connection A} {entry : Connection A}
    (known : (remoteEndpointFromKey A key).isSome = true)
    (found : FlatReference.liveInstance flat key instanceId = some entry) :
    update entry ∈ FlatReference.updateInstance flat key instanceId update := by
  rw [FlatReference.liveInstance] at found
  split at found
  · cases found
  · rename_i positive
    have guarded : (decide (instanceId = 0) || (remoteEndpointFromKey A key).isNone) = false := by
      simp [positive, known]
    rw [FlatReference.updateInstance, if_neg (by rw [guarded]; exact Bool.false_ne_true)]
    cases exact : flat.find? (ConnectionMap.isLiveInstance key instanceId) with
    | some live =>
        rw [exact, Option.some_or] at found
        cases found
        exact update_mem_modifyFirst exact _
    | none =>
        rw [exact, Option.none_or] at found
        exact modifyCandidate_mem found

theorem MapOp.touched_mem {op : MapOp A} {entry : Connection A}
    (touched : op.touched run.state = some entry) : entry ∈ (op.flatStep run).state := by
  cases op with
  | insertIfAbsentWith connection update =>
      simp only [MapOp.touched, flatStep, FlatReference.insertIfAbsentWith] at touched ⊢
      cases found : run.state.find? (isLiveExact connection.getKey) with
      | none =>
          rw [found] at touched
          cases touched
          exact List.mem_append_right _ List.mem_cons_self
      | some existing =>
          rw [found] at touched
          cases touched
          exact update_mem_modifyFirst found _
  | getMut now key update =>
      obtain ⟨existing, found, rfl⟩ := Option.map_eq_some_iff.mp touched
      exact update_mem_modifyFirst found fun connection =>
        update.apply (refreshUntrackedActivity now connection)
  | getMutInstance now key instanceId update =>
      rw [MapOp.touched] at touched
      split at touched
      · rename_i known
        obtain ⟨existing, found, rfl⟩ := Option.map_eq_some_iff.mp touched
        exact updateInstance_mem known found
      · cases touched
  | read now key | readWithEndedFallback now key | readForPacket now key _ =>
      obtain ⟨existing, found, rfl⟩ := Option.map_eq_some_iff.mp touched
      exact refreshRead_mem found now
  | markNativeLifecycleInstance key instanceId => cases touched
  | endInstance now key instanceId => cases touched
  | endInstances now instances => cases touched
  | endAllOnEndpoint now group localAddress processId => cases touched
  | endUntrackedOnEndpoint now group localAddress processId => cases touched
  | endInactiveUntrackedConnections now => cases touched
  | cleanEndedConnections now => cases touched
  | clear => cases touched

end Steps

section Runs

variable {run : MapRun (List (Connection A))} {time instanceId : Nat}

def StoredInOrder (run : MapRun (List (Connection A))) : Prop :=
  (run.state.map Connection.instanceId).Sublist run.inserted

theorem StoredInOrder.step (stored : StoredInOrder run) (op : MapOp A) :
    StoredInOrder (op.flatStep run) := by
  rw [StoredInOrder]
  rcases op.flatStep_activity op.keepsRecent_zero with
    ⟨kept, inserted⟩ | ⟨connection, state, inserted⟩
  · rw [inserted]
    exact kept.instanceIds.trans stored
  · rw [state, inserted, List.map_append]
    exact stored.append (List.Sublist.refl _)

theorem StoredInOrder.foldl (stored : StoredInOrder run) (ops : List (MapOp A)) :
    StoredInOrder (ops.foldl MapOp.flatStep run) := by
  induction ops generalizing run with
  | nil => exact stored
  | cons op later ih => exact ih (stored.step op)

theorem MapOp.inserted_extends (op : MapOp A) : run.inserted <+: (op.flatStep run).inserted := by
  rcases op.flatStep_activity op.keepsRecent_zero with ⟨_, inserted⟩ | ⟨connection, _, inserted⟩
  · exact ⟨[], by rw [inserted, List.append_nil]⟩
  · rw [inserted]
    exact List.prefix_append _ _

theorem inserted_extends_foldl (ops : List (MapOp A)) :
    run.inserted <+: (ops.foldl MapOp.flatStep run).inserted := by
  induction ops generalizing run with
  | nil => exact List.prefix_rfl
  | cons op later ih => exact op.inserted_extends.trans ih

/-- Idle expiry would not take the instance as long as its cutoff is not after `time`. -/
structure RecentInstance (time instanceId : Nat) (run : MapRun (List (Connection A))) : Prop where
  known : instanceId ∈ run.inserted
  recent : ∀ entry ∈ run.state, entry.instanceId = instanceId → entry.Recent time

theorem RecentInstance.step (recent : RecentInstance time instanceId run) {op : MapOp A}
    (keeps : op.KeepsRecent time) (fresh : (op.flatStep run).inserted.Nodup) :
    RecentInstance time instanceId (op.flatStep run) := by
  refine ⟨op.inserted_extends.subset recent.known, ?_⟩
  intro entry member same
  rcases op.flatStep_activity keeps with ⟨kept, _⟩ | ⟨connection, state, inserted⟩
  · obtain ⟨earlier, inState, step⟩ := kept.source entry member
    exact step.recent (recent.recent earlier inState (step.instanceId.symm.trans same))
  · rw [state, List.mem_append, List.mem_singleton] at member
    rcases member with old | rfl
    · exact recent.recent entry old same
    · rw [inserted, same] at fresh
      exact absurd rfl
        ((List.nodup_append.mp fresh).2.2 instanceId recent.known instanceId List.mem_cons_self)

theorem RecentInstance.foldl (recent : RecentInstance time instanceId run) {ops : List (MapOp A)}
    (keeps : ∀ op ∈ ops, op.KeepsRecent time)
    (fresh : (ops.foldl MapOp.flatStep run).inserted.Nodup) :
    RecentInstance time instanceId (ops.foldl MapOp.flatStep run) := by
  induction ops generalizing run with
  | nil => exact recent
  | cons op later ih =>
      have once := recent.step (keeps op List.mem_cons_self)
        (fresh.sublist (inserted_extends_foldl later).sublist)
      exact ih once (fun next member => keeps next (List.mem_cons_of_mem _ member)) fresh

theorem MapOp.Touches.recentInstance {op : MapOp A} (touches : op.Touches run.state time instanceId)
    (stored : StoredInOrder run) (fresh : (op.flatStep run).inserted.Nodup) :
    RecentInstance time instanceId (op.flatStep run) := by
  obtain ⟨entry, touched, rfl, notBefore⟩ := touches
  have member := touched_mem touched
  have after := stored.step op
  refine ⟨after.mem (List.mem_map_of_mem member), ?_⟩
  intro other inState same _
  have sameEntry : other = entry :=
    List.inj_on_of_nodup_map (fresh.sublist after) inState member same
  rw [sameEntry]
  exact notBefore

end Runs

def Connection.IdleSince (now : Nat) (connection : Connection A) : Prop :=
  connection.IdleExpirable ∧ connection.lastAccessedTimestamp < now - 60000

instance (now : Nat) (connection : Connection A) : Decidable (connection.IdleSince now) :=
  inferInstanceAs (Decidable (_ ∧ _))

structure ExpiresExactly (map : ConnectionMap A) (flat : List (Connection A)) (now : Nat) : Prop where
  returned : (map.endInactiveUntrackedConnections now).1.Perm
    ((flat.filter fun connection => decide (connection.IdleSince now)).map fun connection =>
      connection.endAt now)
  stored : (map.endInactiveUntrackedConnections now).2.Represents (flat.map fun connection =>
    if connection.IdleSince now then connection.endAt now else connection)

def historyKept (flat : List (Connection A)) (now : Nat) : List (Connection A) :=
  flat.filter fun connection =>
    decide (¬ (connection.hasEnded = true ∧ connection.extra.endTimestamp < now - 60000))

/-- Exactly the old history is removed, and the lookups find what is left. -/
structure CleansExactly (map : ConnectionMap A) (flat : List (Connection A)) (now : Nat) : Prop where
  stored : (map.cleanEndedConnections now).Represents (historyKept flat now)
  found : ∀ key, EntriesFound (map.cleanEndedConnections now) (historyKept flat now) key

/-- A successful lookup of an expirable entry counts as activity at its time. So does an update that
leaves the access time alone. -/
structure LookupsTouch (flat : List (Connection A)) : Prop where
  read : ∀ now key entry, FlatReference.readLive flat key = some entry → entry.IdleExpirable →
    (MapOp.read now key).Touches flat now entry.instanceId
  readForPacket : ∀ now key direction entry, FlatReference.readLive flat key = some entry →
    entry.IdleExpirable → (MapOp.readForPacket now key direction).Touches flat now entry.instanceId
  getMut : ∀ now key (update : EntryUpdate A) entry, flat.find? (isLiveExact key) = some entry →
    entry.IdleExpirable →
    (∀ connection, (update.apply connection).lastAccessedTimestamp =
      connection.lastAccessedTimestamp) →
    (MapOp.getMut now key update).Touches flat now entry.instanceId

section Exact

variable {map : ConnectionMap A} {flat : List (Connection A)}

theorem expiresExactly (represents : map.Represents flat) (now : Nat) :
    ExpiresExactly map flat now := by
  have result := represents.endInactiveUntrackedConnections now
  have test : (fun connection : Connection A =>
      shouldExpireUntracked connection (now - untrackedIdleTimeout)) =
        fun connection => decide (connection.IdleSince now) := by
    funext connection
    rw [Bool.eq_iff_iff, decide_eq_true_iff]
    exact shouldExpireUntracked_iff connection _
  rw [test, FlatReference.endWhere] at result
  simp only [decide_eq_true_iff] at result
  exact ⟨result.1, result.2⟩

theorem cleansExactly (represents : map.Represents flat) (now : Nat) :
    CleansExactly map flat now := by
  have stored : (map.cleanEndedConnections now).Represents (historyKept flat now) := by
    have test : (fun connection : Connection A => decide (¬ (connection.hasEnded = true ∧
        connection.extra.endTimestamp < now - 60000))) = fun connection =>
          !connection.hasEnded || decide (connection.extra.endTimestamp ≥ now - 60000) := by
      funext connection
      cases connection.hasEnded with
      | false => simp
      | true => simp
    rw [historyKept, test]
    exact represents.retain
  exact ⟨stored, entriesFound_of_represents stored⟩

theorem lookupsTouch (flat : List (Connection A)) : LookupsTouch flat where
  read now key entry found idle := by
    refine ⟨_, congrArg (Option.map _) found, instanceId_refreshUntrackedActivity entry now, ?_⟩
    rw [refreshUntrackedActivity_idle idle]
    exact Nat.le_refl now
  readForPacket now key direction entry found idle := by
    refine ⟨_, congrArg (Option.map _) found, instanceId_refreshUntrackedActivity entry now, ?_⟩
    rw [refreshUntrackedActivity_idle idle]
    exact Nat.le_refl now
  getMut now key update entry found idle keeps := by
    refine ⟨_, congrArg (Option.map _) found, ?_, ?_⟩
    · rw [update.keepsInstance, instanceId_refreshUntrackedActivity]
    · rw [keeps, refreshUntrackedActivity_idle idle]
      exact Nat.le_refl now

end Exact

/-- The entry of a client that is read once, long after its insertion. -/
def resolverActivity : List (MapOp Ipv4Address) :=
  [.insertIfAbsentWith (resolverConnection 1) .unchanged, .read 70000 resolverKey,
    .cleanEndedConnections 90000]

end WindowsKext
