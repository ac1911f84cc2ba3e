import Mathlib.Data.List.Forall2
import Mathlib.Data.List.Nodup
import Mathlib.Logic.Relation
import WindowsKext.ConnectionMapRuns

/-! The lifecycle of connection generations over whole runs: one live entry for each tuple,
frozen history, and at most one end report for each instance. -/

namespace WindowsKext

open FirstMatch KeyedGroups

variable {A : Type} [AddressFamily A]

omit [AddressFamily A] in
theorem Connection.hasEnded_endAt (connection : Connection A) {now : Nat} (clock : 1 ≤ now) :
    (connection.endAt now).hasEnded = true :=
  decide_eq_true clock

structure Evolves (before after : Connection A) : Prop where
  tuple : after.getKey = before.getKey
  instanceId : after.instanceId = before.instanceId
  frozen : before.hasEnded = true → after = before

theorem Evolves.refl (connection : Connection A) : Evolves connection connection :=
  ⟨rfl, rfl, fun _ => rfl⟩

theorem Evolves.of_live {before after : Connection A} (tuple : after.getKey = before.getKey)
    (instanceId : after.instanceId = before.instanceId) (live : before.hasEnded = false) :
    Evolves before after :=
  ⟨tuple, instanceId, fun ended => by rw [live] at ended; cases ended⟩

theorem evolves_refl (entries : List (Connection A)) : List.Forall₂ Evolves entries entries :=
  List.forall₂_same.mpr fun connection _ => Evolves.refl connection

theorem evolves_map {update : Connection A → Connection A} (entries : List (Connection A))
    (evolves : ∀ connection, Evolves connection (update connection)) :
    List.Forall₂ Evolves entries (entries.map update) := by
  rw [List.forall₂_map_right_iff]
  exact List.forall₂_same.mpr fun connection _ => evolves connection

theorem evolves_modifyFirst {test : Connection A → Bool} {update : Connection A → Connection A}
    (entries : List (Connection A))
    (evolves : ∀ connection, test connection = true → Evolves connection (update connection)) :
    List.Forall₂ Evolves entries (modifyFirst test update entries) := by
  induction entries with
  | nil => exact List.Forall₂.nil
  | cons connection rest ih =>
      rw [modifyFirst]
      split
      · rename_i accepted
        exact List.Forall₂.cons (evolves connection accepted) (evolves_refl rest)
      · exact List.Forall₂.cons (Evolves.refl connection) ih

theorem evolves_instanceIds {before after : List (Connection A)}
    (evolves : List.Forall₂ Evolves before after) :
    after.map Connection.instanceId = before.map Connection.instanceId := by
  induction evolves with
  | nil => rfl
  | cons step _ ih => rw [List.map_cons, List.map_cons, step.instanceId, ih]

theorem evolves_source {before after : List (Connection A)}
    (evolves : List.Forall₂ Evolves before after) {connection : Connection A}
    (member : connection ∈ after) : ∃ source ∈ before, Evolves source connection := by
  induction evolves with
  | nil => cases member
  | cons step _ ih =>
      rcases List.mem_cons.mp member with rfl | inRest
      · exact ⟨_, List.mem_cons_self, step⟩
      · obtain ⟨source, inSource, sourceStep⟩ := ih inRest
        exact ⟨source, List.mem_cons_of_mem _ inSource, sourceStep⟩

def NotBothLive (left right : Connection A) : Prop :=
  left.getKey = right.getKey → left.hasEnded = true ∨ right.hasEnded = true

theorem evolves_notBothLive {before after : List (Connection A)}
    (evolves : List.Forall₂ Evolves before after) (unique : before.Pairwise NotBothLive) :
    after.Pairwise NotBothLive := by
  induction evolves with
  | nil => exact List.Pairwise.nil
  | cons step rest ih =>
      rw [List.pairwise_cons] at unique ⊢
      refine ⟨?_, ih unique.2⟩
      intro other member same
      obtain ⟨source, inSource, sourceStep⟩ := evolves_source rest member
      rw [step.tuple, sourceStep.tuple] at same
      rcases unique.1 source inSource same with ended | ended
      · rw [step.frozen ended]
        exact .inl ended
      · rw [sourceStep.frozen ended]
        exact .inr ended

/-- Everything one operation can do to a run: drop entries, change live entries in place, append
one entry whose tuple is not live, and report entries that it ended. -/
structure Advances (before after : MapRun (List (Connection A))) : Prop where
  entries : ∃ kept evolved fresh,
    kept.Sublist before.state ∧ List.Forall₂ Evolves kept evolved ∧
      after.state = evolved ++ fresh ∧
      after.inserted = before.inserted ++ fresh.map Connection.instanceId ∧
      (fresh = [] ∨ ∃ connection, fresh = [connection] ∧ ∀ entry ∈ before.state,
        entry.getKey = connection.getKey → entry.hasEnded = true)
  reports : (before.state.map Connection.instanceId).Nodup → ∃ returned,
    after.ended = before.ended ++ returned ∧ returned.Nodup ∧
      ∀ instanceId ∈ returned,
        (∃ entry ∈ before.state, entry.instanceId = instanceId ∧ entry.hasEnded = false) ∧
          ∀ entry ∈ after.state, entry.instanceId = instanceId → entry.hasEnded = true

namespace Advances

variable {run : MapRun (List (Connection A))}

theorem of_evolves {entries : List (Connection A)}
    (evolves : List.Forall₂ Evolves run.state entries) : Advances run (run.store entries) where
  entries := ⟨run.state, entries, [], List.Sublist.refl _, evolves, by simp [MapRun.store],
    by simp [MapRun.store], .inl rfl⟩
  reports _ := ⟨[], by simp [MapRun.store], by simp, by simp⟩

theorem of_filter (test : Connection A → Bool) :
    Advances run (run.store (run.state.filter test)) where
  entries := ⟨run.state.filter test, run.state.filter test, [], List.filter_sublist,
    evolves_refl _, by simp [MapRun.store], by simp [MapRun.store], .inl rfl⟩
  reports _ := ⟨[], by simp [MapRun.store], by simp, by simp⟩

theorem of_insert {connection : Connection A}
    (absent : ∀ entry ∈ run.state, entry.getKey = connection.getKey → entry.hasEnded = true) :
    Advances run { run with
      state := run.state ++ [connection]
      inserted := run.inserted ++ [connection.instanceId] } where
  entries := ⟨run.state, run.state, [connection], List.Sublist.refl _, evolves_refl _, rfl, rfl,
    .inr ⟨connection, rfl, absent⟩⟩
  reports _ := ⟨[], by simp, by simp, by simp⟩

theorem of_endWhere {now : Nat} (clock : 1 ≤ now) {test : Connection A → Bool}
    (live : ∀ connection, test connection = true → connection.hasEnded = false) :
    Advances run (run.finish (FlatReference.endWhere run.state now test).1
      (FlatReference.endWhere run.state now test).2) where
  entries := by
    refine ⟨run.state, _, [], List.Sublist.refl _, evolves_map run.state ?_,
      (List.append_nil _).symm, by simp [MapRun.finish], .inl rfl⟩
    intro connection
    split
    · rename_i accepted
      exact Evolves.of_live rfl rfl (live connection accepted)
    · exact Evolves.refl connection
  reports := by
    intro unique
    refine ⟨(run.state.filter test).map Connection.instanceId, ?_, ?_, ?_⟩
    · simp only [MapRun.finish, FlatReference.endWhere, List.map_map]
      rfl
    · exact unique.sublist (List.filter_sublist.map _)
    · intro instanceId member
      obtain ⟨ended, inEnded, rfl⟩ := List.mem_map.mp member
      obtain ⟨inState, accepted⟩ := List.mem_filter.mp inEnded
      refine ⟨⟨ended, inState, rfl, live ended accepted⟩, ?_⟩
      intro entry inAfter same
      obtain ⟨source, inSource, rfl⟩ := List.mem_map.mp inAfter
      have sameId : source.instanceId = ended.instanceId := by
        rw [← same]
        split <;> rfl
      have sameEntry : source = ended :=
        List.inj_on_of_nodup_map unique inSource inState sameId
      subst sameEntry
      simp only [accepted, ↓reduceIte]
      exact Connection.hasEnded_endAt source clock

variable [DecidableEq A]

theorem of_endInstance {now : Nat} (clock : 1 ≤ now) (key : Key) (instanceId : Nat) :
    Advances run (run.finish (FlatReference.endInstance run.state now key instanceId).1.toList
      (FlatReference.endInstance run.state now key instanceId).2) := by
  rw [FlatReference.endInstance]
  by_cases zero : instanceId = 0
  · have result := of_evolves (evolves_refl run.state)
    simpa [zero, MapRun.finish, MapRun.store] using result
  rw [if_neg zero]
  have live : ∀ connection : Connection A,
      ConnectionMap.isLiveInstance key instanceId connection = true →
        connection.instanceId = instanceId ∧ connection.hasEnded = false := by
    intro connection accepted
    simp only [ConnectionMap.isLiveInstance, Bool.and_eq_true, beq_iff_eq,
      Bool.not_eq_true'] at accepted
    exact ⟨accepted.1.2, accepted.2⟩
  refine ⟨⟨run.state, _, [], List.Sublist.refl _, evolves_modifyFirst run.state ?_,
    (List.append_nil _).symm, by simp [MapRun.finish], .inl rfl⟩, ?_⟩
  · intro connection accepted
    exact Evolves.of_live rfl rfl (live connection accepted).2
  · intro unique
    cases found : run.state.find? (ConnectionMap.isLiveInstance key instanceId) with
    | none => exact ⟨[], by simp [MapRun.finish], by simp, by simp⟩
    | some ended =>
        have inState := List.mem_of_find?_eq_some found
        have accepted := List.find?_some found
        refine ⟨[instanceId], ?_, by simp, ?_⟩
        · simp only [MapRun.finish, Option.map_some, Option.toList_some, List.map_cons,
            List.map_nil, List.append_cancel_left_eq, List.cons.injEq, and_true]
          exact (live ended accepted).1
        · intro reported member
          obtain rfl := List.mem_singleton.mp member
          refine ⟨⟨ended, inState, live ended accepted⟩, ?_⟩
          -- Ids are unique, so only the updated entry carries the reported one.
          intro entry inAfter same
          obtain ⟨before, after, split, updated⟩ := modifyFirst_of_some found
            fun connection => connection.endAt now
          have sameId : entry.instanceId = ended.instanceId :=
            same.trans (live ended accepted).1.symm
          simp only [MapRun.finish, updated, List.mem_append, List.mem_cons] at inAfter
          simp only [split, List.map_append, List.map_cons, List.nodup_append,
            List.nodup_cons] at unique
          rcases inAfter with earlier | rfl | later
          · exact absurd sameId (unique.2.2 _ (List.mem_map_of_mem earlier) _ List.mem_cons_self)
          · exact Connection.hasEnded_endAt ended clock
          · exact absurd (sameId ▸ List.mem_map_of_mem later) unique.2.1.1

end Advances

structure Lifecycle (run : MapRun (List (Connection A))) : Prop where
  oneLive : run.state.Pairwise NotBothLive
  stored : (run.state.map Connection.instanceId).Sublist run.inserted
  reportedOnce : run.ended.Nodup
  reportedEnded : ∀ instanceId ∈ run.ended, instanceId ∈ run.inserted ∧
    ∀ entry ∈ run.state, entry.instanceId = instanceId → entry.hasEnded = true

namespace Advances

variable {before after : MapRun (List (Connection A))}

theorem inserted_extends (advances : Advances before after) :
    before.inserted <+: after.inserted := by
  obtain ⟨_, _, fresh, _, _, _, inserted, _⟩ := advances.entries
  exact inserted ▸ List.prefix_append _ _

/-- An entry after the operation comes from an entry before it, or has a new instance id. -/
theorem source (advances : Advances before after) (fresh : after.inserted.Nodup)
    {entry : Connection A} (member : entry ∈ after.state) :
    (∃ earlier ∈ before.state, Evolves earlier entry) ∨ entry.instanceId ∉ before.inserted := by
  obtain ⟨kept, evolved, added, sublist, evolves, state, inserted, _⟩ := advances.entries
  rw [state, List.mem_append] at member
  rcases member with old | new
  · obtain ⟨earlier, inKept, step⟩ := evolves_source evolves old
    exact .inl ⟨earlier, sublist.mem inKept, step⟩
  · refine .inr ?_
    intro known
    rw [inserted] at fresh
    exact (List.nodup_append.mp fresh).2.2 _ known _ (List.mem_map_of_mem new) rfl

theorem lifecycle (advances : Advances before after) (fresh : after.inserted.Nodup)
    (invariant : Lifecycle before) : Lifecycle after := by
  have beforeFresh : before.inserted.Nodup := fresh.sublist advances.inserted_extends.sublist
  have unique : (before.state.map Connection.instanceId).Nodup :=
    beforeFresh.sublist invariant.stored
  obtain ⟨returned, ended, returnedOnce, returnedEnded⟩ := advances.reports unique
  obtain ⟨kept, evolved, added, sublist, evolves, state, inserted, absent⟩ := advances.entries
  refine ⟨?_, ?_, ?_, ?_⟩
  · have oneLive := evolves_notBothLive evolves (invariant.oneLive.sublist sublist)
    rw [state]
    rcases absent with rfl | ⟨connection, rfl, notLive⟩
    · simpa using oneLive
    · rw [List.pairwise_append]
      refine ⟨oneLive, List.pairwise_singleton _ _, ?_⟩
      intro entry inEvolved other inAdded same
      obtain rfl := List.mem_singleton.mp inAdded
      obtain ⟨earlier, inKept, step⟩ := evolves_source evolves inEvolved
      have earlierEnded := notLive earlier (sublist.mem inKept) (step.tuple.symm.trans same)
      rw [step.frozen earlierEnded]
      exact .inl earlierEnded
  · rw [state, inserted, List.map_append, evolves_instanceIds evolves]
    exact ((sublist.map _).trans invariant.stored).append (List.Sublist.refl _)
  · rw [ended, List.nodup_append]
    refine ⟨invariant.reportedOnce, returnedOnce, ?_⟩
    rintro instanceId reported _ again rfl
    obtain ⟨⟨entry, inState, sameId, live⟩, _⟩ := returnedEnded instanceId again
    have closed := (invariant.reportedEnded instanceId reported).2 entry inState sameId
    rw [live] at closed
    cases closed
  · intro instanceId reported
    rw [ended, List.mem_append] at reported
    rcases reported with old | new
    · obtain ⟨known, closed⟩ := invariant.reportedEnded instanceId old
      refine ⟨advances.inserted_extends.subset known, ?_⟩
      intro entry inAfter sameId
      rcases advances.source fresh inAfter with ⟨earlier, inState, step⟩ | unknown
      · have earlierEnded := closed earlier inState (step.instanceId.symm.trans sameId)
        rw [step.frozen earlierEnded]
        exact earlierEnded
      · exact absurd (sameId ▸ known) unknown
    · obtain ⟨⟨entry, inState, sameId, _⟩, closed⟩ := returnedEnded instanceId new
      refine ⟨advances.inserted_extends.subset (invariant.stored.mem ?_), closed⟩
      exact sameId ▸ List.mem_map_of_mem inState

end Advances

/-- The stored entry with the instance id of an ended generation is that generation. -/
def Frozen (ended : Connection A) (run : MapRun (List (Connection A))) : Prop :=
  ended.instanceId ∈ run.inserted ∧
    ∀ entry ∈ run.state, entry.instanceId = ended.instanceId → entry = ended

theorem Advances.frozen {before after : MapRun (List (Connection A))}
    (advances : Advances before after) (fresh : after.inserted.Nodup) {ended : Connection A}
    (closed : ended.hasEnded = true) (frozen : Frozen ended before) : Frozen ended after := by
  refine ⟨advances.inserted_extends.subset frozen.1, ?_⟩
  intro entry inAfter sameId
  rcases advances.source fresh inAfter with ⟨earlier, inState, step⟩ | unknown
  · have same := frozen.2 earlier inState (step.instanceId.symm.trans sameId)
    subst same
    exact step.frozen closed
  · exact absurd (sameId ▸ frozen.1) unknown

def MapOp.ClockPositive : MapOp A → Prop
  | .getMut now _ _ | .getMutInstance now _ _ _ | .read now _ | .readWithEndedFallback now _
  | .readForPacket now _ _ | .endInstance now _ _ | .endInstances now _
  | .endAllOnEndpoint now _ _ _ | .endUntrackedOnEndpoint now _ _ _
  | .endInactiveUntrackedConnections now | .cleanEndedConnections now => 1 ≤ now
  | .insertIfAbsentWith _ _ | .markNativeLifecycleInstance _ _ | .clear => True

section Runs

open Relation

variable {run : MapRun (List (Connection A))}

theorem evolves_modifyCandidate {test : Connection A → Bool}
    {update : Connection A → Connection A} (flat : List (Connection A))
    (selected : Option (Connection A))
    (evolves : ∀ connection, test connection = true → Evolves connection (update connection)) :
    List.Forall₂ Evolves flat (FlatReference.modifyCandidate flat selected test update) := by
  cases selected with
  | none => exact evolves_refl flat
  | some selected =>
      refine evolves_modifyFirst flat ?_
      intro connection accepted
      exact evolves connection (Bool.and_eq_true _ _ ▸ accepted).2

theorem evolves_refresh (now : Nat) (connection : Connection A) :
    Evolves connection (refreshUntrackedActivity now connection) :=
  ⟨getKey_refreshUntrackedActivity connection now, instanceId_refreshUntrackedActivity connection now,
    refreshUntrackedActivity_of_ended connection now⟩

theorem evolves_update (now : Nat) (update : EntryUpdate A) (connection : Connection A)
    (live : connection.hasEnded = false) :
    Evolves connection (update.apply (refreshUntrackedActivity now connection)) :=
  Evolves.of_live (by rw [update.keepsTuple, getKey_refreshUntrackedActivity])
    (by rw [update.keepsInstance, instanceId_refreshUntrackedActivity]) live

theorem matchesEndpoint_live {connection : Connection A} {localAddress : Option IpAddress}
    {processId : Option Nat} {untrackedOnly : Bool}
    (accepted : matchesEndpoint connection localAddress processId untrackedOnly = true) :
    connection.hasEnded = false := by
  simp only [matchesEndpoint, Bool.and_eq_true, Bool.not_eq_true'] at accepted
  exact accepted.1.1.1

variable [DecidableEq A]

theorem evolves_refreshRead (flat : List (Connection A)) (now : Nat) (key : Key) :
    List.Forall₂ Evolves flat (FlatReference.refreshRead flat now key) := by
  unfold FlatReference.refreshRead
  split
  · exact evolves_modifyFirst flat fun connection _ => evolves_refresh now connection
  · exact evolves_modifyCandidate flat _ fun connection _ => evolves_refresh now connection

theorem advances_endInstances {now : Nat} (clock : 1 ≤ now) (instances : List (Key × Nat)) :
    ReflTransGen Advances run (run.finish (FlatReference.endInstances run.state now instances).1
      (FlatReference.endInstances run.state now instances).2) := by
  induction instances generalizing run with
  | nil =>
      have same : run.finish (FlatReference.endInstances run.state now []).1
          (FlatReference.endInstances run.state now []).2 = run := by
        simp [FlatReference.endInstances, MapRun.finish]
      rw [same]
  | cons first rest ih =>
      obtain ⟨key, instanceId⟩ := first
      refine ReflTransGen.head (Advances.of_endInstance clock key instanceId) ?_
      have merged (ended others flat : List (Connection A)) :
          (run.finish ended flat).finish others = run.finish (ended ++ others) := by
        funext state
        simp [MapRun.finish]
      rw [FlatReference.endInstances, ← merged _ _ (FlatReference.endInstance run.state now key
        instanceId).2]
      exact ih

theorem MapOp.advances (op : MapOp A) (clock : op.ClockPositive) :
    ReflTransGen Advances run (op.flatStep run) := by
  cases op with
  | insertIfAbsentWith connection update =>
      refine ReflTransGen.single ?_
      simp only [flatStep, FlatReference.insertIfAbsentWith]
      cases found : run.state.find? (isLiveExact connection.getKey) with
      | none =>
          refine Advances.of_insert ?_
          intro entry member same
          have rejected := List.find?_eq_none.mp found entry member
          simpa [isLiveExact, (entry.remoteEquals_iff _).mpr same] using rejected
      | some existing =>
          refine Advances.of_evolves (evolves_modifyFirst run.state ?_)
          intro entry accepted
          simp only [isLiveExact, Bool.and_eq_true, Bool.not_eq_true'] at accepted
          exact Evolves.of_live (update.keepsTuple entry) (update.keepsInstance entry) accepted.2
  | getMut now key update =>
      refine ReflTransGen.single (Advances.of_evolves (evolves_modifyFirst run.state ?_))
      intro entry accepted
      simp only [isLiveExact, Bool.and_eq_true, Bool.not_eq_true'] at accepted
      exact evolves_update now update entry accepted.2
  | getMutInstance now key instanceId update =>
      refine ReflTransGen.single (Advances.of_evolves ?_)
      unfold FlatReference.updateInstance
      split
      · exact evolves_refl run.state
      · split
        · refine evolves_modifyFirst run.state ?_
          intro entry accepted
          simp only [ConnectionMap.isLiveInstance, Bool.and_eq_true, Bool.not_eq_true'] at accepted
          exact evolves_update now update entry accepted.2
        · refine evolves_modifyCandidate run.state _ ?_
          intro entry accepted
          simp only [ConnectionMap.isLiveRedirectInstance, Bool.and_eq_true,
            Bool.not_eq_true'] at accepted
          exact evolves_update now update entry accepted.2
  | read now key | readWithEndedFallback now key | readForPacket now key _ =>
      exact ReflTransGen.single (Advances.of_evolves (evolves_refreshRead run.state now key))
  | markNativeLifecycleInstance key instanceId =>
      refine ReflTransGen.single (Advances.of_evolves ?_)
      unfold FlatReference.markNativeLifecycleInstance
      split
      · exact evolves_refl run.state
      · refine evolves_modifyFirst run.state ?_
        intro entry accepted
        simp only [ConnectionMap.isLiveInstance, Bool.and_eq_true, Bool.not_eq_true'] at accepted
        exact Evolves.of_live rfl rfl accepted.2
  | endInstance now key instanceId =>
      exact ReflTransGen.single (Advances.of_endInstance clock key instanceId)
  | endInstances now instances => exact advances_endInstances clock instances
  | endAllOnEndpoint now group localAddress processId
  | endUntrackedOnEndpoint now group localAddress processId =>
      refine ReflTransGen.single (Advances.of_endWhere clock ?_)
      intro connection accepted
      exact matchesEndpoint_live (Bool.and_eq_true _ _ ▸ accepted).2
  | endInactiveUntrackedConnections now =>
      refine ReflTransGen.single (Advances.of_endWhere clock ?_)
      intro connection accepted
      simp only [shouldExpireUntracked, Bool.and_eq_true, Bool.not_eq_true'] at accepted
      exact accepted.1.1.1
  | cleanEndedConnections now => exact ReflTransGen.single (Advances.of_filter _)
  | clear =>
      have result : Advances run (run.store (run.state.filter fun _ => false)) :=
        Advances.of_filter _
      simp only [List.filter_false] at result
      exact ReflTransGen.single result

theorem advances_foldl (ops : List (MapOp A)) (clock : ∀ op ∈ ops, op.ClockPositive) :
    ReflTransGen Advances run (ops.foldl MapOp.flatStep run) := by
  induction ops generalizing run with
  | nil => exact ReflTransGen.refl
  | cons op rest ih =>
      exact (op.advances (clock op List.mem_cons_self)).trans
        (ih fun other member => clock other (List.mem_cons_of_mem _ member))

variable {before after : MapRun (List (Connection A))}

omit [DecidableEq A] in
theorem inserted_extends_of_star (advances : ReflTransGen Advances before after) :
    before.inserted <+: after.inserted := by
  induction advances with
  | refl => exact List.prefix_rfl
  | tail _ last ih => exact ih.trans last.inserted_extends

omit [DecidableEq A] in
theorem lifecycle_of_star (advances : ReflTransGen Advances before after)
    (fresh : after.inserted.Nodup) (invariant : Lifecycle before) : Lifecycle after := by
  induction advances with
  | refl => exact invariant
  | tail _ last ih =>
      exact last.lifecycle fresh (ih (fresh.sublist last.inserted_extends.sublist))

omit [DecidableEq A] in
theorem frozen_of_star (advances : ReflTransGen Advances before after)
    (fresh : after.inserted.Nodup) {ended : Connection A} (closed : ended.hasEnded = true)
    (frozen : Frozen ended before) : Frozen ended after := by
  induction advances with
  | refl => exact frozen
  | tail _ last ih =>
      exact last.frozen fresh closed (ih (fresh.sublist last.inserted_extends.sublist))

theorem lifecycle_runFlat (ops : List (MapOp A)) (clock : ∀ op ∈ ops, op.ClockPositive)
    (fresh : (runFlat ops).inserted.Nodup) : Lifecycle (runFlat ops) :=
  lifecycle_of_star (advances_foldl ops clock) fresh
    ⟨List.Pairwise.nil, List.Sublist.refl _, List.nodup_nil, by simp⟩

theorem runFlat_append (earlier later : List (MapOp A)) :
    runFlat (earlier ++ later) = later.foldl MapOp.flatStep (runFlat earlier) :=
  List.foldl_append

theorem runFlat_frozen (earlier later : List (MapOp A))
    (clock : ∀ op ∈ earlier ++ later, op.ClockPositive)
    (fresh : (runFlat (earlier ++ later)).inserted.Nodup) {ended : Connection A}
    (member : ended ∈ (runFlat earlier).state) (closed : ended.hasEnded = true) :
    Frozen ended (runFlat (earlier ++ later)) := by
  have advances : ReflTransGen Advances (runFlat earlier) (runFlat (earlier ++ later)) := by
    rw [runFlat_append]
    exact advances_foldl later fun op inLater => clock op (List.mem_append_right _ inLater)
  have earlierFresh := fresh.sublist (inserted_extends_of_star advances).sublist
  have invariant := lifecycle_runFlat earlier
    (fun op inEarlier => clock op (List.mem_append_left _ inEarlier)) earlierFresh
  refine frozen_of_star advances fresh closed
    ⟨invariant.stored.mem (List.mem_map_of_mem member), ?_⟩
  intro entry inState sameId
  exact List.inj_on_of_nodup_map (earlierFresh.sublist invariant.stored) inState member sameId

theorem Lifecycle.live_le_one (invariant : Lifecycle run) (key : Key) :
    (run.state.filter (isLiveExact key)).length ≤ 1 := by
  have pairwise := invariant.oneLive.sublist (List.filter_sublist (p := isLiveExact key))
  match list : run.state.filter (isLiveExact key) with
  | [] => simp
  | [_] => simp
  | first :: second :: rest =>
      have live (entry : Connection A) (member : entry ∈ run.state.filter (isLiveExact key)) :
          entry.getKey = key ∧ entry.hasEnded = false := by
        have accepted := (List.mem_filter.mp member).2
        simp only [isLiveExact, Bool.and_eq_true, Bool.not_eq_true'] at accepted
        exact ⟨(entry.remoteEquals_iff key).mp accepted.1, accepted.2⟩
      have firstLive := live first (by simp [list])
      have secondLive := live second (by simp [list])
      rw [list, List.pairwise_cons] at pairwise
      have clash := pairwise.1 second List.mem_cons_self (firstLive.1.trans secondLive.1.symm)
      simp [firstLive.2, secondLive.2] at clash

end Runs

end WindowsKext
