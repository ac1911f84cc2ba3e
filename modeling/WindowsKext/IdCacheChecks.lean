import Mathlib.Data.List.Basic
import Mathlib.Tactic.ByContra
import WindowsKext.IdCacheCore

/-! The queue and its indexes agree. Each operation is described by what it does to the queued
entries, and the indexes follow them. -/

namespace WindowsKext

open ByteString FirstMatch

namespace InstanceIndex

def idsOf (index : InstanceIndex) (instanceId : Nat) : List Nat :=
  (index[instanceId]?.map PendingIds.toList).getD []

/-- The index has no entry for the invalid instance, and no empty entry. -/
structure Occupied (index : InstanceIndex) : Prop where
  nonzero : index[(0 : Nat)]? = none
  filled : ∀ (instanceId : Nat) ids, index[instanceId]? = some ids → ids.toList ≠ []

theorem occupied_empty : Occupied (∅ : InstanceIndex) :=
  ⟨by simp, by simp⟩

theorem idsOf_empty (instanceId : Nat) : idsOf (∅ : InstanceIndex) instanceId = [] := by
  simp [idsOf]

end InstanceIndex

open InstanceIndex

section Index

variable {index : InstanceIndex}

theorem toList_push (ids : PendingIds) (id : Nat) : (ids.push id).toList = ids.toList ++ [id] := by
  cases ids <;> rfl

theorem idsOf_addPendingRequest (connectionInstanceId : Option Nat) (requestId instanceId : Nat) :
    idsOf (addPendingRequest index connectionInstanceId requestId) instanceId =
      idsOf index instanceId ++
        (if connectionInstanceId = some instanceId ∧ instanceId ≠ 0 then [requestId] else []) := by
  unfold addPendingRequest
  rcases connectionInstanceId with _ | bound
  · simp
  · by_cases zero : bound = 0
    · subst zero
      simp only [Option.filter_some, bne_self_eq_false, Bool.false_eq_true, ↓reduceIte,
        Option.some.injEq]
      rw [if_neg (by omega), List.append_nil]
    · have nonzero : (bound != 0) = true := by simpa using zero
      simp only [Option.filter_some, nonzero, ↓reduceIte, Option.some.injEq]
      by_cases same : bound = instanceId
      · subst same
        rw [if_pos ⟨rfl, zero⟩]
        unfold idsOf
        cases stored : index[bound]? with
        | none => simp [PendingIds.toList]
        | some ids => simp [toList_push]
      · rw [if_neg fun both => same both.1, List.append_nil]
        unfold idsOf
        cases stored : index[bound]? with
        | none => simp [Std.TreeMap.getElem?_insert, same]
        | some ids => simp [Std.TreeMap.getElem?_insert, same]

theorem occupied_addPendingRequest (occupied : Occupied index)
    (connectionInstanceId : Option Nat) (requestId : Nat) :
    Occupied (addPendingRequest index connectionInstanceId requestId) := by
  unfold addPendingRequest
  rcases connectionInstanceId with _ | bound
  · exact occupied
  · by_cases zero : bound = 0
    · subst zero
      exact occupied
    · have nonzero : (bound != 0) = true := by simpa using zero
      simp only [Option.filter_some, nonzero, ↓reduceIte]
      cases stored : index[bound]? with
      | none =>
          refine ⟨?_, ?_⟩
          · simp [Std.TreeMap.getElem?_insert, zero, occupied.nonzero]
          · intro instanceId ids found
            rw [Std.TreeMap.getElem?_insert] at found
            split at found
            · cases found
              simp [PendingIds.toList]
            · exact occupied.filled instanceId ids found
      | some previous =>
          refine ⟨?_, ?_⟩
          · simp [Std.TreeMap.getElem?_insert, zero, occupied.nonzero]
          · intro instanceId ids found
            rw [Std.TreeMap.getElem?_insert] at found
            split at found
            · cases found
              simp [toList_push]
            · exact occupied.filled instanceId ids found

theorem remove_cases (ids : PendingIds) (id : Nat) (filled : ids.toList ≠ []) :
    ((ids.remove id).1.getD false = true ∧ ids.toList.erase id = []) ∨
      ((ids.remove id).1.getD false = false ∧ (ids.remove id).2.toList = ids.toList.erase id ∧
        ids.toList.erase id ≠ []) := by
  cases ids with
  | one existing =>
      by_cases same : existing = id
      · left
        simp [PendingIds.remove, PendingIds.toList, same]
      · right
        simp [PendingIds.remove, PendingIds.toList, same]
  | multiple ids =>
      unfold PendingIds.remove PendingIds.toList at *
      dsimp only at filled ⊢
      by_cases present : ids.contains id = true
      · rw [if_pos present]
        cases empty : (ids.erase id).isEmpty with
        | true => exact .inl ⟨rfl, by simpa using empty⟩
        | false => exact .inr ⟨rfl, rfl, by simpa using empty⟩
      · rw [if_neg present, List.erase_of_not_mem (by simpa using present)]
        exact .inr ⟨rfl, rfl, filled⟩

theorem idsOf_removePendingRequest (occupied : Occupied index)
    (connectionInstanceId : Option Nat) (requestId instanceId : Nat) :
    idsOf (removePendingRequest index connectionInstanceId requestId) instanceId =
      if connectionInstanceId = some instanceId then (idsOf index instanceId).erase requestId
      else idsOf index instanceId := by
  unfold removePendingRequest
  rcases connectionInstanceId with _ | bound
  · simp
  · by_cases zero : bound = 0
    · subst zero
      simp only [Option.filter_some, bne_self_eq_false, Bool.false_eq_true, ↓reduceIte,
        Option.some.injEq]
      split
      · rename_i same
        subst same
        simp [idsOf, occupied.nonzero]
      · rfl
    · have nonzero : (bound != 0) = true := by simpa using zero
      simp only [Option.filter_some, nonzero, ↓reduceIte, Option.some.injEq]
      cases stored : index[bound]? with
      | none =>
          dsimp only
          split
          · rename_i same
            subst same
            simp [idsOf, stored]
          · rfl
      | some ids =>
          dsimp only
          rcases remove_cases ids requestId (occupied.filled bound ids stored) with
            ⟨emptied, erased⟩ | ⟨kept, left, _⟩
          · rw [if_pos emptied]
            split
            · rename_i same
              subst same
              simp [idsOf, stored, erased]
            · rename_i other
              simp [idsOf, Std.TreeMap.getElem?_erase, other]
          · rw [if_neg (by simp [kept])]
            split
            · rename_i same
              subst same
              simp [idsOf, stored, left]
            · rename_i other
              simp [idsOf, Std.TreeMap.getElem?_insert, other]

theorem occupied_erase (occupied : Occupied index) (instanceId : Nat) :
    Occupied (index.erase instanceId) := by
  refine ⟨?_, ?_⟩
  · rw [Std.TreeMap.getElem?_erase, occupied.nonzero, ite_self]
  · intro other ids found
    rw [Std.TreeMap.getElem?_erase] at found
    split at found
    · cases found
    · exact occupied.filled other ids found

theorem occupied_removePendingRequest (occupied : Occupied index)
    (connectionInstanceId : Option Nat) (requestId : Nat) :
    Occupied (removePendingRequest index connectionInstanceId requestId) := by
  unfold removePendingRequest
  split
  · exact occupied
  · rename_i bound filtered
    have nonzero : bound ≠ 0 := by
      have test := (Option.filter_eq_some_iff.mp filtered).2
      simpa using test
    split
    · exact occupied
    · rename_i ids stored
      dsimp only
      rcases remove_cases ids requestId (occupied.filled bound ids stored) with
        ⟨emptied, _⟩ | ⟨kept, left, remaining⟩
      · rw [if_pos emptied]
        exact occupied_erase occupied bound
      · rw [if_neg (by simp [kept])]
        refine ⟨?_, ?_⟩
        · rw [Std.TreeMap.getElem?_insert, occupied.nonzero]
          simp [nonzero]
        · intro other found stored
          rw [Std.TreeMap.getElem?_insert] at stored
          split at stored
          · cases stored
            rw [left]
            exact remaining
          · exact occupied.filled other found stored

end Index

namespace Entry

def boundTo (instanceId : Nat) (entry : Entry) : Bool :=
  entry.value.connectionInstanceId == some instanceId

/-- The packet remains deliverable after its connection ended. -/
def survives (entry : Entry) : Bool :=
  entry.value.packet.survivesConnectionEnd entry.value.key

def detach (entry : Entry) : Entry :=
  { entry with value := { entry.value with connectionInstanceId := none } }

def retire (entry : Entry) : Option Entry :=
  if entry.survives then some entry.detach else none

theorem id_of_retire {entry left : Entry} (retired : entry.retire = some left) :
    left.id = entry.id := by
  unfold retire at retired
  split at retired
  · cases retired
    rfl
  · cases retired

end Entry

section Retirement

variable {values : List Entry}

def retireIds (ids : List Nat) (values : List Entry) : List Entry :=
  values.filterMap fun entry => if entry.id ∈ ids then entry.retire else some entry

theorem ids_retireIds_sublist (ids : List Nat) (values : List Entry) :
    ((retireIds ids values).map Entry.id).Sublist (values.map Entry.id) := by
  induction values with
  | nil => exact .slnil
  | cons entry rest ih =>
      unfold retireIds at ih ⊢
      rw [List.filterMap_cons, List.map_cons]
      split
      · exact ih.cons _
      · rename_i left kept
        have same : left.id = entry.id := by
          split at kept
          · exact Entry.id_of_retire kept
          · cases kept
            rfl
        rw [List.map_cons, same]
        exact ih.cons_cons _

theorem mem_retireIds_of_not_mem {ids : List Nat} {entry : Entry} (member : entry ∈ values)
    (other : entry.id ∉ ids) : entry ∈ retireIds ids values :=
  List.mem_filterMap.mpr ⟨entry, member, if_neg other⟩

theorem retireIds_nil (values : List Entry) : retireIds [] values = values := by
  simp [retireIds]

theorem retireIds_retireIds {id : Nat} {ids : List Nat} (fresh : id ∉ ids) (values : List Entry) :
    retireIds ids (retireIds [id] values) = retireIds (id :: ids) values := by
  unfold retireIds
  rw [List.filterMap_filterMap]
  refine List.filterMap_congr ?_
  intro entry _
  by_cases same : entry.id = id
  · rw [if_pos (by simp [same]), if_pos (by simp [same])]
    cases retired : entry.retire with
    | none => rfl
    | some left =>
        have leftId := Entry.id_of_retire retired
        rw [Option.bind_some, if_neg]
        rw [leftId, same]
        exact fresh
  · rw [if_neg (by simpa using same), Option.bind_some]
    simp [same]

theorem retirePendingId_of_mem (distinct : (values.map Entry.id).Nodup) {entry : Entry}
    (member : entry ∈ values) {instanceId : Nat} (bound : entry.boundTo instanceId = true)
    (threadIds : Std.TreeMap Nat Nat) (removed : List Entry) :
    retirePendingId values threadIds removed entry.id instanceId =
      (retireIds [entry.id] values,
        if entry.survives then threadIds else threadIds.erase entry.id,
        if entry.survives then removed else removed ++ [entry]) := by
  have found := find?_of_mem distinct member
  have owner : entry.value.connectionInstanceId = some instanceId := by
    simpa [Entry.boundTo] using bound
  unfold retirePendingId
  rw [found]
  simp only [owner, bne_self_eq_false, Bool.false_eq_true, ↓reduceIte]
  change (if entry.survives = true then _ else _) = _
  cases survives : entry.survives with
  | true =>
      simp only [↓reduceIte, Prod.mk.injEq, and_true]
      rw [modifyFirst_eq_map distinct, retireIds, ← List.filterMap_eq_map]
      refine List.filterMap_congr ?_
      intro other inValues
      by_cases same : other.id = entry.id
      · obtain rfl : other = entry := by
          have first := find?_of_mem distinct inValues
          rw [same, found] at first
          exact (Option.some.inj first).symm
        simp [Entry.retire, survives, Entry.detach]
      · simp [same]
  | false =>
      simp only [Bool.false_eq_true, ↓reduceIte, Prod.mk.injEq, and_true]
      rw [eraseP_eq_filter distinct, retireIds, ← List.filterMap_eq_filter]
      refine List.filterMap_congr ?_
      intro other inValues
      by_cases same : other.id = entry.id
      · obtain rfl : other = entry := by
          have first := find?_of_mem distinct inValues
          rw [same, found] at first
          exact (Option.some.inj first).symm
        simp [Entry.retire, survives]
      · simp [same]

/-- A thread-id table without the entries of removed requests. -/
structure ThreadsWithout (removed : List Entry) (before after : Std.TreeMap Nat Nat) : Prop where
  gone : ∀ entry ∈ removed, after[entry.id]? = none
  kept : ∀ id : Nat, (∀ entry ∈ removed, entry.id ≠ id) → after[id]? = before[id]?

theorem threadsWithout_nothing (threadIds : Std.TreeMap Nat Nat) :
    ThreadsWithout [] threadIds threadIds := by
  refine ⟨?_, fun _ _ => rfl⟩
  intro entry member
  cases member

theorem ThreadsWithout.cons {entry : Entry} {removed : List Entry}
    {before after : Std.TreeMap Nat Nat}
    (rest : ThreadsWithout removed (before.erase entry.id) after) :
    ThreadsWithout (entry :: removed) before after := by
  refine ⟨?_, ?_⟩
  · intro other member
    rcases List.mem_cons.mp member with rfl | later
    · by_cases again : ∃ twin ∈ removed, twin.id = other.id
      · obtain ⟨twin, inRemoved, same⟩ := again
        rw [← same]
        exact rest.gone twin inRemoved
      · rw [rest.kept other.id fun twin inRemoved same => again ⟨twin, inRemoved, same⟩]
        simp
    · exact rest.gone other later
  · intro id absent
    have other : ¬ entry.id = id := absent entry List.mem_cons_self
    rw [rest.kept id fun twin inRemoved => absent twin (List.mem_cons_of_mem _ inRemoved)]
    simp [Std.TreeMap.getElem?_erase, other]

theorem retirePendingIds_of_mem (instanceOf : Entry → Nat) (retired : List Entry)
    (distinct : (values.map Entry.id).Nodup) (separate : (retired.map Entry.id).Nodup)
    (members : ∀ entry ∈ retired, entry ∈ values ∧ entry.boundTo (instanceOf entry) = true)
    (threadIds : Std.TreeMap Nat Nat) (removed : List Entry) :
    (retirePendingIds values threadIds removed
        (retired.map fun entry => (entry.id, instanceOf entry))).1 =
        retireIds (retired.map Entry.id) values ∧
      (retirePendingIds values threadIds removed
        (retired.map fun entry => (entry.id, instanceOf entry))).2.2 =
        removed ++ retired.filter (fun entry => !entry.survives) ∧
      ThreadsWithout (retired.filter fun entry => !entry.survives) threadIds
        (retirePendingIds values threadIds removed
          (retired.map fun entry => (entry.id, instanceOf entry))).2.1 := by
  induction retired generalizing values threadIds removed with
  | nil =>
      exact ⟨(retireIds_nil values).symm, (List.append_nil removed).symm,
        threadsWithout_nothing threadIds⟩
  | cons entry rest ih =>
      rw [List.map_cons, List.nodup_cons] at separate
      obtain ⟨member, bound⟩ := members entry List.mem_cons_self
      have step := retirePendingId_of_mem distinct member bound threadIds removed
      have stays (other : Entry) (inRest : other ∈ rest) :
          other ∈ retireIds [entry.id] values ∧ other.boundTo (instanceOf other) = true := by
        obtain ⟨inValues, otherBound⟩ := members other (List.mem_cons_of_mem _ inRest)
        refine ⟨mem_retireIds_of_not_mem inValues ?_, otherBound⟩
        rw [List.mem_singleton]
        intro same
        exact separate.1 (same ▸ List.mem_map_of_mem inRest)
      have later := ih ((ids_retireIds_sublist [entry.id] values).nodup distinct) separate.2 stays
        (if entry.survives then threadIds else threadIds.erase entry.id)
        (if entry.survives then removed else removed ++ [entry])
      simp only [List.map_cons, retirePendingIds, step]
      refine ⟨later.1.trans (retireIds_retireIds separate.1 values), ?_, ?_⟩
      · rw [later.2.1]
        cases survives : entry.survives <;> simp [survives]
      · have threads := later.2.2
        cases survives : entry.survives with
        | true =>
            simp only [survives, ↓reduceIte] at threads ⊢
            rw [List.filter_cons_of_neg (by simp [survives])]
            exact threads
        | false =>
            simp only [survives, Bool.false_eq_true, ↓reduceIte] at threads ⊢
            rw [List.filter_cons_of_pos (by simp [survives])]
            exact threads.cons

end Retirement

section Unique

theorem withoutRepeats_spec {ids : List Nat} (sorted : ids.Pairwise (· ≤ ·)) (previous : Option Nat)
    (below : ∀ last, previous = some last → ∀ id ∈ ids, last ≤ id) :
    (withoutRepeats previous ids).Pairwise (· < ·) ∧
      (∀ last, previous = some last → ∀ id ∈ withoutRepeats previous ids, last < id) ∧
      ∀ id, previous ≠ some id → (id ∈ withoutRepeats previous ids ↔ id ∈ ids) := by
  induction ids generalizing previous with
  | nil => simp [withoutRepeats]
  | cons first rest ih =>
      rw [List.pairwise_cons] at sorted
      rw [withoutRepeats]
      by_cases again : previous = some first
      · rw [if_pos again]
        obtain ⟨increasing, above, members⟩ := ih sorted.2 previous fun last same id member =>
          below last same id (List.mem_cons_of_mem _ member)
        refine ⟨increasing, above, fun id fresh => ?_⟩
        rw [members id fresh, List.mem_cons]
        have other : id ≠ first := fun same => fresh (same ▸ again)
        simp [other]
      · rw [if_neg again]
        obtain ⟨increasing, above, members⟩ := ih sorted.2 (some first) fun last same id member => by
          cases same
          exact sorted.1 id member
        refine ⟨List.pairwise_cons.mpr ⟨above first rfl, increasing⟩, ?_, ?_⟩
        · intro last same id member
          have lower : last < first := by
            have atMost := below last same first List.mem_cons_self
            have different : last ≠ first := fun equal => again (equal ▸ same)
            omega
          rcases List.mem_cons.mp member with rfl | later
          · exact lower
          · have higher := above first rfl id later
            omega
        · intro id fresh
          by_cases same : id = first
          · simp [same]
          · rw [List.mem_cons, List.mem_cons, members id fun equal => same (by cases equal; rfl)]

theorem withoutRepeats_sorted {ids : List Nat} (sorted : ids.Pairwise (· ≤ ·)) :
    (withoutRepeats none ids).Pairwise (· < ·) ∧ ∀ id, id ∈ withoutRepeats none ids ↔ id ∈ ids := by
  obtain ⟨increasing, _, members⟩ := withoutRepeats_spec sorted none fun _ absent => nomatch absent
  exact ⟨increasing, fun id => members id nofun⟩

end Unique

namespace Entry

def listedIn (instanceIds : List Nat) (entry : Entry) : Bool :=
  match entry.value.connectionInstanceId with
  | some instanceId => instanceIds.contains instanceId
  | none => false

theorem listedIn_iff (instanceIds : List Nat) (entry : Entry) :
    entry.listedIn instanceIds = true ↔
      ∃ instanceId ∈ instanceIds, entry.boundTo instanceId = true := by
  unfold listedIn boundTo
  cases entry.value.connectionInstanceId <;> simp

theorem listedIn_congr {left right : List Nat} (same : ∀ id, id ∈ left ↔ id ∈ right)
    (entry : Entry) : entry.listedIn left = entry.listedIn right := by
  rw [Bool.eq_iff_iff, listedIn_iff, listedIn_iff]
  simp only [same]

def instanceOf (entry : Entry) : Nat := entry.value.connectionInstanceId.getD 0

theorem instanceOf_of_boundTo {entry : Entry} {instanceId : Nat}
    (bound : entry.boundTo instanceId = true) : entry.instanceOf = instanceId := by
  have owner : entry.value.connectionInstanceId = some instanceId := by
    simpa [boundTo] using bound
  simp [instanceOf, owner]

end Entry

structure Retires (instanceIds : List Nat) (before : IdCache) (result : List Entry × IdCache) :
    Prop where
  removed : result.1 =
    before.values.filter fun entry => entry.listedIn instanceIds && !entry.survives
  values : result.2.values = before.values.filterMap fun entry =>
    if entry.listedIn instanceIds then entry.retire else some entry
  threads : ThreadsWithout result.1 before.threadIdByRequest result.2.threadIdByRequest
  erased : ∀ instanceId ∈ instanceIds, result.2.pendingByInstance[instanceId]? = none
  others : ∀ instanceId : Nat, instanceId ∉ instanceIds →
    result.2.pendingByInstance[instanceId]? = before.pendingByInstance[instanceId]?
  active : result.2.active = before.active
  nextId : result.2.nextId = before.nextId

/-- The index records exactly the queued requests of each instance. -/
structure IndexExact (cache : IdCache) : Prop where
  occupied : Occupied cache.pendingByInstance
  exact : ∀ instanceId, instanceId ≠ 0 → idsOf cache.pendingByInstance instanceId =
    (cache.values.filter (Entry.boundTo instanceId)).map Entry.id

section RetirePaths

variable {before : IdCache} {instanceIds : List Nat}

theorem IndexExact.getElem?_eq_none (indexed : IndexExact before) {instanceId : Nat}
    (unbound : ∀ entry ∈ before.values, entry.boundTo instanceId = false) :
    before.pendingByInstance[instanceId]? = none := by
  by_cases zero : instanceId = 0
  · subst zero
    exact indexed.occupied.nonzero
  · have recorded := indexed.exact instanceId zero
    rw [List.filter_eq_nil_iff.mpr fun entry member => by simp [unbound entry member]] at recorded
    cases stored : before.pendingByInstance[instanceId]? with
    | none => rfl
    | some ids =>
        refine absurd ?_ (indexed.occupied.filled instanceId ids stored)
        simpa [idsOf, stored] using recorded

theorem IndexExact.exists_bound (indexed : IndexExact before) {instanceId : Nat}
    (nonzero : instanceId ≠ 0) (present : before.pendingByInstance.contains instanceId = true) :
    ∃ entry ∈ before.values, entry.boundTo instanceId = true := by
  obtain ⟨ids, stored⟩ := Option.isSome_iff_exists.mp
    (Std.TreeMap.isSome_getElem?_eq_contains.trans present)
  have filled := indexed.occupied.filled instanceId ids stored
  have recorded := indexed.exact instanceId nonzero
  simp only [idsOf, stored, Option.map_some, Option.getD_some] at recorded
  rw [recorded, Ne, List.map_eq_nil_iff] at filled
  obtain ⟨entry, member⟩ := List.exists_mem_of_ne_nil _ filled
  rw [List.mem_filter] at member
  exact ⟨entry, member⟩

theorem retires_nothing (indexed : IndexExact before)
    (unlisted : ∀ entry ∈ before.values, entry.listedIn instanceIds = false) :
    Retires instanceIds before ([], before) where
  removed := by
    symm
    rw [List.filter_eq_nil_iff]
    intro entry member
    simp [unlisted entry member]
  values := by
    refine (List.filterMap_some (l := before.values)).symm.trans (List.filterMap_congr ?_)
    intro entry member
    simp [unlisted entry member]
  threads := threadsWithout_nothing before.threadIdByRequest
  erased := by
    intro instanceId member
    refine indexed.getElem?_eq_none fun entry inValues => ?_
    have none := unlisted entry inValues
    by_contra bound
    rw [(Entry.listedIn_iff instanceIds entry).mpr ⟨instanceId, member, by simpa using bound⟩]
      at none
    cases none
  others := fun _ _ => rfl
  active := rfl
  nextId := rfl

theorem retires_of_pairs (distinct : (before.values.map Entry.id).Nodup) {index : InstanceIndex}
    (erased : ∀ instanceId ∈ instanceIds, index[instanceId]? = none)
    (others : ∀ instanceId : Nat, instanceId ∉ instanceIds →
      index[instanceId]? = before.pendingByInstance[instanceId]?)
    {pairs : List (Nat × Nat)}
    (listed : pairs = (before.values.filter (Entry.listedIn instanceIds)).map fun entry =>
      (entry.id, entry.instanceOf)) :
    Retires instanceIds before
      ((retirePendingIds before.values before.threadIdByRequest [] pairs).2.2,
        { before with
          values := (retirePendingIds before.values before.threadIdByRequest [] pairs).1
          pendingByInstance := index
          threadIdByRequest :=
            (retirePendingIds before.values before.threadIdByRequest [] pairs).2.1 }) := by
  have separate : ((before.values.filter (Entry.listedIn instanceIds)).map Entry.id).Nodup :=
    (List.filter_sublist.map Entry.id).nodup distinct
  have members : ∀ entry ∈ before.values.filter (Entry.listedIn instanceIds),
      entry ∈ before.values ∧ entry.boundTo entry.instanceOf = true := by
    intro entry member
    rw [List.mem_filter, Entry.listedIn_iff] at member
    obtain ⟨inValues, instanceId, _, bound⟩ := member
    rw [Entry.instanceOf_of_boundTo bound]
    exact ⟨inValues, bound⟩
  obtain ⟨values, removed, threads⟩ := retirePendingIds_of_mem Entry.instanceOf
    (before.values.filter (Entry.listedIn instanceIds)) distinct separate members
    before.threadIdByRequest []
  rw [List.nil_append, List.filter_filter] at removed
  rw [listed]
  have same : (before.values.filter fun entry => !entry.survives && entry.listedIn instanceIds) =
      before.values.filter fun entry => entry.listedIn instanceIds && !entry.survives := by
    refine List.filter_congr fun entry _ => Bool.and_comm _ _
  refine ⟨removed.trans same, ?_, ?_, erased, others, rfl, rfl⟩
  · refine values.trans (List.filterMap_congr ?_)
    intro entry member
    cases found : entry.listedIn instanceIds with
    | true => rw [if_pos (List.mem_map_of_mem (List.mem_filter.mpr ⟨member, found⟩)), if_pos rfl]
    | false =>
        rw [if_neg, if_neg Bool.false_ne_true]
        intro again
        obtain ⟨twin, inListed, sameId⟩ := List.mem_map.mp again
        rw [List.mem_filter] at inListed
        have first := find?_of_mem distinct inListed.1
        rw [sameId, find?_of_mem distinct member] at first
        cases first
        rw [inListed.2] at found
        cases found
  · rw [List.filter_filter] at threads
    dsimp only
    rw [removed]
    exact threads

theorem retires_retireInstance (distinct : (before.values.map Entry.id).Nodup)
    (indexed : IndexExact before) {instanceId : Nat} (nonzero : instanceId ≠ 0) :
    Retires [instanceId] before (before.retireInstance instanceId) := by
  have single (entry : Entry) : entry.listedIn [instanceId] = entry.boundTo instanceId := by
    rw [Bool.eq_iff_iff, Entry.listedIn_iff]
    simp
  unfold IdCache.retireInstance
  cases stored : before.pendingByInstance[instanceId]? with
  | none =>
      refine retires_nothing indexed fun entry member => ?_
      rw [single]
      have recorded := indexed.exact instanceId nonzero
      simp only [idsOf, stored, Option.map_none, Option.getD_none] at recorded
      have empty := List.filter_eq_nil_iff.mp (List.map_eq_nil_iff.mp recorded.symm)
      simpa using empty entry member
  | some ids =>
      refine retires_of_pairs distinct ?_ ?_ ?_
      · intro other member
        obtain rfl := List.mem_singleton.mp member
        simp
      · intro other absent
        rw [List.mem_singleton] at absent
        simp [Std.TreeMap.getElem?_erase, Ne.symm absent]
      · have recorded := indexed.exact instanceId nonzero
        simp only [idsOf, stored, Option.map_some, Option.getD_some] at recorded
        rw [recorded, List.map_map, funext single]
        refine List.map_congr_left fun entry member => ?_
        rw [List.mem_filter] at member
        simp [Entry.instanceOf_of_boundTo member.2]

theorem flatMap_filter_perm (values : List Entry) {instanceIds : List Nat}
    (distinct : instanceIds.Nodup) :
    (instanceIds.flatMap fun instanceId => values.filter (Entry.boundTo instanceId)).Perm
      (values.filter (Entry.listedIn instanceIds)) := by
  induction instanceIds with
  | nil =>
      have none : values.filter (Entry.listedIn []) = [] := by
        rw [List.filter_eq_nil_iff]
        intro entry _
        simp [Entry.listedIn_iff]
      rw [none, List.flatMap_nil]
  | cons first rest ih =>
      rw [List.nodup_cons] at distinct
      rw [List.flatMap_cons]
      refine ((ih distinct.2).append_left _).trans ?_
      have split := List.filter_append_perm (Entry.boundTo first)
        (values.filter (Entry.listedIn (first :: rest)))
      rw [List.filter_filter, List.filter_filter] at split
      refine List.Perm.trans (List.Perm.of_eq ?_) split
      congr 1
      · refine List.filter_congr fun entry _ => ?_
        rw [Bool.eq_iff_iff, Bool.and_eq_true, Entry.listedIn_iff]
        constructor
        · intro bound
          exact ⟨bound, first, List.mem_cons_self, bound⟩
        · exact And.left
      · refine List.filter_congr fun entry _ => ?_
        rw [Bool.eq_iff_iff, Bool.and_eq_true, Entry.listedIn_iff, Entry.listedIn_iff]
        constructor
        · rintro ⟨instanceId, member, bound⟩
          refine ⟨?_, instanceId, List.mem_cons_of_mem _ member, bound⟩
          have owner := Entry.instanceOf_of_boundTo bound
          by_contra again
          have firstOwner := Entry.instanceOf_of_boundTo (by simpa using again)
          exact distinct.1 (firstOwner.symm.trans owner ▸ member)
        · rintro ⟨other, instanceId, member, bound⟩
          rcases List.mem_cons.mp member with rfl | later
          · simp [bound] at other
          · exact ⟨instanceId, later, bound⟩

theorem IndexExact.flatMap_idsOf (indexed : IndexExact before) (nonzero : 0 ∉ instanceIds) :
    (instanceIds.flatMap fun instanceId =>
        (idsOf before.pendingByInstance instanceId).map fun id => (id, instanceId)) =
      (instanceIds.flatMap fun instanceId =>
        before.values.filter (Entry.boundTo instanceId)).map fun entry =>
          (entry.id, entry.instanceOf) := by
  rw [List.map_flatMap]
  refine List.flatMap_congr fun instanceId member => ?_
  rw [indexed.exact instanceId fun zero => nonzero (zero ▸ member), List.map_map]
  refine List.map_congr_left fun entry inFilter => ?_
  rw [List.mem_filter] at inFilter
  simp [Entry.instanceOf_of_boundTo inFilter.2]

theorem mergeSort_pairs (sorted : (before.values.map Entry.id).Pairwise (· < ·))
    {pairs : List (Nat × Nat)}
    (listed : pairs.Perm ((before.values.filter (Entry.listedIn instanceIds)).map fun entry =>
      (entry.id, entry.instanceOf))) :
    pairs.mergeSort (fun left right => left.1 ≤ right.1) =
      (before.values.filter (Entry.listedIn instanceIds)).map fun entry =>
        (entry.id, entry.instanceOf) := by
  have ordered : ((before.values.filter (Entry.listedIn instanceIds)).map fun entry =>
      (entry.id, entry.instanceOf)).Pairwise fun left right => left.1 < right.1 := by
    rw [List.pairwise_map]
    rw [List.pairwise_map] at sorted
    exact sorted.sublist List.filter_sublist
  have perm := (List.mergeSort_perm pairs fun left right => left.1 ≤ right.1).trans listed
  have increasing : (pairs.mergeSort fun left right => left.1 ≤ right.1).Pairwise
      fun left right => decide (left.1 ≤ right.1) = true :=
    List.pairwise_mergeSort (by simp; omega) (by simp; omega) pairs
  refine perm.eq_of_pairwise ?_ increasing (ordered.imp fun below => by simpa using Nat.le_of_lt below)
  intro left right inLeft inRight atMost atLeast
  have distinct : (((before.values.filter (Entry.listedIn instanceIds)).map fun entry =>
      (entry.id, entry.instanceOf)).map Prod.fst).Nodup := by
    rw [List.Nodup, List.pairwise_map]
    exact ordered.imp fun below => Nat.ne_of_lt below
  have sameFirst : left.1 = right.1 := by
    simp only [decide_eq_true_eq] at atMost atLeast
    omega
  have found := find?_of_mem distinct (perm.subset inLeft)
  rw [sameFirst, find?_of_mem distinct inRight] at found
  exact (Option.some.inj found).symm

theorem sum_len (index : InstanceIndex) (instanceIds : List Nat) :
    ((instanceIds.filterMap fun instanceId => index[instanceId]?).map PendingIds.len).sum =
      (instanceIds.flatMap fun instanceId => (idsOf index instanceId).map fun id =>
        (id, instanceId)).length := by
  induction instanceIds with
  | nil => rfl
  | cons first rest ih =>
      rw [List.flatMap_cons, List.length_append, ← ih, List.length_map]
      cases stored : index[first]? with
      | none => simp [idsOf, stored]
      | some ids => simp [idsOf, stored, PendingIds.len]

theorem getElem?_foldl_erase (index : InstanceIndex) (instanceIds : List Nat) (instanceId : Nat) :
    (instanceId ∈ instanceIds →
      (instanceIds.foldl (fun index instanceId => index.erase instanceId) index)[instanceId]? =
        none) ∧
    (instanceId ∉ instanceIds →
      (instanceIds.foldl (fun index instanceId => index.erase instanceId) index)[instanceId]? =
        index[instanceId]?) := by
  induction instanceIds generalizing index with
  | nil => simp
  | cons first rest ih =>
      rw [List.foldl_cons]
      obtain ⟨gone, kept⟩ := ih (index.erase first)
      by_cases later : instanceId ∈ rest
      · exact ⟨fun _ => gone later, fun absent => absurd (List.mem_cons_of_mem _ later) absent⟩
      · rw [kept later, Std.TreeMap.getElem?_erase]
        by_cases same : first = instanceId
        · subst same
          simp
        · have other : ¬ instanceId = first := Ne.symm same
          simp [same, other, later]

theorem Retires.widen {instanceId : Nat} {result : List Entry × IdCache}
    (retires : Retires [instanceId] before result) (indexed : IndexExact before)
    (member : instanceId ∈ instanceIds)
    (same : ∀ entry ∈ before.values,
      entry.listedIn [instanceId] = entry.listedIn instanceIds) :
    Retires instanceIds before result where
  removed := by
    rw [retires.removed]
    refine List.filter_congr fun entry inValues => ?_
    rw [same entry inValues]
  values := by
    rw [retires.values]
    refine List.filterMap_congr fun entry inValues => ?_
    rw [same entry inValues]
  threads := retires.threads
  erased := by
    intro other inList
    by_cases this : other = instanceId
    · subst this
      exact retires.erased other List.mem_cons_self
    · rw [retires.others other (by simpa using this)]
      refine indexed.getElem?_eq_none fun entry inValues => ?_
      by_contra bound
      have listed := (Entry.listedIn_iff instanceIds entry).mpr ⟨other, inList, by simpa using bound⟩
      rw [← same entry inValues, Entry.listedIn_iff] at listed
      obtain ⟨owner, inSingle, ownerBound⟩ := listed
      rw [List.mem_singleton] at inSingle
      have first := Entry.instanceOf_of_boundTo ownerBound
      have second := Entry.instanceOf_of_boundTo (by simpa using bound)
      exact this (second.symm.trans (first.trans inSingle))
  others := by
    intro other absent
    refine retires.others other ?_
    rw [List.mem_singleton]
    rintro rfl
    exact absent member
  active := retires.active
  nextId := retires.nextId

theorem IndexExact.listed_pairs_perm (indexed : IndexExact before)
    (ordered : instanceIds.Pairwise (· ≤ ·)) (nonzero : 0 ∉ instanceIds) :
    ((withoutRepeats none instanceIds).flatMap fun instanceId =>
      (idsOf before.pendingByInstance instanceId).map fun id => (id, instanceId)).Perm
        ((before.values.filter (Entry.listedIn instanceIds)).map fun entry =>
          (entry.id, entry.instanceOf)) := by
  obtain ⟨increasing, members⟩ := withoutRepeats_sorted ordered
  have uniqueNonzero : 0 ∉ withoutRepeats none instanceIds := fun zero =>
    nonzero ((members 0).mp zero)
  rw [indexed.flatMap_idsOf uniqueNonzero]
  refine ((flatMap_filter_perm before.values (increasing.imp Nat.ne_of_lt)).trans
    (List.Perm.of_eq ?_)).map _
  exact List.filter_congr fun entry _ => Entry.listedIn_congr members entry

theorem IndexExact.not_listed_of_unrecorded (indexed : IndexExact before) (nonzero : 0 ∉ instanceIds)
    (absent : instanceIds.find? (fun instanceId => before.pendingByInstance.contains instanceId) =
      none) {entry : Entry} (member : entry ∈ before.values) :
    entry.listedIn instanceIds = false := by
  by_contra found
  obtain ⟨instanceId, inList, bound⟩ :=
    (Entry.listedIn_iff instanceIds entry).mp (by simpa using found)
  have missing : before.pendingByInstance[instanceId]? = none := by
    simpa using List.find?_eq_none.mp absent instanceId inList
  have recorded := indexed.exact instanceId fun zero => nonzero (zero ▸ inList)
  simp only [idsOf, missing, Option.map_none, Option.getD_none] at recorded
  have empty := List.filter_eq_nil_iff.mp (List.map_eq_nil_iff.mp recorded.symm)
  exact empty entry member bound

theorem IndexExact.listedIn_singleton (indexed : IndexExact before) (nonzero : 0 ∉ instanceIds)
    {only : Entry} (single : before.values.filter (Entry.listedIn instanceIds) = [only])
    {instanceId : Nat} (inList : instanceId ∈ instanceIds)
    (present : before.pendingByInstance.contains instanceId = true) {entry : Entry}
    (member : entry ∈ before.values) :
    entry.listedIn [instanceId] = entry.listedIn instanceIds := by
  have isOnly (other : Entry) (inValues : other ∈ before.values)
      (found : other.listedIn instanceIds = true) : other = only := by
    have inFilter := List.mem_filter.mpr ⟨inValues, found⟩
    rw [single] at inFilter
    exact List.mem_singleton.mp inFilter
  rw [Bool.eq_iff_iff]
  constructor
  · intro alone
    obtain ⟨owner, inSingle, bound⟩ := (Entry.listedIn_iff _ entry).mp alone
    obtain rfl := List.mem_singleton.mp inSingle
    exact (Entry.listedIn_iff _ entry).mpr ⟨owner, inList, bound⟩
  · intro isListed
    -- The recorded request of this instance is the only listed one.
    obtain ⟨twin, twinMember, twinBound⟩ :=
      indexed.exists_bound (fun zero => nonzero (zero ▸ inList)) present
    have twinListed := (Entry.listedIn_iff instanceIds twin).mpr ⟨instanceId, inList, twinBound⟩
    rw [isOnly entry member isListed, ← isOnly twin twinMember twinListed]
    exact (Entry.listedIn_iff _ twin).mpr ⟨instanceId, List.mem_cons_self, twinBound⟩

/-- All three paths have the one effect. -/
theorem retires_retireConnectionInstances
    (sorted : (before.values.map Entry.id).Pairwise (· < ·)) (indexed : IndexExact before)
    (ordered : instanceIds.Pairwise (· ≤ ·)) (nonzero : 0 ∉ instanceIds) :
    Retires instanceIds before (before.retireConnectionInstances instanceIds) := by
  have distinct : (before.values.map Entry.id).Nodup := sorted.imp Nat.ne_of_lt
  have members := (withoutRepeats_sorted ordered).2
  have listed := indexed.listed_pairs_perm ordered nonzero
  have count := listed.length_eq
  rw [← sum_len, List.length_map] at count
  unfold IdCache.retireConnectionInstances
  split
  · refine retires_nothing indexed fun entry _ => ?_
    cases found : entry.listedIn [] with
    | false => rfl
    | true =>
        obtain ⟨_, inNil, _⟩ := (Entry.listedIn_iff [] entry).mp found
        cases inNil
  · refine retires_retireInstance distinct indexed fun zero => nonzero ?_
    rw [zero]
    exact List.mem_cons_self
  · dsimp only
    rw [count]
    split
    · rename_i none
      refine retires_nothing indexed fun entry member => ?_
      have empty := List.filter_eq_nil_iff.mp (List.length_eq_zero_iff.mp none)
      simpa using empty entry member
    · split
      · rename_i one
        obtain ⟨only, single⟩ := List.length_eq_one_iff.mp one
        split
        · rename_i absent
          refine retires_nothing indexed fun entry member => ?_
          exact indexed.not_listed_of_unrecorded nonzero absent member
        · rename_i instanceId found
          have inList := List.mem_of_find?_eq_some found
          have present := List.find?_some found
          refine (retires_retireInstance distinct indexed fun zero =>
            nonzero (zero ▸ inList)).widen indexed inList fun entry member => ?_
          exact indexed.listedIn_singleton nonzero single inList present member
      · refine retires_of_pairs distinct ?_ ?_ (mergeSort_pairs sorted listed)
        · intro instanceId member
          exact (getElem?_foldl_erase _ _ instanceId).1 ((members instanceId).mpr member)
        · intro instanceId absent
          exact (getElem?_foldl_erase _ _ instanceId).2 fun member =>
            absent ((members instanceId).mp member)

end RetirePaths

end WindowsKext
