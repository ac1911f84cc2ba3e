import Mathlib.Data.List.Sort
import WindowsKext.TcpEndpointCacheRuns

/-! The order and the shape of the buckets of the reverse index, and that a lookup through it finds
what a scan of all endpoints would. -/

namespace WindowsKext

namespace TcpEndpointHandles

/-- The vector is sorted, and only holds what does not fit inline. -/
def Ordered : TcpEndpointHandles → Prop
  | one _ => True
  | multiple handles => handles.Pairwise (· < ·) ∧ 2 ≤ handles.length

theorem Ordered.increasing {handles : TcpEndpointHandles} (ordered : handles.Ordered) :
    handles.toList.Pairwise (· < ·) := by
  cases handles with
  | one handle => exact List.pairwise_singleton _ handle
  | multiple handles => exact ordered.1

theorem Ordered.nonempty {handles : TcpEndpointHandles} (ordered : handles.Ordered) :
    handles.toList ≠ [] := by
  cases handles with
  | one handle => exact List.cons_ne_nil handle []
  | multiple handles => exact List.ne_nil_of_length_pos (Nat.lt_of_lt_of_le Nat.zero_lt_two ordered.2)

theorem increasing_insertSorted {handle : Nat} {handles : List Nat}
    (increasing : handles.Pairwise (· < ·)) (absent : handle ∉ handles) :
    (insertSorted handle handles).Pairwise (· < ·) := by
  induction handles with
  | nil => exact List.pairwise_singleton _ handle
  | cons first rest ih =>
      rw [List.pairwise_cons] at increasing
      rw [List.mem_cons, not_or] at absent
      unfold insertSorted
      split
      · rename_i below
        refine List.pairwise_cons.mpr ⟨?_, List.pairwise_cons.mpr increasing⟩
        intro other member
        rcases List.mem_cons.mp member with rfl | later
        · exact below
        · exact Nat.lt_trans below (increasing.1 other later)
      · rename_i notBelow
        refine List.pairwise_cons.mpr ⟨?_, ih increasing.2 absent.2⟩
        intro other member
        rcases (mem_insertSorted handle other rest).mp member with rfl | later
        · omega
        · exact increasing.1 other later

theorem length_insertSorted (handle : Nat) (handles : List Nat) :
    (insertSorted handle handles).length = handles.length + 1 := by
  induction handles with
  | nil => rfl
  | cons first rest ih =>
      unfold insertSorted
      split
      · rfl
      · rw [List.length_cons, ih, List.length_cons]

theorem Ordered.insert {handles : TcpEndpointHandles} (ordered : handles.Ordered) (handle : Nat) :
    (handles.insert handle).Ordered := by
  cases handles with
  | one existing =>
      simp only [TcpEndpointHandles.insert]
      split
      · exact ordered
      · rename_i different
        split
        · rename_i below
          exact ⟨by simpa using below, Nat.le_refl 2⟩
        · exact ⟨by simp only [List.pairwise_pair]; omega, Nat.le_refl 2⟩
  | multiple handles =>
      simp only [TcpEndpointHandles.insert]
      split
      · exact ordered
      · rename_i absent
        refine ⟨increasing_insertSorted ordered.1 (by simpa using absent), ?_⟩
        rw [length_insertSorted]
        exact Nat.le_succ_of_le ordered.2

theorem ordered_retained {handles : List Nat} (increasing : handles.Pairwise (· < ·))
    {bucket : TcpEndpointHandles} (kept : retained handles = some bucket) : bucket.Ordered := by
  rcases handles with _ | ⟨first, _ | ⟨second, rest⟩⟩
  · cases kept
  · cases kept
    trivial
  · cases kept
    exact ⟨increasing, by simp⟩

theorem Ordered.remove {handles : TcpEndpointHandles} (ordered : handles.Ordered) {handle : Nat}
    (left : (handles.remove handle).1 = false) : (handles.remove handle).2.Ordered := by
  cases handles with
  | one existing => trivial
  | multiple handles =>
      have increasing := ordered.1.sublist (List.erase_sublist (a := handle))
      rw [TcpEndpointHandles.remove] at left ⊢
      rcases erased : handles.erase handle with _ | ⟨first, _ | ⟨second, rest⟩⟩
      · rw [erased] at left
        cases left
      · trivial
      · rw [erased] at increasing
        exact ⟨increasing, by simp⟩

end TcpEndpointHandles

namespace TcpEndpointCache

open TcpEndpointHandles

def LookupOrdered (lookup : LookupIndex) : Prop :=
  ∀ key handles, lookup key = some handles → handles.Ordered

variable {lookup : LookupIndex} {cache : TcpEndpointCache}

theorem LookupOrdered.set (ordered : LookupOrdered lookup) (key : TcpEndpointLookupKey)
    {bucket : Option TcpEndpointHandles} (new : ∀ handles, bucket = some handles → handles.Ordered) :
    LookupOrdered (setLookup lookup key bucket) := by
  intro other handles found
  unfold setLookup at found
  split at found
  · exact new handles found
  · exact ordered other handles found

theorem LookupOrdered.add (ordered : LookupOrdered lookup) (key : TcpEndpointLookupKey)
    (handle : Nat) : LookupOrdered (addLookupHandle lookup key handle) := by
  unfold addLookupHandle
  cases stored : lookup key with
  | none =>
      refine ordered.set key ?_
      intro handles found
      cases found
      trivial
  | some existing =>
      refine ordered.set key ?_
      intro handles found
      cases found
      exact (ordered key existing stored).insert handle

theorem LookupOrdered.remove (ordered : LookupOrdered lookup) (key : TcpEndpointLookupKey)
    (handle : Nat) : LookupOrdered (removeLookupHandle lookup key handle) := by
  unfold removeLookupHandle
  cases stored : lookup key with
  | none => exact ordered
  | some existing =>
      refine ordered.set key ?_
      intro handles found
      change (if (existing.remove handle).1 then none else some (existing.remove handle).2) =
        some handles at found
      by_cases left : (existing.remove handle).1 = true
      · rw [if_pos left] at found
        cases found
      · rw [if_neg left] at found
        cases found
        exact (ordered key existing stored).remove (Bool.eq_false_iff.mpr left)

theorem retainOthers_sublist (endpoint : TcpEndpointConnection)
    (endpoints : Std.TreeMap Nat TcpEndpointRecord) (handles : List Nat) :
    (retainOthers endpoint endpoints handles).1.Sublist handles := by
  induction handles generalizing endpoints with
  | nil => exact List.Sublist.refl []
  | cons first rest ih =>
      unfold retainOthers
      split
      · exact (ih _).cons first
      · exact (ih _).cons_cons first

theorem LookupOrdered.removeEndpointAliases (ordered : LookupOrdered cache.lookup)
    (endpoint : TcpEndpointConnection) :
    LookupOrdered (cache.removeEndpointAliases endpoint).lookup := by
  unfold TcpEndpointCache.removeEndpointAliases
  cases stored : cache.lookup (lookupKey endpoint) with
  | none => exact ordered
  | some existing =>
      refine ordered.set (lookupKey endpoint) ?_
      intro handles found
      exact ordered_retained ((ordered _ existing stored).increasing.sublist
        (retainOthers_sublist endpoint cache.endpoints existing.toList)) found

theorem lookupOrdered_rebuildLookup (endpoints : Std.TreeMap Nat TcpEndpointRecord) :
    LookupOrdered (rebuildLookup endpoints) := by
  have fold : ∀ (entries : List (Nat × TcpEndpointRecord)) (lookup : LookupIndex),
      LookupOrdered lookup → LookupOrdered (entries.foldl (fun lookup entry =>
        addLookupHandle lookup (lookupKey entry.2.endpoint) entry.1) lookup) := by
    intro entries
    induction entries with
    | nil => exact fun lookup ordered => ordered
    | cons entry rest ih => exact fun lookup ordered => ih _ (ordered.add _ entry.1)
  refine fold endpoints.toList _ ?_
  intro key handles found
  cases found

theorem LookupOrdered.associateInstanceAt (ordered : LookupOrdered cache.lookup) (handle : Nat)
    (key : Key) (parent : Option Nat) (instanceId associatedAtMs : Nat) :
    LookupOrdered (cache.associateInstanceAt handle key parent instanceId associatedAtMs).2.lookup := by
  unfold TcpEndpointCache.associateInstanceAt
  split
  · exact ordered
  · cases cache.endpoints[handle]? with
    | none => exact ordered.add _ handle
    | some existing =>
        dsimp only
        split
        · exact ordered
        · split
          · exact ordered
          · exact (ordered.remove _ handle).add _ handle
          · exact ordered

theorem LookupOrdered.rebindEstablished (ordered : LookupOrdered cache.lookup) (handle : Nat)
    (endpoint : TcpEndpointConnection) :
    LookupOrdered (cache.rebindEstablished handle endpoint).2.lookup := by
  unfold TcpEndpointCache.rebindEstablished
  split
  · exact ordered
  · split
    · exact ordered
    · exact (ordered.removeEndpointAliases endpoint).add _ handle

theorem LookupOrdered.takeUnestablishedBefore (ordered : LookupOrdered cache.lookup) (cutoffMs : Nat)
    (shouldExpire : TcpEndpointConnection → Bool) :
    LookupOrdered (cache.takeUnestablishedBefore cutoffMs shouldExpire).2.lookup := by
  unfold TcpEndpointCache.takeUnestablishedBefore
  dsimp only
  split
  · exact ordered
  · exact lookupOrdered_rebuildLookup _

end TcpEndpointCache

section Index

open TcpEndpointCache

theorem lookupOrdered_step {run : TcpEndpointRun} (ordered : LookupOrdered run.cache.lookup)
    (operation : TcpEndpointOp) : LookupOrdered (run.step operation).cache.lookup := by
  cases operation with
  | associateInstanceAt handle key parent instanceId associatedAtMs =>
      exact ordered.associateInstanceAt handle key parent instanceId associatedAtMs
  | rebindEstablished handle endpoint => exact ordered.rebindEstablished handle endpoint
  | takeUnestablishedBefore cutoffMs shouldExpire =>
      exact ordered.takeUnestablishedBefore cutoffMs shouldExpire
  | takeUnestablished handle =>
      rcases takeUnestablished_cases run.cache handle with ⟨kept, _⟩ | ⟨record, _, _, taken⟩
      · simp only [TcpEndpointRun.step, kept]
        exact ordered
      · simp only [TcpEndpointRun.step, taken]
        exact ordered.removeEndpointAliases record.endpoint
  | take handle =>
      rcases take_cases run.cache handle with ⟨kept, _⟩ | ⟨record, _, _, taken⟩
      · simp only [TcpEndpointRun.step, kept]
        exact ordered
      · simp only [TcpEndpointRun.step, taken]
        exact ordered.removeEndpointAliases record.endpoint
  | clear =>
      intro key handles found
      cases found

theorem lookupOrdered_runTcpEndpoints (operations : List TcpEndpointOp) :
    LookupOrdered (runTcpEndpoints operations).cache.lookup := by
  induction operations using List.reverseRecOn with
  | nil =>
      intro key handles found
      cases found
  | append_singleton operations operation ih =>
      rw [runTcpEndpoints_append]
      exact lookupOrdered_step ih operation

/-- The endpoints with a tuple and a parent, by increasing handle. -/
def scanEndpoints (cache : TcpEndpointCache) (key : TcpEndpointLookupKey) :
    List (Nat × TcpEndpointRecord) :=
  cache.endpoints.toList.filter fun entry => lookupKey entry.2.endpoint = key

/-- `resolve_live_instance` without the index. -/
def scanLiveInstance (cache : TcpEndpointCache) (key : TcpEndpointLookupKey) (isLive : Nat → Bool) :
    Option TcpEndpointConnection :=
  cache.endpoints.toList.findSome? fun entry =>
    if lookupKey entry.2.endpoint = key ∧ isLive entry.2.endpoint.instanceId = true then
      some entry.2.endpoint
    else none

structure TcpIndexExact (cache : TcpEndpointCache) : Prop where
  members : ∀ key handle, handle ∈ handlesOf cache.lookup key ↔
    ∃ record, cache.endpoints[handle]? = some record ∧ lookupKey record.endpoint = key
  increasing : ∀ key, (handlesOf cache.lookup key).Pairwise (· < ·)
  nonempty : ∀ key handles, cache.lookup key = some handles → handles.toList ≠ []
  shape : ∀ key handles, cache.lookup key = some (.multiple handles) → 2 ≤ handles.length
  resolve : ∀ key isLive,
    cache.resolveLiveInstance key.key key.parentEndpointHandle isLive =
      scanLiveInstance cache key isLive
  smallest : ∀ key isLive endpoint,
    cache.resolveLiveInstance key.key key.parentEndpointHandle isLive = some endpoint ↔
      ∃ (handle : Nat) (record : TcpEndpointRecord),
        cache.endpoints[handle]? = some record ∧ lookupKey record.endpoint = key ∧
        isLive record.endpoint.instanceId = true ∧ record.endpoint = endpoint ∧
        ∀ (earlier : Nat) (other : TcpEndpointRecord), earlier < handle →
          cache.endpoints[earlier]? = some other → lookupKey other.endpoint = key → isLive other.endpoint.instanceId = false

variable {cache : TcpEndpointCache}

theorem scan_increasing (cache : TcpEndpointCache) :
    cache.endpoints.toList.Pairwise fun left right => left.1 < right.1 :=
  Std.TreeMap.ordered_keys_toList.imp fun below => Nat.compare_eq_lt.mp below

theorem handlesOf_eq_scan (exact : LookupExact cache.records cache.lookup)
    (ordered : LookupOrdered cache.lookup) (key : TcpEndpointLookupKey) :
    handlesOf cache.lookup key = (scanEndpoints cache key).map Prod.fst := by
  have increasing : (handlesOf cache.lookup key).Pairwise (· < ·) := by
    unfold handlesOf
    cases stored : cache.lookup key with
    | none => exact List.Pairwise.nil
    | some handles => exact (ordered key handles stored).increasing
  refine increasing.eq_of_mem_iff (List.pairwise_map.mpr ((scan_increasing cache).filter _)) ?_
  intro handle
  rw [exact.members, List.mem_map]
  constructor
  · rintro ⟨record, stored, same⟩
    refine ⟨(handle, record), List.mem_filter.mpr ⟨?_, decide_eq_true same⟩, rfl⟩
    exact Std.TreeMap.mem_toList_iff_getElem?_eq_some.mpr stored
  · rintro ⟨⟨_, record⟩, selected, rfl⟩
    obtain ⟨member, same⟩ := List.mem_filter.mp selected
    exact ⟨record, Std.TreeMap.mem_toList_iff_getElem?_eq_some.mp member, of_decide_eq_true same⟩

theorem findSome_selected {key : TcpEndpointLookupKey} {isLive : Nat → Bool}
    {entries : List (Nat × TcpEndpointRecord)}
    (stored : ∀ entry ∈ entries, cache.endpoints[entry.1]? = some entry.2) :
    ((entries.filter fun entry => lookupKey entry.2.endpoint = key).map Prod.fst).findSome?
        (fun handle => cache.endpoints[handle]?.bind fun record =>
          if isLive record.endpoint.instanceId then some record.endpoint else none) =
      entries.findSome? fun entry =>
        if lookupKey entry.2.endpoint = key ∧ isLive entry.2.endpoint.instanceId = true then
          some entry.2.endpoint
        else none := by
  induction entries with
  | nil => rfl
  | cons entry rest ih =>
      have here := stored entry List.mem_cons_self
      have later := ih fun other member => stored other (List.mem_cons_of_mem _ member)
      by_cases same : lookupKey entry.2.endpoint = key
      · by_cases live : isLive entry.2.endpoint.instanceId = true
        · simp [same, live, here]
        · simp [same, live, here, later]
      · simp [same, later]

theorem resolve_eq_scan (exact : LookupExact cache.records cache.lookup)
    (ordered : LookupOrdered cache.lookup) (key : TcpEndpointLookupKey) (isLive : Nat → Bool) :
    cache.resolveLiveInstance key.key key.parentEndpointHandle isLive =
      scanLiveInstance cache key isLive := by
  have bucket : cache.resolveLiveInstance key.key key.parentEndpointHandle isLive =
      (handlesOf cache.lookup key).findSome? fun handle => cache.endpoints[handle]?.bind
        fun record => if isLive record.endpoint.instanceId then some record.endpoint else none := by
    unfold resolveLiveInstance handlesOf
    cases cache.lookup key with
    | none => rfl
    | some handles => rfl
  rw [bucket, handlesOf_eq_scan exact ordered, scanEndpoints, scanLiveInstance]
  refine findSome_selected ?_
  intro entry member
  exact Std.TreeMap.mem_toList_iff_getElem?_eq_some.mp member

/-- A scan in the order of the handles stops at the smallest one that qualifies. -/
theorem scan_smallest (key : TcpEndpointLookupKey) (isLive : Nat → Bool)
    (endpoint : TcpEndpointConnection) :
    scanLiveInstance cache key isLive = some endpoint ↔
      ∃ (handle : Nat) (record : TcpEndpointRecord),
        cache.endpoints[handle]? = some record ∧ lookupKey record.endpoint = key ∧
        isLive record.endpoint.instanceId = true ∧ record.endpoint = endpoint ∧
        ∀ (earlier : Nat) (other : TcpEndpointRecord), earlier < handle →
          cache.endpoints[earlier]? = some other → lookupKey other.endpoint = key →
          isLive other.endpoint.instanceId = false := by
  have increasing := scan_increasing cache
  have listed : ∀ entry, entry ∈ cache.endpoints.toList ↔
      cache.endpoints[entry.1]? = some entry.2 :=
    fun entry => Std.TreeMap.mem_toList_iff_getElem?_eq_some
  rw [scanLiveInstance, List.findSome?_eq_some_iff]
  generalize cache.endpoints.toList = entries at increasing listed
  constructor
  · rintro ⟨before, ⟨handle, record⟩, after, rfl, found, skipped⟩
    rw [List.pairwise_append, List.pairwise_cons] at increasing
    split at found
    · rename_i qualifies
      refine ⟨handle, record, (listed (handle, record)).mp (by simp), qualifies.1, qualifies.2,
        Option.some.inj found, ?_⟩
      intro earlier other below stored same
      have inBefore : (earlier, other) ∈ before := by
        rcases List.mem_append.mp ((listed (earlier, other)).mpr stored) with early | late
        · exact early
        · rcases List.mem_cons.mp late with first | later
          · cases first
            omega
          · have above := increasing.2.1.1 (earlier, other) later
            dsimp only at above
            omega
      have rejected := skipped (earlier, other) inBefore
      by_contra live
      rw [if_pos ⟨same, Bool.not_eq_false _ ▸ live⟩] at rejected
      cases rejected
    · cases found
  · rintro ⟨handle, record, stored, same, live, rfl, smaller⟩
    obtain ⟨before, after, rfl⟩ := List.append_of_mem ((listed (handle, record)).mpr stored)
    refine ⟨before, (handle, record), after, rfl, if_pos ⟨same, live⟩, ?_⟩
    intro entry member
    rw [List.pairwise_append] at increasing
    have below := increasing.2.2 entry member (handle, record) List.mem_cons_self
    have known := (listed entry).mp (List.mem_append_left _ member)
    refine if_neg ?_
    rintro ⟨entrySame, entryLive⟩
    rw [smaller entry.1 entry.2 below known entrySame] at entryLive
    cases entryLive

/-- After every sequence of operations the index is the inverse of `endpoints`. -/
theorem tcpEndpoint_index_exact (operations : List TcpEndpointOp) :
    TcpIndexExact (runTcpEndpoints operations).cache := by
  have exact := lookupExact_runTcpEndpoints operations
  have ordered := lookupOrdered_runTcpEndpoints operations
  have resolve := resolve_eq_scan exact ordered
  refine ⟨exact.members, ?_, ?_, ?_, resolve, ?_⟩
  · intro key
    rw [handlesOf_eq_scan exact ordered]
    exact List.pairwise_map.mpr ((scan_increasing _).filter _)
  · intro key handles found
    exact (ordered key handles found).nonempty
  · intro key handles found
    exact (ordered key _ found).2
  · intro key isLive endpoint
    rw [resolve]
    exact scan_smallest key isLive endpoint

end Index

end WindowsKext
