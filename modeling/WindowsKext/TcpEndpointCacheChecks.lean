import WindowsKext.TcpEndpointCacheCore

/-! The reverse index of the endpoint cache lists exactly the handles of each tuple and parent, so
an operation can be described by the records that it leaves. -/

namespace WindowsKext

namespace TcpEndpointHandles

theorem mem_insertSorted (handle other : Nat) (handles : List Nat) :
    other ∈ insertSorted handle handles ↔ other = handle ∨ other ∈ handles := by
  induction handles with
  | nil => simp [insertSorted]
  | cons first rest ih =>
      unfold insertSorted
      split
      · simp
      · rw [List.mem_cons, ih, List.mem_cons]
        exact or_left_comm

theorem nodup_insertSorted {handle : Nat} {handles : List Nat} (distinct : handles.Nodup)
    (absent : handle ∉ handles) : (insertSorted handle handles).Nodup := by
  induction handles with
  | nil => simp [insertSorted]
  | cons first rest ih =>
      unfold insertSorted
      split
      · exact List.nodup_cons.mpr ⟨absent, distinct⟩
      · rw [List.nodup_cons] at distinct ⊢
        rw [List.mem_cons, not_or] at absent
        refine ⟨?_, ih distinct.2 absent.2⟩
        rw [mem_insertSorted, not_or]
        exact ⟨Ne.symm absent.1, distinct.1⟩

theorem mem_insert (handles : TcpEndpointHandles) (handle other : Nat) :
    other ∈ (handles.insert handle).toList ↔ other ∈ handles.toList ∨ other = handle := by
  cases handles with
  | one existing =>
      simp only [insert]
      split
      · rename_i same
        simp [toList, same]
      · split
        · simp [toList]
        · simp [toList, or_comm]
  | multiple handles =>
      simp only [insert]
      split
      · rename_i present
        have stored : handle ∈ handles := by simpa using present
        refine ⟨.inl, fun found => found.elim id ?_⟩
        rintro rfl
        exact stored
      · simp [toList, mem_insertSorted, or_comm]

theorem nodup_insert {handles : TcpEndpointHandles} (distinct : handles.toList.Nodup)
    (handle : Nat) : (handles.insert handle).toList.Nodup := by
  cases handles with
  | one existing =>
      simp only [insert]
      split
      · exact distinct
      · rename_i different
        split
        · simpa [toList] using different
        · simpa [toList] using Ne.symm different
  | multiple handles =>
      simp only [insert]
      split
      · exact distinct
      · rename_i absent
        exact nodup_insertSorted distinct (by simpa using absent)

/-- The handles left after a removal. An empty bucket is dropped by the caller. -/
def afterRemove (handles : TcpEndpointHandles) (handle : Nat) : List Nat :=
  if (handles.remove handle).1 then [] else (handles.remove handle).2.toList

theorem afterRemove_eq (handles : TcpEndpointHandles) (handle : Nat) :
    handles.afterRemove handle = handles.toList.erase handle := by
  cases handles with
  | one existing =>
      unfold afterRemove
      by_cases same : existing = handle
      · simp [remove, toList, same]
      · simp [remove, toList, same]
  | multiple handles =>
      rcases left : handles.erase handle with _ | ⟨first, _ | ⟨second, rest⟩⟩
      · simp [afterRemove, remove, toList, left]
      · simp [afterRemove, remove, toList, left]
      · simp [afterRemove, remove, toList, left]

theorem toList_retained (handles : List Nat) :
    ((retained handles).map toList).getD [] = handles := by
  rcases handles with _ | ⟨first, _ | ⟨second, rest⟩⟩ <;> rfl

end TcpEndpointHandles

namespace TcpEndpointCache

open TcpEndpointHandles

abbrev LookupIndex := TcpEndpointLookupKey → Option TcpEndpointHandles

def handlesOf (lookup : LookupIndex) (key : TcpEndpointLookupKey) : List Nat :=
  ((lookup key).map toList).getD []

theorem handlesOf_setLookup (lookup : LookupIndex) (key other : TcpEndpointLookupKey)
    (handles : Option TcpEndpointHandles) :
    handlesOf (setLookup lookup key handles) other =
      if other = key then (handles.map toList).getD [] else handlesOf lookup other := by
  unfold handlesOf setLookup
  split <;> rfl

theorem mem_addLookupHandle (lookup : LookupIndex) (key other : TcpEndpointLookupKey)
    (handle found : Nat) :
    found ∈ handlesOf (addLookupHandle lookup key handle) other ↔
      found ∈ handlesOf lookup other ∨ (other = key ∧ found = handle) := by
  unfold addLookupHandle
  cases stored : lookup key with
  | none =>
      simp only [handlesOf_setLookup]
      split
      · rename_i same
        simp [same, handlesOf, stored, toList]
      · rename_i different
        simp [different]
  | some handles =>
      simp only [handlesOf_setLookup]
      split
      · rename_i same
        simp [same, handlesOf, stored, mem_insert]
      · rename_i different
        simp [different]

theorem nodup_addLookupHandle {lookup : LookupIndex}
    (distinct : ∀ key, (handlesOf lookup key).Nodup) (key other : TcpEndpointLookupKey)
    (handle : Nat) : (handlesOf (addLookupHandle lookup key handle) other).Nodup := by
  have here := distinct key
  unfold addLookupHandle
  cases stored : lookup key with
  | none =>
      simp only [handlesOf_setLookup]
      split
      · simp [toList]
      · exact distinct other
  | some handles =>
      simp only [handlesOf_setLookup]
      split
      · rw [handlesOf, stored] at here
        exact nodup_insert here handle
      · exact distinct other

theorem handlesOf_removeLookupHandle (lookup : LookupIndex) (key other : TcpEndpointLookupKey)
    (handle : Nat) :
    handlesOf (removeLookupHandle lookup key handle) other =
      if other = key then (handlesOf lookup other).erase handle else handlesOf lookup other := by
  unfold removeLookupHandle
  cases stored : lookup key with
  | none =>
      simp only
      split
      · rename_i same
        simp [same, handlesOf, stored]
      · rfl
  | some handles =>
      simp only [handlesOf_setLookup]
      split
      · rename_i same
        have left := afterRemove_eq handles handle
        unfold afterRemove at left
        rw [same, handlesOf, stored, Option.map_some, Option.getD_some, ← left]
        split <;> rfl
      · rfl

/-- The index lists exactly the handles whose record has the tuple and the parent. -/
structure LookupExact (records : Nat → Option TcpEndpointRecord) (lookup : LookupIndex) : Prop where
  members : ∀ key handle, handle ∈ handlesOf lookup key ↔
    ∃ record, records handle = some record ∧ lookupKey record.endpoint = key
  distinct : ∀ key, (handlesOf lookup key).Nodup

def records (cache : TcpEndpointCache) (handle : Nat) : Option TcpEndpointRecord :=
  cache.endpoints[handle]?

variable {recorded : Nat → Option TcpEndpointRecord} {lookup : LookupIndex}

theorem LookupExact.insert (exact : LookupExact recorded lookup) {handle : Nat}
    (absent : recorded handle = none) (record : TcpEndpointRecord)
    {after : Nat → Option TcpEndpointRecord}
    (inserted : ∀ other, after other = if other = handle then some record else recorded other) :
    LookupExact after (addLookupHandle lookup (lookupKey record.endpoint) handle) where
  members key other := by
    rw [mem_addLookupHandle, exact.members, inserted]
    split
    · rename_i same
      subst same
      simp [absent, eq_comm]
    · rename_i different
      simp [different]
  distinct key := nodup_addLookupHandle exact.distinct _ key handle

theorem LookupExact.remove (exact : LookupExact recorded lookup) {handle : Nat}
    {record : TcpEndpointRecord} (stored : recorded handle = some record)
    {after : Nat → Option TcpEndpointRecord}
    (removed : ∀ other, after other = if other = handle then none else recorded other) :
    LookupExact after (removeLookupHandle lookup (lookupKey record.endpoint) handle) where
  members key other := by
    rw [handlesOf_removeLookupHandle, removed]
    by_cases same : other = handle
    · subst same
      simp only [↓reduceIte, reduceCtorEq, false_and, exists_false, iff_false]
      split
      · exact (exact.distinct key).not_mem_erase
      · rename_i different
        rw [exact.members]
        rintro ⟨found, here, rfl⟩
        rw [stored, Option.some.injEq] at here
        exact different (by rw [here])
    · rw [if_neg same, ← exact.members]
      split
      · exact List.mem_erase_of_ne same
      · rfl
  distinct key := by
    rw [handlesOf_removeLookupHandle]
    split
    · exact (exact.distinct key).erase handle
    · exact exact.distinct key

theorem getElem?_retainOthers (endpoint : TcpEndpointConnection)
    (endpoints : Std.TreeMap Nat TcpEndpointRecord) (handles : List Nat) (handle : Nat) :
    (retainOthers endpoint endpoints handles).2[handle]? =
      if handle ∈ handles then endpoints[handle]?.filter fun record => record.endpoint != endpoint
      else endpoints[handle]? := by
  induction handles generalizing endpoints with
  | nil => simp [retainOthers]
  | cons first rest ih =>
      unfold retainOthers
      split
      · rename_i aliased
        simp only [ih, Std.TreeMap.getElem?_erase, Nat.compare_eq_eq]
        by_cases same : first = handle
        · subst same
          cases stored : endpoints[first]? with
          | none => simp
          | some record =>
              rw [stored] at aliased
              simp only [Option.any_some, beq_iff_eq] at aliased
              simp [aliased, Option.filter_some]
        · simp [same, Ne.symm same]
      · rename_i other
        simp only [ih]
        by_cases same : handle = first
        · subst same
          cases stored : endpoints[handle]? with
          | none => simp
          | some record =>
              rw [stored] at other
              have different : record.endpoint ≠ endpoint := by simpa using other
              simp [different, Option.filter_some]
        · simp [same]

theorem retainOthers_fst (endpoint : TcpEndpointConnection)
    {endpoints : Std.TreeMap Nat TcpEndpointRecord} {handles : List Nat}
    (distinct : handles.Nodup) :
    (retainOthers endpoint endpoints handles).1 = handles.filter fun handle =>
      !endpoints[handle]?.any fun record => record.endpoint == endpoint := by
  induction handles generalizing endpoints with
  | nil => rfl
  | cons first rest ih =>
      rw [List.nodup_cons] at distinct
      unfold retainOthers
      split
      · rename_i aliased
        rw [ih distinct.2, List.filter_cons_of_neg (by simp [aliased])]
        refine List.filter_congr fun handle member => ?_
        have different : ¬ first = handle := by
          rintro rfl
          exact distinct.1 member
        simp only [Std.TreeMap.getElem?_erase, Nat.compare_eq_eq, if_neg different]
      · rename_i other
        simp only [ih distinct.2]
        rw [List.filter_cons_of_pos (by simpa using other)]

variable {cache : TcpEndpointCache}

theorem records_removeEndpointAliases (exact : LookupExact cache.records cache.lookup)
    (endpoint : TcpEndpointConnection) (handle : Nat) :
    (cache.removeEndpointAliases endpoint).records handle =
      (cache.records handle).filter fun record => record.endpoint != endpoint := by
  have listed := exact.members (lookupKey endpoint) handle
  unfold removeEndpointAliases
  cases stored : cache.lookup (lookupKey endpoint) with
  | none =>
      rw [handlesOf, stored] at listed
      cases found : cache.records handle with
      | none => simp
      | some record =>
          have different : record.endpoint ≠ endpoint := by
            rintro rfl
            exact absurd (listed.mpr ⟨record, found, rfl⟩) (by simp)
          simp [different, Option.filter_some]
  | some handles =>
      rw [handlesOf, stored] at listed
      simp only [Option.map_some, Option.getD_some] at listed
      simp only [records, getElem?_retainOthers]
      split
      · rfl
      · rename_i unlisted
        cases found : cache.endpoints[handle]? with
        | none => rfl
        | some record =>
            have different : record.endpoint ≠ endpoint := by
              rintro rfl
              exact unlisted (listed.mpr ⟨record, found, rfl⟩)
            simp [different, Option.filter_some]

theorem lookupExact_removeEndpointAliases (exact : LookupExact cache.records cache.lookup)
    (endpoint : TcpEndpointConnection) :
    LookupExact (cache.removeEndpointAliases endpoint).records
      (cache.removeEndpointAliases endpoint).lookup := by
  have handles : ∀ key, handlesOf (cache.removeEndpointAliases endpoint).lookup key =
      (handlesOf cache.lookup key).filter fun handle =>
        !(cache.records handle).any fun record => record.endpoint == endpoint := by
    intro key
    have unaffected : key ≠ lookupKey endpoint → (handlesOf cache.lookup key).filter (fun handle =>
        !(cache.records handle).any fun record => record.endpoint == endpoint) =
          handlesOf cache.lookup key := by
      intro other
      rw [List.filter_eq_self]
      intro handle member
      obtain ⟨record, stored, rfl⟩ := (exact.members key handle).mp member
      have different : record.endpoint ≠ endpoint := by
        rintro rfl
        exact other rfl
      simp [stored, different]
    unfold removeEndpointAliases
    cases stored : cache.lookup (lookupKey endpoint) with
    | none =>
        by_cases same : key = lookupKey endpoint
        · simp [same, handlesOf, stored]
        · exact (unaffected same).symm
    | some bucket =>
        simp only [handlesOf_setLookup]
        have distinct := exact.distinct (lookupKey endpoint)
        rw [handlesOf, stored, Option.map_some, Option.getD_some] at distinct
        split
        · rename_i same
          rw [toList_retained, retainOthers_fst endpoint distinct, same, handlesOf, stored,
            Option.map_some, Option.getD_some]
          rfl
        · rename_i same
          exact (unaffected same).symm
  refine ⟨fun key handle => ?_, fun key => ?_⟩
  · rw [handles, List.mem_filter, exact.members, records_removeEndpointAliases exact]
    constructor
    · rintro ⟨⟨record, stored, rfl⟩, kept⟩
      refine ⟨record, ?_, rfl⟩
      rw [stored] at kept ⊢
      have different : record.endpoint ≠ endpoint := by simpa using kept
      simp [different, Option.filter_some]
    · rintro ⟨record, stored, rfl⟩
      rw [Option.filter_eq_some_iff] at stored
      exact ⟨⟨record, stored.1, rfl⟩, by simpa [stored.1] using stored.2⟩
  · rw [handles]
    exact (exact.distinct key).filter _

theorem lookupExact_rebuildLookup (endpoints : Std.TreeMap Nat TcpEndpointRecord) :
    LookupExact (fun handle => endpoints[handle]?) (rebuildLookup endpoints) := by
  have fold : ∀ (entries : List (Nat × TcpEndpointRecord)) (lookup : LookupIndex),
      (∀ key, (handlesOf lookup key).Nodup) →
      (∀ key handle, handle ∈ handlesOf (entries.foldl (fun lookup entry =>
          addLookupHandle lookup (lookupKey entry.2.endpoint) entry.1) lookup) key ↔
        handle ∈ handlesOf lookup key ∨
          ∃ record, (handle, record) ∈ entries ∧ lookupKey record.endpoint = key) ∧
      ∀ key, (handlesOf (entries.foldl (fun lookup entry =>
          addLookupHandle lookup (lookupKey entry.2.endpoint) entry.1) lookup) key).Nodup := by
    intro entries
    induction entries with
    | nil =>
        intro lookup distinct
        exact ⟨fun key handle => by simp, distinct⟩
    | cons entry rest ih =>
        intro lookup distinct
        obtain ⟨members, nodup⟩ := ih (addLookupHandle lookup (lookupKey entry.2.endpoint) entry.1)
          fun key => nodup_addLookupHandle distinct _ key _
        refine ⟨fun key handle => ?_, nodup⟩
        rw [List.foldl_cons, members, mem_addLookupHandle, or_assoc]
        refine or_congr_right ⟨?_, ?_⟩
        · rintro (⟨rfl, rfl⟩ | ⟨record, member, same⟩)
          · exact ⟨entry.2, List.mem_cons_self, rfl⟩
          · exact ⟨record, List.mem_cons_of_mem _ member, same⟩
        · rintro ⟨record, member, same⟩
          rcases List.mem_cons.mp member with first | later
          · rw [← first]
            exact .inl ⟨same.symm, rfl⟩
          · exact .inr ⟨record, later, same⟩
  obtain ⟨members, distinct⟩ := fold endpoints.toList (fun _ => none) fun _ => List.nodup_nil
  refine ⟨fun key handle => (members key handle).trans ?_, distinct⟩
  simp [handlesOf, Std.TreeMap.mem_toList_iff_getElem?_eq_some]

/-- Another handle of the same endpoint already represents the established flow. -/
def EstablishedAs (cache : TcpEndpointCache) (endpoint : TcpEndpointConnection) : Prop :=
  ∃ handle record, cache.records handle = some record ∧ record.endpoint = endpoint ∧
    record.established = true

theorem any_lookup_established (exact : LookupExact cache.records cache.lookup)
    (endpoint : TcpEndpointConnection) :
    ((cache.lookup (lookupKey endpoint)).any fun handles => handles.toList.any fun handle =>
      cache.endpoints[handle]?.any fun record =>
        record.endpoint == endpoint && record.established) = true ↔
      cache.EstablishedAs endpoint := by
  have listed := exact.members (lookupKey endpoint)
  have unfolded : ((cache.lookup (lookupKey endpoint)).any fun handles =>
      handles.toList.any fun handle => cache.endpoints[handle]?.any fun record =>
        record.endpoint == endpoint && record.established) =
      (handlesOf cache.lookup (lookupKey endpoint)).any fun handle =>
        cache.endpoints[handle]?.any fun record =>
          record.endpoint == endpoint && record.established := by
    unfold handlesOf
    cases cache.lookup (lookupKey endpoint) <;> rfl
  rw [unfolded, List.any_eq_true]
  constructor
  · rintro ⟨handle, member, matched⟩
    obtain ⟨record, stored, _⟩ := (listed handle).mp member
    have here : cache.endpoints[handle]? = some record := stored
    rw [here] at matched
    simp only [Option.any_some, Bool.and_eq_true, beq_iff_eq] at matched
    exact ⟨handle, record, stored, matched⟩
  · rintro ⟨handle, record, stored, rfl, established⟩
    refine ⟨handle, (listed handle).mpr ⟨record, stored, rfl⟩, ?_⟩
    have here : cache.endpoints[handle]? = some record := stored
    simp [here, established]

/-- An association changes nothing, fills in a missing parent, or adds a new handle. -/
inductive Associates (cache : TcpEndpointCache) (handle : Nat) (key : Key) (parent : Option Nat)
    (instanceId : Nat) (after : TcpEndpointCache) : Prop where
  | unchanged (same : after = cache)
      (known : handle ≠ 0 → instanceId ≠ 0 → cache.records handle ≠ none)
  | filled (existing : TcpEndpointRecord) (filledParent : Nat)
      (stored : cache.records handle = some existing)
      (same : existing.endpoint = ⟨key, none, instanceId⟩)
      (records : ∀ other, after.records other = if other = handle then
        some { existing with endpoint := ⟨key, some filledParent, instanceId⟩ }
        else cache.records other)
  | added (record : TcpEndpointRecord) (valid : handle ≠ 0 ∧ instanceId ≠ 0)
      (absent : cache.records handle = none)
      (endpoint : record.endpoint = ⟨key, parent, instanceId⟩)
      (inherits : record.established = true ↔ cache.EstablishedAs ⟨key, parent, instanceId⟩)
      (records : ∀ other, after.records other = if other = handle then some record
        else cache.records other)

theorem records_insert (endpoints : Std.TreeMap Nat TcpEndpointRecord)
    (lookup after : LookupIndex) (handle : Nat) (record : TcpEndpointRecord) (other : Nat) :
    records ⟨endpoints.insert handle record, after⟩ other =
      if other = handle then some record else records ⟨endpoints, lookup⟩ other := by
  simp only [records, Std.TreeMap.getElem?_insert, Nat.compare_eq_eq]
  by_cases same : handle = other
  · simp [same]
  · simp [same, Ne.symm same]

theorem associates_associateInstanceAt (exact : LookupExact cache.records cache.lookup)
    (handle : Nat) (key : Key) (parent : Option Nat) (instanceId associatedAtMs : Nat) :
    Associates cache handle key parent instanceId
        (cache.associateInstanceAt handle key parent instanceId associatedAtMs).2 ∧
      LookupExact (cache.associateInstanceAt handle key parent instanceId associatedAtMs).2.records
        (cache.associateInstanceAt handle key parent instanceId associatedAtMs).2.lookup := by
  unfold associateInstanceAt
  split
  · rename_i invalid
    refine ⟨.unchanged rfl fun handleValid instanceValid => ?_, exact⟩
    exact absurd invalid (not_or.mpr ⟨handleValid, instanceValid⟩)
  · rename_i valid
    rw [not_or] at valid
    cases stored : cache.endpoints[handle]? with
    | some existing =>
        have known : cache.records handle ≠ none := by simp [records, stored]
        simp only
        split
        · exact ⟨.unchanged rfl fun _ _ => known, exact⟩
        · rename_i same
          rw [not_or, Decidable.not_not, Decidable.not_not] at same
          split
          · exact ⟨.unchanged rfl fun _ _ => known, exact⟩
          · rename_i filledParent missing
            have before : existing.endpoint = ⟨key, none, instanceId⟩ := by
              rw [← same.1, ← same.2, ← missing]
            have inserted := records_insert cache.endpoints cache.lookup
              (addLookupHandle (removeLookupHandle cache.lookup (lookupKey existing.endpoint) handle)
                (lookupKey
                  { existing.endpoint with parentEndpointHandle := some filledParent }) handle)
              handle
              { existing with
                endpoint := { existing.endpoint with parentEndpointHandle := some filledParent } }
            refine ⟨.filled existing filledParent stored before ?_, ?_⟩
            · intro other
              rw [inserted, before]
            · have removed : LookupExact
                  (fun other => if other = handle then none else cache.records other)
                  (removeLookupHandle cache.lookup (lookupKey existing.endpoint) handle) :=
                exact.remove stored fun _ => rfl
              refine removed.insert (if_pos rfl)
                { existing with
                  endpoint := { existing.endpoint with parentEndpointHandle := some filledParent } }
                ?_
              intro other
              rw [inserted]
              split
              · rfl
              · rfl
          · exact ⟨.unchanged rfl fun _ _ => known, exact⟩
    | none =>
        have inserted := records_insert cache.endpoints cache.lookup
          (addLookupHandle cache.lookup (lookupKey ⟨key, parent, instanceId⟩) handle) handle
        refine ⟨.added _ valid stored ?_ ?_ (inserted _), exact.insert stored _ (inserted _)⟩
        · rfl
        · exact any_lookup_established exact ⟨key, parent, instanceId⟩

/-- A rebind is accepted when the handle is free or stands for the same endpoint. -/
def AcceptsRebind (cache : TcpEndpointCache) (handle : Nat) (endpoint : TcpEndpointConnection) :
    Prop :=
  handle ≠ 0 ∧ endpoint.instanceId ≠ 0 ∧
    ∀ record, cache.records handle = some record → record.endpoint = endpoint

theorem rebindEstablished_of_rejected {handle : Nat} {endpoint : TcpEndpointConnection}
    (rejected : ¬ cache.AcceptsRebind handle endpoint) :
    cache.rebindEstablished handle endpoint = (false, cache) := by
  unfold rebindEstablished
  split
  · rfl
  · rename_i valid
    rw [not_or] at valid
    refine if_pos ?_
    cases stored : cache.endpoints[handle]? with
    | none =>
        refine absurd ⟨valid.1, valid.2, fun record found => ?_⟩ rejected
        simp [records, stored] at found
    | some existing =>
        simp only [Option.any_some, bne_iff_ne, ne_eq]
        rintro same
        refine rejected ⟨valid.1, valid.2, fun record found => ?_⟩
        rw [records, stored, Option.some.injEq] at found
        rw [← found, same]

theorem rebindEstablished_of_accepted (exact : LookupExact cache.records cache.lookup) {handle : Nat}
    {endpoint : TcpEndpointConnection} (accepted : cache.AcceptsRebind handle endpoint) :
    (cache.rebindEstablished handle endpoint).1 = true ∧
      (∀ other, (cache.rebindEstablished handle endpoint).2.records other =
        if other = handle then some ⟨endpoint, true, 0⟩
        else (cache.records other).filter fun record => record.endpoint != endpoint) ∧
      LookupExact (cache.rebindEstablished handle endpoint).2.records
        (cache.rebindEstablished handle endpoint).2.lookup := by
  obtain ⟨handleValid, instanceValid, free⟩ := accepted
  have unrelated : ¬ (cache.endpoints[handle]?.any fun existing =>
      existing.endpoint != endpoint) = true := by
    cases stored : cache.endpoints[handle]? with
    | none => simp
    | some existing => simp [free existing stored]
  have gone : (cache.removeEndpointAliases endpoint).records handle = none := by
    rw [records_removeEndpointAliases exact]
    cases stored : cache.records handle with
    | none => rfl
    | some existing => simp [free existing stored, Option.filter_some]
  have inserted := records_insert (cache.removeEndpointAliases endpoint).endpoints
    (cache.removeEndpointAliases endpoint).lookup
    (addLookupHandle (cache.removeEndpointAliases endpoint).lookup (lookupKey endpoint) handle)
    handle ⟨endpoint, true, 0⟩
  unfold rebindEstablished
  rw [if_neg (not_or.mpr ⟨handleValid, instanceValid⟩), if_neg unrelated]
  refine ⟨rfl, fun other => ?_, ?_⟩
  · refine (inserted other).trans ?_
    split
    · rfl
    · exact records_removeEndpointAliases exact endpoint other
  · exact (lookupExact_removeEndpointAliases exact endpoint).insert gone _ inserted

def Expires (cutoffMs : Nat) (shouldExpire : TcpEndpointConnection → Bool)
    (record : TcpEndpointRecord) : Prop :=
  record.established = false ∧ record.associatedAtMs ≠ 0 ∧ record.associatedAtMs ≤ cutoffMs ∧
    shouldExpire record.endpoint = true

theorem mem_takeUnestablishedBefore (cache : TcpEndpointCache) (cutoffMs : Nat)
    (shouldExpire : TcpEndpointConnection → Bool) (endpoint : TcpEndpointConnection) :
    endpoint ∈ (cache.takeUnestablishedBefore cutoffMs shouldExpire).1 ↔
      ∃ handle record, cache.records handle = some record ∧
        Expires cutoffMs shouldExpire record ∧ record.endpoint = endpoint := by
  unfold takeUnestablishedBefore
  simp only [apply_ite Prod.fst, ite_self, List.mem_mergeSort, List.mem_eraseDups, List.mem_map,
    List.mem_filter, Bool.and_eq_true, bne_iff_ne, decide_eq_true_eq, Bool.not_eq_true']
  constructor
  · rintro ⟨⟨handle, record⟩, ⟨member, ⟨⟨pending, timed⟩, old⟩, selected⟩, rfl⟩
    exact ⟨handle, record, Std.TreeMap.mem_toList_iff_getElem?_eq_some.mp member,
      ⟨pending, timed, old, selected⟩, rfl⟩
  · rintro ⟨handle, record, stored, ⟨pending, timed, old, selected⟩, rfl⟩
    exact ⟨(handle, record), ⟨Std.TreeMap.mem_toList_iff_getElem?_eq_some.mpr stored,
      ⟨⟨pending, timed⟩, old⟩, selected⟩, rfl⟩

theorem records_takeUnestablishedBefore (cache : TcpEndpointCache) (cutoffMs : Nat)
    (shouldExpire : TcpEndpointConnection → Bool) (handle : Nat) :
    (cache.takeUnestablishedBefore cutoffMs shouldExpire).2.records handle =
      (cache.records handle).filter fun record =>
        !(cache.takeUnestablishedBefore cutoffMs shouldExpire).1.contains record.endpoint := by
  unfold takeUnestablishedBefore
  simp only
  split
  · rename_i nothing
    rw [List.isEmpty_iff] at nothing
    simp only [nothing, List.contains_nil, Bool.not_false]
    cases cache.records handle <;> rfl
  · simp only [records, Std.TreeMap.getElem?_filter']

theorem lookupExact_takeUnestablishedBefore (exact : LookupExact cache.records cache.lookup)
    (cutoffMs : Nat) (shouldExpire : TcpEndpointConnection → Bool) :
    LookupExact (cache.takeUnestablishedBefore cutoffMs shouldExpire).2.records
      (cache.takeUnestablishedBefore cutoffMs shouldExpire).2.lookup := by
  unfold takeUnestablishedBefore
  simp only
  split
  · exact exact
  · exact lookupExact_rebuildLookup _

end TcpEndpointCache

end WindowsKext
