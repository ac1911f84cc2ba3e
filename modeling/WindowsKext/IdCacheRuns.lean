import WindowsKext.IdCacheChecks

/-! Runs of the request queue. `issued` counts the ids of a run and `handedOut` lists the ids that
left the queue. -/

namespace WindowsKext

open ByteString FirstMatch InstanceIndex

def Packet.requests : Packet → List Packet
  | .networkBatch nbls injectInfo => nbls.map fun nbl => .network nbl injectInfo
  | packet => [packet]

def PendingContext.entriesFrom (context : PendingContext) : Nat → List Packet → List Entry
  | _, [] => []
  | id, packet :: rest =>
      { id := id
        value := {
          key := context.key
          packet := packet
          connectionInstanceId := context.connectionInstanceId } } ::
        context.entriesFrom (id + 1) rest

section Push

variable (context : PendingContext)

theorem ids_entriesFrom (id : Nat) (packets : List Packet) :
    (context.entriesFrom id packets).map Entry.id = List.range' id packets.length := by
  induction packets generalizing id with
  | nil => rfl
  | cons packet rest ih =>
      rw [PendingContext.entriesFrom, List.map_cons, ih, List.length_cons, List.range'_succ]

theorem packets_entriesFrom (id : Nat) (packets : List Packet) :
    (context.entriesFrom id packets).map (fun entry => entry.value.packet) = packets := by
  induction packets generalizing id with
  | nil => rfl
  | cons packet rest ih => rw [PendingContext.entriesFrom, List.map_cons, ih]

theorem mem_entriesFrom {id : Nat} {packets : List Packet} {entry : Entry}
    (member : entry ∈ context.entriesFrom id packets) :
    entry.value.key = context.key ∧
      entry.value.connectionInstanceId = context.connectionInstanceId ∧
      entry.value.packet ∈ packets ∧ id ≤ entry.id ∧ entry.id < id + packets.length := by
  induction packets generalizing id with
  | nil => cases member
  | cons packet rest ih =>
      rw [PendingContext.entriesFrom] at member
      rcases List.mem_cons.mp member with rfl | later
      · exact ⟨rfl, rfl, List.mem_cons_self, Nat.le_refl id, by simp⟩
      · obtain ⟨key, instanceId, packet, lower, upper⟩ := ih later
        refine ⟨key, instanceId, List.mem_cons_of_mem _ packet, by omega, ?_⟩
        rw [List.length_cons]
        omega

theorem pushPackets_mixed (mixed : sameFamily context.key.localAddress
    context.key.remoteAddress = false) (cache : IdCache) (packets : List Packet) :
    cache.pushPackets context packets = ([], cache) := by
  induction packets with
  | nil => rfl
  | cons packet rest ih =>
      have rejected : cache.pushPacket packet context = (none, cache) := by
        simp [IdCache.pushPacket, buildInfo, mixed]
      simp only [IdCache.pushPackets, rejected, ih]
      rfl

theorem pushPackets_same (family : sameFamily context.key.localAddress
    context.key.remoteAddress = true) {cache : IdCache} {issued : Nat} {packets : List Packet}
    (next : cache.nextId = (issued + 1) % 2 ^ 64) (room : issued + packets.length < 2 ^ 64) :
    (cache.pushPackets context packets).1.map Prod.fst =
        List.range' (issued + 1) packets.length ∧
      (cache.pushPackets context packets).2 =
        { cache with
          values := cache.values ++ context.entriesFrom (issued + 1) packets
          nextId := (issued + packets.length + 1) % 2 ^ 64 } := by
  induction packets generalizing cache issued with
  | nil =>
      refine ⟨rfl, ?_⟩
      rw [List.length_nil, Nat.add_zero, ← next, PendingContext.entriesFrom, List.append_nil]
      rfl
  | cons packet rest ih =>
      rw [List.length_cons] at room
      have first : cache.nextId = issued + 1 := by
        rw [next, Nat.mod_eq_of_lt (by omega)]
      obtain ⟨info, pushed⟩ : ∃ info, cache.pushPacket packet context =
          (some (issued + 1, info),
            { cache with
              values := cache.values ++ context.entriesFrom (issued + 1) [packet]
              nextId := (issued + 1 + 1) % 2 ^ 64 }) := by
        simp [IdCache.pushPacket, buildInfo, family, first, PendingContext.entriesFrom]
      obtain ⟨ids, after⟩ := @ih { cache with
        values := cache.values ++ context.entriesFrom (issued + 1) [packet]
        nextId := (issued + 1 + 1) % 2 ^ 64 } (issued + 1) rfl (by omega)
      simp only [IdCache.pushPackets, pushed]
      refine ⟨?_, ?_⟩
      · rw [List.map_append, ids, List.length_cons, List.range'_succ]
        rfl
      · rw [after]
        simp only [PendingContext.entriesFrom, List.append_assoc, List.singleton_append,
          List.length_cons]
        rw [show issued + 1 + rest.length + 1 = issued + (rest.length + 1) + 1 by omega]

variable (connectionInstanceId : Option Nat) (threadId : Nat)

/-- Indexing leaves the queue alone, and appends the ids to those of their instance. -/
structure Indexes (ids : List Nat) (before after : IdCache) : Prop where
  values : after.values = before.values
  active : after.active = before.active
  nextId : after.nextId = before.nextId
  index : ∀ instanceId, idsOf after.pendingByInstance instanceId =
    idsOf before.pendingByInstance instanceId ++
      if connectionInstanceId = some instanceId ∧ instanceId ≠ 0 then ids else []
  occupied : Occupied before.pendingByInstance → Occupied after.pendingByInstance
  recorded : ∀ id ∈ ids, threadId ≠ 0 → after.threadIdByRequest[id]? = some threadId
  unrecorded : ∀ id : Nat, id ∉ ids ∨ threadId = 0 →
    after.threadIdByRequest[id]? = before.threadIdByRequest[id]?

theorem indexes_indexRequest (cache : IdCache) (queued : Nat × ConnectionRequest) :
    Indexes connectionInstanceId threadId [queued.1] cache
      (IdCache.indexRequest connectionInstanceId threadId cache queued) where
  values := rfl
  active := rfl
  nextId := rfl
  index := idsOf_addPendingRequest connectionInstanceId queued.1
  occupied occupied := occupied_addPendingRequest occupied connectionInstanceId queued.1
  recorded := by
    intro id member nonzero
    have present : (threadId != 0) = true := by simpa using nonzero
    rw [List.mem_singleton] at member
    simp [IdCache.indexRequest, present, member]
  unrecorded := by
    intro id other
    cases present : threadId != 0 with
    | false => simp [IdCache.indexRequest, present]
    | true =>
        have different : ¬ queued.1 = id := by
          rcases other with absent | zero
          · simpa using Ne.symm (List.ne_of_not_mem_cons absent)
          · simp [zero] at present
        simp [IdCache.indexRequest, present, Std.TreeMap.getElem?_insert, different]

theorem indexes_foldl (cache : IdCache) (queued : List (Nat × ConnectionRequest)) :
    Indexes connectionInstanceId threadId (queued.map Prod.fst) cache
      (queued.foldl (IdCache.indexRequest connectionInstanceId threadId) cache) := by
  induction queued generalizing cache with
  | nil =>
      refine ⟨rfl, rfl, rfl, ?_, fun occupied => occupied, ?_, fun _ _ => rfl⟩
      · intro instanceId
        simp
      · intro id member
        cases member
  | cons first rest ih =>
      have head := indexes_indexRequest connectionInstanceId threadId cache first
      have tail := ih (IdCache.indexRequest connectionInstanceId threadId cache first)
      refine ⟨tail.values.trans head.values, tail.active.trans head.active,
        tail.nextId.trans head.nextId, ?_, fun occupied => tail.occupied (head.occupied occupied),
        ?_, ?_⟩
      · intro instanceId
        rw [List.foldl_cons, tail.index, head.index, List.append_assoc]
        split <;> simp
      · intro id member nonzero
        by_cases later : id ∈ rest.map Prod.fst
        · exact tail.recorded id later nonzero
        · rw [List.foldl_cons, tail.unrecorded id (.inl later)]
          refine head.recorded id ?_ nonzero
          rw [List.map_cons, List.mem_cons] at member
          exact List.mem_singleton.mpr (member.resolve_right later)
      · intro id other
        rw [List.foldl_cons, tail.unrecorded id, head.unrecorded id]
        · refine other.imp_left fun absent => ?_
          rw [List.mem_singleton]
          rintro rfl
          exact absent List.mem_cons_self
        · exact other.imp_left fun absent later => absent (List.mem_cons_of_mem _ later)

end Push

structure QueueInvariant (cache : IdCache) (issued : Nat) : Prop where
  sorted : (cache.values.map Entry.id).Pairwise (· < ·)
  range : ∀ entry ∈ cache.values, 1 ≤ entry.id ∧ entry.id ≤ issued
  nextId : cache.nextId = (issued + 1) % 2 ^ 64
  indexed : IndexExact cache
  activeIssued : ∀ id ∈ cache.active, 1 ≤ id ∧ id ≤ issued
  activeClaimed : ∀ id ∈ cache.active, ∀ entry ∈ cache.values, entry.id ≠ id
  threads : ∀ id ∈ cache.threadIdByRequest,
    (∃ entry ∈ cache.values, entry.id = id) ∨ id ∈ cache.active

namespace QueueInvariant

variable {cache : IdCache} {issued : Nat}

theorem distinct (invariant : QueueInvariant cache issued) :
    (cache.values.map Entry.id).Nodup := invariant.sorted.imp Nat.ne_of_lt

theorem new : QueueInvariant IdCache.new 0 where
  sorted := .nil
  range := by simp [IdCache.new]
  nextId := rfl
  indexed := {
    occupied := occupied_empty
    exact := fun instanceId _ => idsOf_empty instanceId }
  activeIssued := by simp [IdCache.new]
  activeClaimed := by simp [IdCache.new]
  threads := by simp [IdCache.new]

end QueueInvariant

section Push

variable {cache : IdCache} {issued : Nat} {key : Key} {packet : Packet}
  {connectionInstanceId : Option Nat} {processId threadId : Nat} {direction : Direction}
  {aleLayer : Bool}

def pushContext (key : Key) (connectionInstanceId : Option Nat) (processId : Nat)
    (direction : Direction) (aleLayer : Bool) : PendingContext where
  key := key
  connectionInstanceId := connectionInstanceId
  processId := processId
  direction := direction
  aleLayer := aleLayer

theorem push_eq (cache : IdCache) (key : Key) (packet : Packet) (connectionInstanceId : Option Nat)
    (processId threadId : Nat) (direction : Direction) (aleLayer : Bool) :
    cache.push key packet connectionInstanceId processId threadId direction aleLayer =
      ((cache.pushPackets (pushContext key connectionInstanceId processId direction aleLayer)
          packet.requests).1,
        (cache.pushPackets (pushContext key connectionInstanceId processId direction aleLayer)
          packet.requests).1.foldl (IdCache.indexRequest connectionInstanceId threadId)
          (cache.pushPackets (pushContext key connectionInstanceId processId direction aleLayer)
            packet.requests).2) := by
  cases packet <;> rfl

theorem push_mixed (mixed : sameFamily key.localAddress key.remoteAddress = false) :
    cache.push key packet connectionInstanceId processId threadId direction aleLayer =
      ([], cache) := by
  rw [push_eq, pushPackets_mixed _ mixed]
  rfl

theorem mem_values_push {entry : Entry}
    (member : entry ∈ (cache.push key packet connectionInstanceId processId threadId direction
      aleLayer).2.values) :
    entry ∈ cache.values ∨ entry.value.packet ∈ packet.requests := by
  rw [push_eq, (indexes_foldl connectionInstanceId threadId _ _).values] at member
  generalize packet.requests = packets at *
  generalize pushContext key connectionInstanceId processId direction aleLayer = context at *
  induction packets generalizing cache with
  | nil => exact .inl member
  | cons first rest ih =>
      simp only [IdCache.pushPackets] at member
      rcases ih member with pushed | later
      · simp only [IdCache.pushPacket] at pushed
        split at pushed
        · exact .inl pushed
        · rcases List.mem_append.mp pushed with old | new
          · exact .inl old
          · rw [List.mem_singleton.mp new]
            exact .inr List.mem_cons_self
      · exact .inr (List.mem_cons_of_mem _ later)

structure Pushes (packets : List Packet) (connectionInstanceId : Option Nat) (threadId : Nat)
    (entries : List Entry) (before : IdCache) (issued : Nat)
    (result : List (Nat × ConnectionRequest) × IdCache) : Prop where
  ids : result.1.map Prod.fst = List.range' (issued + 1) packets.length
  values : result.2.values = before.values ++ entries
  entryIds : entries.map Entry.id = List.range' (issued + 1) packets.length
  entryPackets : entries.map (fun entry => entry.value.packet) = packets
  bound : ∀ entry ∈ entries, entry.value.connectionInstanceId = connectionInstanceId
  nextId : result.2.nextId = (issued + packets.length + 1) % 2 ^ 64
  active : result.2.active = before.active
  index : ∀ instanceId, idsOf result.2.pendingByInstance instanceId =
    idsOf before.pendingByInstance instanceId ++
      if connectionInstanceId = some instanceId ∧ instanceId ≠ 0 then
        List.range' (issued + 1) packets.length
      else []
  occupied : Occupied before.pendingByInstance → Occupied result.2.pendingByInstance
  recorded : ∀ id ∈ List.range' (issued + 1) packets.length, threadId ≠ 0 →
    result.2.threadIdByRequest[id]? = some threadId
  unrecorded : ∀ id : Nat, id ∉ List.range' (issued + 1) packets.length ∨ threadId = 0 →
    result.2.threadIdByRequest[id]? = before.threadIdByRequest[id]?

theorem pushes_push (next : cache.nextId = (issued + 1) % 2 ^ 64)
    (room : issued + packet.requests.length < 2 ^ 64)
    (family : sameFamily key.localAddress key.remoteAddress = true) :
    Pushes packet.requests connectionInstanceId threadId
      ((pushContext key connectionInstanceId processId direction aleLayer).entriesFrom (issued + 1)
        packet.requests) cache issued
      (cache.push key packet connectionInstanceId processId threadId direction aleLayer) := by
  rw [push_eq]
  generalize requests : packet.requests = packets at *
  obtain ⟨ids, after⟩ := pushPackets_same
    (pushContext key connectionInstanceId processId direction aleLayer) family next room
  have indexes := indexes_foldl connectionInstanceId threadId
    (cache.pushPackets (pushContext key connectionInstanceId processId direction aleLayer)
      packets).2
    (cache.pushPackets (pushContext key connectionInstanceId processId direction aleLayer)
      packets).1
  rw [ids] at indexes
  exact {
    ids := ids
    values := indexes.values.trans (by rw [after])
    entryIds := ids_entriesFrom _ _ _
    entryPackets := packets_entriesFrom _ _ _
    bound := fun entry member => (mem_entriesFrom _ member).2.1
    nextId := indexes.nextId.trans (by rw [after])
    active := indexes.active.trans (by rw [after])
    index := fun instanceId => by rw [indexes.index, after]
    occupied := fun occupied => indexes.occupied (by rw [after]; exact occupied)
    recorded := indexes.recorded
    unrecorded := fun id other => by rw [indexes.unrecorded id other, after] }

theorem filter_boundTo_of_bound {entries : List Entry}
    (bound : ∀ entry ∈ entries, entry.value.connectionInstanceId = connectionInstanceId)
    (instanceId : Nat) :
    entries.filter (Entry.boundTo instanceId) =
      if connectionInstanceId = some instanceId then entries else [] := by
  split
  · rename_i same
    rw [List.filter_eq_self]
    intro entry member
    simp [Entry.boundTo, bound entry member, same]
  · rename_i other
    rw [List.filter_eq_nil_iff]
    intro entry member
    simp [Entry.boundTo, bound entry member, other]

theorem QueueInvariant.push (invariant : QueueInvariant cache issued) {packets : List Packet}
    {entries : List Entry} {result : List (Nat × ConnectionRequest) × IdCache}
    (pushes : Pushes packets connectionInstanceId threadId entries cache issued result) :
    QueueInvariant result.2 (issued + packets.length) := by
  have fresh : ∀ entry ∈ entries, issued + 1 ≤ entry.id ∧
      entry.id ≤ issued + packets.length := by
    intro entry member
    have inRange : entry.id ∈ List.range' (issued + 1) packets.length :=
      pushes.entryIds ▸ List.mem_map_of_mem member
    rw [List.mem_range'_1] at inRange
    omega
  refine ⟨?_, ?_, pushes.nextId, ⟨pushes.occupied invariant.indexed.occupied, ?_⟩, ?_, ?_, ?_⟩
  · rw [pushes.values, List.map_append, List.pairwise_append]
    refine ⟨invariant.sorted, ?_, ?_⟩
    · rw [pushes.entryIds]
      exact List.pairwise_lt_range'
    · intro old oldMember new newMember
      obtain ⟨oldEntry, oldQueued, rfl⟩ := List.mem_map.mp oldMember
      obtain ⟨newEntry, newQueued, rfl⟩ := List.mem_map.mp newMember
      have upper := (invariant.range oldEntry oldQueued).2
      have lower := (fresh newEntry newQueued).1
      omega
  · intro entry member
    rw [pushes.values, List.mem_append] at member
    rcases member with old | new
    · have bounds := invariant.range entry old
      omega
    · have bounds := fresh entry new
      omega
  · intro instanceId nonzero
    rw [pushes.index, pushes.values, List.filter_append, List.map_append,
      filter_boundTo_of_bound pushes.bound, invariant.indexed.exact instanceId nonzero]
    simp only [nonzero, not_false_eq_true, ne_eq, and_true]
    split
    · rw [pushes.entryIds]
    · rfl
  · intro id member
    rw [pushes.active] at member
    have bounds := invariant.activeIssued id member
    omega
  · intro id member entry queued
    rw [pushes.active] at member
    rw [pushes.values, List.mem_append] at queued
    rcases queued with old | new
    · exact invariant.activeClaimed id member entry old
    · have lower := (fresh entry new).1
      have upper := (invariant.activeIssued id member).2
      omega
  · intro id member
    rw [pushes.values, pushes.active]
    by_cases inRange : id ∈ List.range' (issued + 1) packets.length
    · rw [← pushes.entryIds] at inRange
      obtain ⟨entry, queued, same⟩ := List.mem_map.mp inRange
      exact .inl ⟨entry, List.mem_append_right _ queued, same⟩
    · rw [Std.TreeMap.mem_iff_isSome_getElem?, pushes.unrecorded id (.inl inRange),
        ← Std.TreeMap.mem_iff_isSome_getElem?] at member
      rcases invariant.threads id member with ⟨entry, queued, same⟩ | active
      · exact .inl ⟨entry, List.mem_append_left _ queued, same⟩
      · exact .inr active

end Push

section Claims

variable {cache : IdCache} {issued : Nat}

theorem popId_of_mem (invariant : QueueInvariant cache issued) {entry : Entry}
    (member : entry ∈ cache.values) :
    cache.popId entry.id = (some entry.value,
      { cache with
        values := cache.values.filter fun other => other.id != entry.id
        pendingByInstance := removePendingRequest cache.pendingByInstance
          entry.value.connectionInstanceId entry.id
        active := cache.active.insert entry.id
          { key := entry.value.key
            connectionInstanceId := entry.value.connectionInstanceId } }) := by
  unfold IdCache.popId
  rw [find?_of_mem invariant.distinct member]
  simp only
  rw [eraseP_eq_filter invariant.distinct]

theorem popId_of_absent {id : Nat} (absent : ∀ entry ∈ cache.values, entry.id ≠ id) :
    cache.popId id = (none, cache) := by
  have missing : cache.values.find? (fun entry => entry.id == id) = none := by
    rw [List.find?_eq_none]
    intro entry member
    simpa using absent entry member
  simp [IdCache.popId, missing]

theorem QueueInvariant.popId (invariant : QueueInvariant cache issued) (id : Nat) :
    QueueInvariant (cache.popId id).2 issued := by
  by_cases queued : ∃ entry ∈ cache.values, entry.id = id
  · obtain ⟨entry, member, rfl⟩ := queued
    rw [popId_of_mem invariant member]
    have sublist : (cache.values.filter fun other => other.id != entry.id).Sublist cache.values :=
      List.filter_sublist
    refine ⟨?_, ?_, invariant.nextId,
      ⟨occupied_removePendingRequest invariant.indexed.occupied _ _, ?_⟩, ?_, ?_, ?_⟩
    · exact invariant.sorted.sublist (sublist.map Entry.id)
    · intro other kept
      exact invariant.range other (sublist.subset kept)
    · intro instanceId nonzero
      rw [idsOf_removePendingRequest invariant.indexed.occupied,
        invariant.indexed.exact instanceId nonzero]
      have distinctBound : ((cache.values.filter (Entry.boundTo instanceId)).map Entry.id).Nodup :=
        (List.filter_sublist.map Entry.id).nodup invariant.distinct
      have erased : ((cache.values.filter fun other => other.id != entry.id).filter
          (Entry.boundTo instanceId)).map Entry.id =
            ((cache.values.filter (Entry.boundTo instanceId)).map Entry.id).erase entry.id := by
        rw [distinctBound.erase_eq_filter, List.filter_map, List.filter_filter, List.filter_filter]
        congr 1
        exact List.filter_congr fun other _ => Bool.and_comm _ _
      dsimp only
      rw [erased]
      split
      · rfl
      · rename_i other
        rw [List.erase_of_not_mem]
        intro again
        obtain ⟨twin, inFilter, same⟩ := List.mem_map.mp again
        rw [List.mem_filter] at inFilter
        have first := find?_of_mem invariant.distinct inFilter.1
        rw [same, find?_of_mem invariant.distinct member] at first
        cases first
        exact other (by simpa [Entry.boundTo] using inFilter.2)
    · intro other active
      rw [Std.TreeMap.mem_insert, Nat.compare_eq_eq] at active
      rcases active with rfl | old
      · exact invariant.range entry member
      · exact invariant.activeIssued other old
    · intro other active kept inFilter
      rw [List.mem_filter] at inFilter
      rw [Std.TreeMap.mem_insert, Nat.compare_eq_eq] at active
      rcases active with rfl | old
      · simpa using inFilter.2
      · exact invariant.activeClaimed other old kept inFilter.1
    · intro other recorded
      rcases invariant.threads other recorded with ⟨kept, inValues, rfl⟩ | active
      · by_cases same : kept.id = entry.id
        · right
          rw [Std.TreeMap.mem_insert, Nat.compare_eq_eq]
          exact .inl same.symm
        · exact .inl ⟨kept, List.mem_filter.mpr ⟨inValues, by simpa using same⟩, rfl⟩
      · right
        rw [Std.TreeMap.mem_insert]
        exact .inr active
  · rw [popId_of_absent fun entry member same => queued ⟨entry, member, same⟩]
    exact invariant

theorem QueueInvariant.finishId (invariant : QueueInvariant cache issued) (id : Nat) :
    QueueInvariant (cache.finishId id) issued where
  sorted := invariant.sorted
  range := invariant.range
  nextId := invariant.nextId
  indexed := ⟨invariant.indexed.occupied, invariant.indexed.exact⟩
  activeIssued other active := invariant.activeIssued other (Std.TreeMap.mem_of_mem_erase active)
  activeClaimed other active := invariant.activeClaimed other (Std.TreeMap.mem_of_mem_erase active)
  threads := by
    intro other recorded
    unfold IdCache.finishId at recorded ⊢
    rw [Std.TreeMap.mem_erase] at recorded
    rcases invariant.threads other recorded.2 with queued | active
    · exact .inl queued
    · exact .inr (Std.TreeMap.mem_erase.mpr ⟨recorded.1, active⟩)

theorem QueueInvariant.popAll (invariant : QueueInvariant cache issued) :
    QueueInvariant cache.popAll.2 issued where
  sorted := .nil
  range := by simp [IdCache.popAll]
  nextId := invariant.nextId
  indexed := {
    occupied := occupied_empty
    exact := fun instanceId _ => idsOf_empty instanceId }
  activeIssued := invariant.activeIssued
  activeClaimed := by simp [IdCache.popAll]
  threads := by simp [IdCache.popAll]

end Claims

section Retired

variable {cache : IdCache} {issued : Nat} {instanceIds : List Nat}
  {result : List Entry × IdCache}

theorem Retires.mem_values (retires : Retires instanceIds cache result) {entry : Entry}
    (member : entry ∈ result.2.values) :
    ∃ original ∈ cache.values, entry.id = original.id ∧
      ((original.listedIn instanceIds = false ∧ entry = original) ∨
        (original.listedIn instanceIds = true ∧ original.survives = true ∧
          entry = original.detach)) := by
  rw [retires.values] at member
  obtain ⟨original, inValues, kept⟩ := List.mem_filterMap.mp member
  refine ⟨original, inValues, ?_⟩
  cases listed : original.listedIn instanceIds with
  | false =>
      rw [listed, if_neg Bool.false_ne_true] at kept
      cases kept
      exact ⟨rfl, .inl ⟨rfl, rfl⟩⟩
  | true =>
      rw [listed, if_pos rfl, Entry.retire] at kept
      split at kept
      · rename_i survives
        cases kept
        exact ⟨rfl, .inr ⟨rfl, survives, rfl⟩⟩
      · cases kept

theorem Retires.mem_of_kept (retires : Retires instanceIds cache result) {entry : Entry}
    (member : entry ∈ cache.values)
    (kept : entry.listedIn instanceIds = false ∨ entry.survives = true) :
    ∃ left ∈ result.2.values, left.id = entry.id := by
  rw [retires.values]
  cases listed : entry.listedIn instanceIds with
  | false => exact ⟨entry, List.mem_filterMap.mpr ⟨entry, member, by simp [listed]⟩, rfl⟩
  | true =>
      have survives : entry.survives = true := kept.resolve_left (by simp [listed])
      exact ⟨entry.detach,
        List.mem_filterMap.mpr ⟨entry, member, by simp [listed, Entry.retire, survives]⟩, rfl⟩

theorem Retires.perm (retires : Retires instanceIds cache result) :
    (result.2.values.map Entry.id ++ result.1.map Entry.id).Perm (cache.values.map Entry.id) := by
  rw [retires.values, retires.removed]
  generalize cache.values = values
  induction values with
  | nil => exact .nil
  | cons entry rest ih =>
      cases listed : entry.listedIn instanceIds with
      | false => simpa [List.filterMap_cons, listed] using ih.cons entry.id
      | true =>
          cases survives : entry.survives with
          | true =>
              simpa [List.filterMap_cons, listed, Entry.retire, survives, Entry.detach] using
                ih.cons entry.id
          | false =>
              simp only [List.filterMap_cons, listed, ↓reduceIte, Entry.retire, survives,
                Bool.false_eq_true, Bool.not_false, Bool.and_true, List.filter_cons_of_pos,
                List.map_cons]
              exact List.perm_middle.trans (ih.cons entry.id)

theorem Retires.ids_sublist (retires : Retires instanceIds cache result) :
    (result.2.values.map Entry.id).Sublist (cache.values.map Entry.id) := by
  rw [retires.values]
  generalize cache.values = values
  induction values with
  | nil => exact .slnil
  | cons entry rest ih =>
      cases listed : entry.listedIn instanceIds with
      | false => simpa [List.filterMap_cons, listed] using ih
      | true =>
          cases survives : entry.survives with
          | true =>
              simpa [List.filterMap_cons, listed, Entry.retire, survives, Entry.detach] using ih
          | false =>
              simpa [List.filterMap_cons, listed, Entry.retire, survives] using ih.cons entry.id

theorem Retires.filter_boundTo_listed (retires : Retires instanceIds cache result) {instanceId : Nat}
    (listed : instanceId ∈ instanceIds) :
    result.2.values.filter (Entry.boundTo instanceId) = [] := by
  rw [List.filter_eq_nil_iff]
  intro entry member bound
  obtain ⟨original, _, _, ⟨other, rfl⟩ | ⟨_, _, rfl⟩⟩ := retires.mem_values member
  · rw [(Entry.listedIn_iff instanceIds entry).mpr ⟨instanceId, listed, bound⟩] at other
    cases other
  · simp [Entry.boundTo, Entry.detach] at bound

theorem Retires.filter_boundTo_other (retires : Retires instanceIds cache result) {instanceId : Nat}
    (unlisted : instanceId ∉ instanceIds) :
    result.2.values.filter (Entry.boundTo instanceId) =
      cache.values.filter (Entry.boundTo instanceId) := by
  rw [retires.values, List.filter_filterMap, ← List.filterMap_eq_filter]
  refine List.filterMap_congr fun entry _ => ?_
  cases found : entry.listedIn instanceIds with
  | false => simp [Option.guard, Option.filter]
  | true =>
      obtain ⟨owner, inList, bound⟩ := (Entry.listedIn_iff instanceIds entry).mp found
      have other : entry.boundTo instanceId = false := by
        cases again : entry.boundTo instanceId with
        | false => rfl
        | true =>
            have same := (Entry.instanceOf_of_boundTo again).symm.trans
              (Entry.instanceOf_of_boundTo bound)
            exact absurd (same ▸ inList) unlisted
      have unowned : ¬ entry.value.connectionInstanceId = some instanceId := by
        simpa [Entry.boundTo] using other
      cases survives : entry.survives with
      | true => simp [Option.guard, unowned, Entry.retire, survives, Option.filter,
          Entry.boundTo, Entry.detach]
      | false => simp [Option.guard, other, Entry.retire, survives]

theorem Retires.indexExact (retires : Retires instanceIds cache result) (indexed : IndexExact cache) :
    IndexExact result.2 := by
  refine ⟨⟨?_, ?_⟩, ?_⟩
  · by_cases listed : (0 : Nat) ∈ instanceIds
    · exact retires.erased 0 listed
    · rw [retires.others 0 listed]
      exact indexed.occupied.nonzero
  · intro instanceId recorded stored
    by_cases listed : instanceId ∈ instanceIds
    · rw [retires.erased instanceId listed] at stored
      cases stored
    · rw [retires.others instanceId listed] at stored
      exact indexed.occupied.filled instanceId recorded stored
  · intro instanceId nonzero
    by_cases listed : instanceId ∈ instanceIds
    · rw [retires.filter_boundTo_listed listed, idsOf, retires.erased instanceId listed]
      rfl
    · rw [retires.filter_boundTo_other listed, idsOf, retires.others instanceId listed, ← idsOf]
      exact indexed.exact instanceId nonzero

theorem Retires.mem_threads (retires : Retires instanceIds cache result) {id : Nat}
    (recorded : id ∈ result.2.threadIdByRequest) :
    id ∈ cache.threadIdByRequest ∧ ∀ entry ∈ result.1, entry.id ≠ id := by
  have notRemoved : ∀ entry ∈ result.1, entry.id ≠ id := by
    rintro entry member rfl
    rw [Std.TreeMap.mem_iff_isSome_getElem?, retires.threads.gone entry member] at recorded
    cases recorded
  rw [Std.TreeMap.mem_iff_isSome_getElem?, retires.threads.kept id notRemoved,
    ← Std.TreeMap.mem_iff_isSome_getElem?] at recorded
  exact ⟨recorded, notRemoved⟩

theorem QueueInvariant.retire (invariant : QueueInvariant cache issued)
    (retires : Retires instanceIds cache result) : QueueInvariant result.2 issued := by
  refine ⟨invariant.sorted.sublist retires.ids_sublist, ?_, retires.nextId.trans invariant.nextId,
    retires.indexExact invariant.indexed, ?_, ?_, ?_⟩
  · intro entry member
    obtain ⟨original, inValues, same, _⟩ := retires.mem_values member
    rw [same]
    exact invariant.range original inValues
  · intro id active
    rw [retires.active] at active
    exact invariant.activeIssued id active
  · intro id active entry member
    rw [retires.active] at active
    obtain ⟨original, inValues, same, _⟩ := retires.mem_values member
    rw [same]
    exact invariant.activeClaimed id active original inValues
  · intro id recorded
    obtain ⟨wasRecorded, notRemoved⟩ := retires.mem_threads recorded
    rw [retires.active]
    rcases invariant.threads id wasRecorded with ⟨entry, member, rfl⟩ | active
    · left
      refine retires.mem_of_kept member ?_
      by_contra removed
      rw [not_or, Bool.not_eq_false, Bool.not_eq_true] at removed
      refine notRemoved entry ?_ rfl
      rw [retires.removed, List.mem_filter]
      exact ⟨member, by simp [removed.1, removed.2]⟩
    · exact .inr active

end Retired

/-- The instances of a lifecycle event, sorted by the caller. -/
structure SortedInstances where
  ids : List Nat
  sorted : ids.Pairwise (· ≤ ·)
  nonzero : 0 ∉ ids

inductive IdCacheOp where
  | push (key : Key) (packet : Packet) (connectionInstanceId : Option Nat)
      (processId threadId : Nat) (direction : Direction) (aleLayer : Bool)
  | popId (id : Nat)
  | finishId (id : Nat)
  | retireConnectionInstances (instances : SortedInstances)
  | popAll

structure IdCacheRun where
  cache : IdCache
  issued : Nat
  handedOut : List Nat

namespace IdCacheRun

def start : IdCacheRun where
  cache := IdCache.new
  issued := 0
  handedOut := []

def step (run : IdCacheRun) : IdCacheOp → IdCacheRun
  | .push key packet connectionInstanceId processId threadId direction aleLayer =>
      let (queued, cache) :=
        run.cache.push key packet connectionInstanceId processId threadId direction aleLayer
      { run with
        cache := cache
        issued := run.issued + queued.length }
  | .popId id =>
      let (pending, cache) := run.cache.popId id
      { run with
        cache := cache
        handedOut := if pending.isSome then run.handedOut ++ [id] else run.handedOut }
  | .finishId id => { run with cache := run.cache.finishId id }
  | .retireConnectionInstances instances =>
      let (removed, cache) := run.cache.retireConnectionInstances instances.ids
      { run with
        cache := cache
        handedOut := run.handedOut ++ removed.map Entry.id }
  | .popAll =>
      let (removed, cache) := run.cache.popAll
      { run with
        cache := cache
        handedOut := run.handedOut ++ removed.map Entry.id }

end IdCacheRun

def runIdCache (operations : List IdCacheOp) : IdCacheRun :=
  operations.foldl IdCacheRun.step IdCacheRun.start

/-- Every issued id is queued or was handed out, and that once. -/
structure IdCacheRun.Exact (run : IdCacheRun) : Prop where
  invariant : QueueInvariant run.cache run.issued
  once : (run.cache.values.map Entry.id ++ run.handedOut).Perm (List.range' 1 run.issued)

theorem exact_start : IdCacheRun.start.Exact := ⟨QueueInvariant.new, .nil⟩

theorem length_push (cache : IdCache) (key : Key) (packet : Packet)
    (connectionInstanceId : Option Nat) (processId threadId : Nat) (direction : Direction)
    (aleLayer : Bool) (family : sameFamily key.localAddress key.remoteAddress = true) :
    (cache.push key packet connectionInstanceId processId threadId direction
      aleLayer).1.length = packet.requests.length := by
  rw [push_eq]
  generalize packet.requests = packets
  induction packets generalizing cache with
  | nil => rfl
  | cons first rest ih =>
      have pushed : ∃ info after, cache.pushPacket first
          (pushContext key connectionInstanceId processId direction aleLayer) =
            (some info, after) := by
        simp [IdCache.pushPacket, buildInfo, pushContext, family]
      obtain ⟨info, after, pushed⟩ := pushed
      simp only [IdCache.pushPackets, pushed, Option.toList_some, List.singleton_append,
        List.length_cons]
      rw [ih after]

theorem QueueInvariant.step {run : IdCacheRun} (invariant : QueueInvariant run.cache run.issued)
    (operation : IdCacheOp) (room : (run.step operation).issued < 2 ^ 64) :
    QueueInvariant (run.step operation).cache (run.step operation).issued := by
  cases operation with
  | push key packet connectionInstanceId processId threadId direction aleLayer =>
      cases family : sameFamily key.localAddress key.remoteAddress with
      | false =>
          simp only [IdCacheRun.step, push_mixed family]
          exact invariant
      | true =>
          simp only [IdCacheRun.step, length_push _ _ _ _ _ _ _ _ family] at room ⊢
          exact invariant.push (pushes_push invariant.nextId room family)
  | popId id => exact invariant.popId id
  | finishId id => exact invariant.finishId id
  | retireConnectionInstances instances =>
      exact invariant.retire (retires_retireConnectionInstances invariant.sorted invariant.indexed
        instances.sorted instances.nonzero)
  | popAll => exact invariant.popAll

theorem IdCacheRun.Exact.step {run : IdCacheRun} (exact : run.Exact) (operation : IdCacheOp)
    (room : (run.step operation).issued < 2 ^ 64) : (run.step operation).Exact := by
  obtain ⟨invariant, once⟩ := exact
  refine ⟨invariant.step operation room, ?_⟩
  cases operation with
  | push key packet connectionInstanceId processId threadId direction aleLayer =>
      cases family : sameFamily key.localAddress key.remoteAddress with
      | false =>
          simp only [IdCacheRun.step, push_mixed family]
          exact once
      | true =>
          simp only [IdCacheRun.step, length_push _ _ _ _ _ _ _ _ family] at room ⊢
          have pushes := @pushes_push run.cache run.issued key packet connectionInstanceId processId
            threadId direction aleLayer invariant.nextId room family
          rw [pushes.values, List.map_append, pushes.entryIds, Nat.add_comm run.issued 1,
            ← List.range'_append_1, List.append_assoc]
          refine (List.perm_append_comm.append_left _).trans ?_
          rw [← List.append_assoc]
          exact once.append_right _
  | popId id =>
      by_cases queued : ∃ entry ∈ run.cache.values, entry.id = id
      · obtain ⟨entry, member, rfl⟩ := queued
        simp only [IdCacheRun.step, popId_of_mem invariant member, Option.isSome_some, ↓reduceIte]
        have erased : (run.cache.values.filter fun other => other.id != entry.id).map Entry.id =
            (run.cache.values.map Entry.id).erase entry.id := by
          rw [invariant.distinct.erase_eq_filter, List.filter_map]
          rfl
        rw [erased, ← List.append_assoc]
        refine List.perm_append_comm.trans (List.Perm.trans ?_ once)
        exact (List.perm_cons_erase (List.mem_map_of_mem member)).symm.append_right _
      · have absent := popId_of_absent fun entry member same => queued ⟨entry, member, same⟩
        simp only [IdCacheRun.step, absent, Option.isSome_none, Bool.false_eq_true, ↓reduceIte]
        exact once
  | finishId id => exact once
  | retireConnectionInstances instances =>
      have retires := retires_retireConnectionInstances invariant.sorted invariant.indexed
        instances.sorted instances.nonzero
      refine List.Perm.trans ?_ once
      simp only [IdCacheRun.step]
      refine (List.perm_append_comm.append_left _).trans ?_
      rw [← List.append_assoc]
      exact retires.perm.append_right _
  | popAll =>
      simp only [IdCacheRun.step, IdCache.popAll, List.map_nil, List.nil_append]
      exact List.perm_append_comm.trans once

theorem issued_le_step (run : IdCacheRun) (operation : IdCacheOp) :
    run.issued ≤ (run.step operation).issued := by
  cases operation <;> simp [IdCacheRun.step]

theorem issued_le_foldl (run : IdCacheRun) (operations : List IdCacheOp) :
    run.issued ≤ (operations.foldl IdCacheRun.step run).issued := by
  induction operations generalizing run with
  | nil => exact Nat.le_refl _
  | cons operation rest ih => exact Nat.le_trans (issued_le_step run operation) (ih _)

theorem IdCacheRun.Exact.foldl {run : IdCacheRun} (exact : run.Exact) (operations : List IdCacheOp)
    (room : (operations.foldl IdCacheRun.step run).issued < 2 ^ 64) :
    (operations.foldl IdCacheRun.step run).Exact := by
  induction operations generalizing run with
  | nil => exact exact
  | cons operation rest ih =>
      refine ih (exact.step operation ?_) room
      exact Nat.lt_of_le_of_lt (issued_le_foldl _ rest) room

theorem exact_runIdCache {operations : List IdCacheOp}
    (room : (runIdCache operations).issued < 2 ^ 64) : (runIdCache operations).Exact :=
  exact_start.foldl operations room

structure BatchExact (run : IdCacheRun) (key : Key) (packet : Packet)
    (result : List (Nat × ConnectionRequest) × IdCache) : Prop where
  same : sameFamily key.localAddress key.remoteAddress = true →
    run.issued + packet.requests.length < 2 ^ 64 →
      result.1.map Prod.fst = List.range' (run.issued + 1) packet.requests.length ∧
        ∃ entries, result.2.values = run.cache.values ++ entries ∧
          entries.map Entry.id = List.range' (run.issued + 1) packet.requests.length ∧
          entries.map (fun entry => entry.value.packet) = packet.requests
  mixed : sameFamily key.localAddress key.remoteAddress = false → result = ([], run.cache)

theorem requests_handedOut_once (operations : List IdCacheOp)
    (room : (runIdCache operations).issued < 2 ^ 64) :
    (runIdCache operations).Exact ∧
      ((runIdCache operations).issued + 1 < 2 ^ 64 →
        ∀ entry ∈ (runIdCache operations).cache.values,
          entry.id < (runIdCache operations).cache.nextId) ∧
      ∀ key packet connectionInstanceId processId threadId direction aleLayer,
        BatchExact (runIdCache operations) key packet ((runIdCache operations).cache.push key packet
          connectionInstanceId processId threadId direction aleLayer) := by
  have exact := exact_runIdCache room
  refine ⟨exact, ?_, ?_⟩
  · intro more entry member
    rw [exact.invariant.nextId, Nat.mod_eq_of_lt more]
    exact Nat.lt_succ_of_le (exact.invariant.range entry member).2
  · intro key packet connectionInstanceId processId threadId direction aleLayer
    refine ⟨fun family more => ?_, fun mixed => push_mixed mixed⟩
    have pushes := @pushes_push _ _ key packet connectionInstanceId processId threadId direction
      aleLayer exact.invariant.nextId more family
    exact ⟨pushes.ids, _, pushes.values, pushes.entryIds, pushes.entryPackets⟩

def networkInjection : InjectInfo where
  ipv6 := false
  inbound := false
  loopback := false
  compartmentId := none
  interfaceIndex := 1
  subInterfaceIndex := 0

def udpKeyTo (remoteAddress : IpAddress) : Key where
  protocol := .udp
  localAddress := .ipv4 (Ipv4Address.new 10 0 0 1)
  localPort := 50000
  remoteAddress := remoteAddress
  remotePort := 443

/-- One outbound batch of empty clones of instance 7. -/
def batchOperation (remoteAddress : IpAddress) (count : Nat) : IdCacheOp :=
  .push (udpKeyTo remoteAddress)
    (.networkBatch (List.replicate count ⟨some []⟩) networkInjection) (some 7) 4 0 .outbound false

theorem requests_handedOut_once_claimedBatch :
    (runIdCache [batchOperation (.ipv4 (Ipv4Address.new 1 1 1 1)) 3, .popId 2,
      .retireConnectionInstances ⟨[7], by decide, by decide⟩]).Exact :=
  (requests_handedOut_once _ (by decide +kernel)).1

theorem issued_batchOperation (count : Nat) :
    (runIdCache [batchOperation (.ipv4 (Ipv4Address.new 1 1 1 1)) count]).issued = count := by
  have queued := length_push IdCache.new (udpKeyTo (.ipv4 (Ipv4Address.new 1 1 1 1)))
    (.networkBatch (List.replicate count ⟨some []⟩) networkInjection) (some 7) 4 0 .outbound false
    rfl
  simpa [runIdCache, IdCacheRun.step, IdCacheRun.start, batchOperation, Packet.requests] using
    queued

/-- A batch of as many clones as there are valid ids leaves the id counter at zero. -/
theorem nextId_batchOperation {count : Nat} (last : count + 1 = 2 ^ 64) :
    ∃ entry ∈ (runIdCache [batchOperation (.ipv4 (Ipv4Address.new 1 1 1 1)) count]).cache.values,
      ¬ entry.id <
        (runIdCache [batchOperation (.ipv4 (Ipv4Address.new 1 1 1 1)) count]).cache.nextId := by
  have room : (runIdCache [batchOperation (.ipv4 (Ipv4Address.new 1 1 1 1)) count]).issued <
      2 ^ 64 := by
    rw [issued_batchOperation]
    omega
  have exact := exact_runIdCache room
  have zero := exact.invariant.nextId
  rw [issued_batchOperation, last, Nat.mod_self] at zero
  have total := exact.once.length_eq
  have nothing : (runIdCache
      [batchOperation (.ipv4 (Ipv4Address.new 1 1 1 1)) count]).handedOut = [] := rfl
  rw [nothing, List.append_nil, List.length_map, List.length_range', issued_batchOperation]
    at total
  obtain ⟨entry, member⟩ := List.exists_mem_of_length_pos (by omega :
    0 < (runIdCache
      [batchOperation (.ipv4 (Ipv4Address.new 1 1 1 1)) count]).cache.values.length)
  exact ⟨entry, member, by omega⟩

theorem mixedBatch_and_lastId :
    (∃ entry ∈ (runIdCache
        [batchOperation (.ipv4 (Ipv4Address.new 1 1 1 1)) (2 ^ 64 - 1)]).cache.values,
      ¬ entry.id < (runIdCache
        [batchOperation (.ipv4 (Ipv4Address.new 1 1 1 1)) (2 ^ 64 - 1)]).cache.nextId) ∧
      (runIdCache [batchOperation (.ipv4 (Ipv4Address.new 1 1 1 1)) (2 ^ 64 - 1)]).issued <
        2 ^ 64 ∧
      (IdCache.new.push (udpKeyTo (.ipv6 Ipv6Address.loopback))
        (.networkBatch [⟨some [1]⟩, ⟨some [2]⟩] networkInjection) (some 7) 4 0 .outbound
        false).1.map Prod.fst ≠ List.range' 1 2 := by
  refine ⟨nextId_batchOperation (by decide), ?_, by decide⟩
  rw [issued_batchOperation]
  decide

theorem retire_specification (operations : List IdCacheOp)
    (room : (runIdCache operations).issued < 2 ^ 64) (instances : SortedInstances) :
    Retires instances.ids (runIdCache operations).cache
        ((runIdCache operations).cache.retireConnectionInstances instances.ids) ∧
      (((runIdCache operations).cache.retireConnectionInstances instances.ids).1.map
        Entry.id).Pairwise (· < ·) := by
  have invariant := (exact_runIdCache room).invariant
  have retires := retires_retireConnectionInstances invariant.sorted invariant.indexed
    instances.sorted instances.nonzero
  refine ⟨retires, ?_⟩
  rw [retires.removed]
  exact invariant.sorted.sublist (List.filter_sublist.map Entry.id)

theorem retire_specification_claimedBatch :
    (((runIdCache [batchOperation (.ipv4 (Ipv4Address.new 1 1 1 1)) 3,
      .popId 2]).cache.retireConnectionInstances [5, 7, 7]).1.map Entry.id).Pairwise (· < ·) :=
  (retire_specification [batchOperation (.ipv4 (Ipv4Address.new 1 1 1 1)) 3, .popId 2]
    (by decide +kernel) ⟨[5, 7, 7], by decide, by decide⟩).2

end WindowsKext
