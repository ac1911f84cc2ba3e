import WindowsKext.ConnectionMapCore
import WindowsKext.Library.KeyedGroups

/-! The representation invariant of the connection map and the entries it stores at each
place. Every mutation of the map is described by its effect on these entries. -/

namespace WindowsKext

open FirstMatch KeyedGroups

variable {A : Type} [AddressFamily A]

instance : DecidableEq (RemoteEndpoint A) := fun left right =>
  decidable_of_iff (compareEndpoints left right = .eq) Std.LawfulEqCmp.compare_eq_iff_eq

def Connection.place (connection : Connection A) : (IpProtocol × UInt16) × RemoteEndpoint A :=
  (connection.getKey.small, remoteEndpointFromConnection connection)

theorem Connection.place_eq_of_getKey_eq {left right : Connection A}
    (same : left.getKey = right.getKey) : left.place = right.place := by
  have sameRemote : AddressFamily.toIpAddress left.remoteAddress =
      AddressFamily.toIpAddress right.remoteAddress := congrArg Key.remoteAddress same
  have samePort : left.remotePort = right.remotePort := congrArg Key.remotePort same
  have address : left.remoteAddress = right.remoteAddress := by
    have found := AddressFamily.ofIpAddress_eq_some.mpr sameRemote
    rw [AddressFamily.ofIpAddress_eq_some.mpr rfl] at found
    exact Option.some.inj found
  simp only [place, remoteEndpointFromConnection, same, address, samePort]

theorem place_of_remoteEquals [DecidableEq A] {connection : Connection A} {key : Key}
    (matched : connection.remoteEquals key = true) :
    ∃ endpoint, remoteEndpointFromKey A key = some endpoint ∧
      connection.place = (key.small, endpoint) := by
  have same := (connection.remoteEquals_iff key).mp matched
  subst same
  refine ⟨remoteEndpointFromConnection connection, ?_, rfl⟩
  have known : AddressFamily.ofIpAddress connection.getKey.remoteAddress =
      some connection.remoteAddress := AddressFamily.ofIpAddress_eq_some.mpr rfl
  rw [remoteEndpointFromKey, known]
  rfl

namespace ConnectionBucket

/-- A stored bucket is not empty, keeps its vector only for several generations, and holds
connections of one place. -/
structure WellFormed (place : (IpProtocol × UInt16) × RemoteEndpoint A)
    (bucket : ConnectionBucket (Connection A)) : Prop where
  nonempty : bucket.iter ≠ []
  multiple : ∀ connections, bucket = .multiple connections → 2 ≤ connections.length
  placed : ∀ connection ∈ bucket.iter, connection.place = place

variable {place : (IpProtocol × UInt16) × RemoteEndpoint A}
  {bucket : ConnectionBucket (Connection A)} {test : Connection A → Bool}
  {update : Connection A → Connection A}

theorem wellFormed_one {connection : Connection A} (placed : connection.place = place) :
    (one connection).WellFormed place where
  nonempty := by simp [iter]
  multiple := by simp
  placed := by simpa [iter] using placed

@[simp] theorem iter_push {T : Type} (bucket : ConnectionBucket T) (connection : T) :
    (bucket.push connection).iter = bucket.iter ++ [connection] := by
  cases bucket <;> simp [push, iter]

@[simp] theorem iter_map {T : Type} (bucket : ConnectionBucket T) (update : T → T) :
    (bucket.map update).iter = bucket.iter.map update := by
  cases bucket <;> simp [map, iter]

@[simp] theorem iter_modifyFound {T : Type} (bucket : ConnectionBucket T) (test : T → Bool)
    (update : T → T) :
    (bucket.modifyFound test update).iter = modifyFirst test update bucket.iter := by
  cases bucket with
  | one connection =>
      simp only [modifyFound, iter, modifyFirst]
      split <;> rfl
  | multiple connections => rfl

theorem WellFormed.endpoint_eq (valid : bucket.WellFormed place) :
    bucket.endpoint = some place.2 := by
  cases stored : bucket.iter with
  | nil => exact absurd stored valid.nonempty
  | cons connection rest =>
      have placed := valid.placed connection (by simp [stored])
      simp only [endpoint, stored, List.head?_cons, Option.map_some]
      rw [← placed]
      rfl

theorem WellFormed.push (valid : bucket.WellFormed place) {connection : Connection A}
    (placed : connection.place = place) : (bucket.push connection).WellFormed place where
  nonempty := by simp
  multiple := by
    intro connections same
    have length : (bucket.push connection).iter.length = connections.length := by rw [same, iter]
    have positive : 0 < bucket.iter.length := List.length_pos_iff.mpr valid.nonempty
    rw [iter_push, List.length_append, List.length_singleton] at length
    omega
  placed := by
    intro entry member
    rw [iter_push, List.mem_append, List.mem_singleton] at member
    rcases member with old | rfl
    · exact valid.placed entry old
    · exact placed

theorem WellFormed.modifyFound (valid : bucket.WellFormed place)
    (stable : ∀ connection, test connection = true → (update connection).place = connection.place) :
    (bucket.modifyFound test update).WellFormed place where
  nonempty := by
    rw [iter_modifyFound, ← List.length_pos_iff, length_modifyFirst]
    exact List.length_pos_iff.mpr valid.nonempty
  multiple := by
    intro connections same
    cases bucket with
    | one connection => cases same
    | multiple stored =>
        rw [← (multiple.inj same), length_modifyFirst]
        exact valid.multiple stored rfl
  placed := by
    intro entry member
    rw [iter_modifyFound] at member
    rcases mem_modifyFirst member with old | ⟨source, inBucket, accepted, rfl⟩
    · exact valid.placed entry old
    · rw [stable source accepted, valid.placed source inBucket]

theorem WellFormed.map (valid : bucket.WellFormed place)
    (stable : ∀ connection, (update connection).place = connection.place) :
    (bucket.map update).WellFormed place where
  nonempty := by simpa using valid.nonempty
  multiple := by
    intro connections same
    cases bucket with
    | one connection => cases same
    | multiple stored =>
        rw [← (multiple.inj same), List.length_map]
        exact valid.multiple stored rfl
  placed := by
    intro entry member
    rw [iter_map, List.mem_map] at member
    obtain ⟨source, inBucket, rfl⟩ := member
    rw [stable source, valid.placed source inBucket]

theorem retain_spec {T : Type} (bucket : ConnectionBucket T) (test : T → Bool) :
    (bucket.retain test).2 = !(bucket.iter.filter test).isEmpty ∧
      ((bucket.retain test).2 = true → (bucket.retain test).1.iter = bucket.iter.filter test) := by
  cases bucket with
  | one connection => cases accepted : test connection <;> simp [retain, iter, accepted]
  | multiple connections =>
      simp only [retain, iter]
      split <;> rename_i remaining <;> simp [remaining]

theorem WellFormed.retain (valid : bucket.WellFormed place)
    (kept : (bucket.retain test).2 = true) : (bucket.retain test).1.WellFormed place := by
  have spec := bucket.retain_spec test
  have entries := spec.2 kept
  have left : bucket.iter.filter test ≠ [] := by
    rw [spec.1] at kept
    simpa only [Bool.not_eq_true', List.isEmpty_eq_false_iff] using kept
  refine ⟨entries ▸ left, ?_, ?_⟩
  · intro connections same
    cases bucket with
    | one connection => cases same
    | multiple stored =>
        simp only [ConnectionBucket.retain] at same
        split at same
        · cases same
        · rename_i several
          rw [← (multiple.inj same)]
          have positive := List.length_pos_iff.mpr left
          have notOne : (stored.filter test).length ≠ 1 := by
            intro single
            obtain ⟨connection, only⟩ := List.length_eq_one_iff.mp single
            exact several connection only
          simp only [iter] at positive
          omega
  · intro entry member
    rw [entries] at member
    exact valid.placed entry (List.mem_filter.mp member).1

end ConnectionBucket

namespace RemoteConnections

/-- No stored group is empty, and the map representation holds at least two endpoints. -/
def WellFormed (group : IpProtocol × UInt16) : RemoteConnections A → Prop
  | .empty => False
  | .one bucket => ∃ endpoint, bucket.WellFormed (group, endpoint)
  | .many map => 2 ≤ map.size ∧
      ∀ (endpoint : RemoteEndpoint A) (bucket : ConnectionBucket (Connection A)),
        map[endpoint]? = some bucket → bucket.WellFormed (group, endpoint)

def entriesAt (connections : RemoteConnections A) (endpoint : RemoteEndpoint A) :
    List (Connection A) :=
  ((connections.get endpoint).map ConnectionBucket.iter).getD []

variable {group : IpProtocol × UInt16} {connections : RemoteConnections A}
  {endpoint other : RemoteEndpoint A}

theorem hasEndpoint_eq {bucket : ConnectionBucket (Connection A)}
    (valid : bucket.WellFormed (group, endpoint)) :
    hasEndpoint bucket other = decide (endpoint = other) := by
  rw [hasEndpoint, valid.endpoint_eq, Bool.eq_iff_iff, decide_eq_true_eq]
  simp only [Ordering.isEq_iff_eq_eq, Std.LawfulEqCmp.compare_eq_iff_eq]

theorem get_wellFormed (valid : connections.WellFormed group)
    {bucket : ConnectionBucket (Connection A)} (found : connections.get endpoint = some bucket) :
    bucket.WellFormed (group, endpoint) := by
  cases connections with
  | empty => cases found
  | one stored =>
      obtain ⟨known, storedValid⟩ := valid
      simp only [get, hasEndpoint_eq storedValid, decide_eq_true_eq] at found
      split at found
      · rename_i same
        rw [← Option.some.inj found, ← same]
        exact storedValid
      · cases found
  | many map => exact valid.2 endpoint bucket found

theorem entriesAt_placed (valid : connections.WellFormed group) :
    ∀ connection ∈ connections.entriesAt endpoint, connection.place = (group, endpoint) := by
  intro connection member
  rw [entriesAt] at member
  cases found : connections.get endpoint with
  | none => simp [found] at member
  | some bucket =>
      simp only [found, Option.map_some, Option.getD_some] at member
      exact (get_wellFormed valid found).placed connection member

def keyedValues : RemoteConnections A →
    List (RemoteEndpoint A × ConnectionBucket (Connection A))
  | .empty => []
  | .one bucket => (bucket.endpoint.map fun endpoint => (endpoint, bucket)).toList
  | .many map => map.toList

theorem mem_keyedValues (valid : connections.WellFormed group)
    {bucket : ConnectionBucket (Connection A)} :
    (endpoint, bucket) ∈ connections.keyedValues ↔ connections.get endpoint = some bucket := by
  cases connections with
  | empty => exact valid.elim
  | one stored =>
      obtain ⟨known, storedValid⟩ := valid
      simp only [keyedValues, storedValid.endpoint_eq, get, hasEndpoint_eq storedValid]
      simp only [Option.map_some, Option.toList_some, List.mem_singleton, Prod.mk.injEq,
        decide_eq_true_eq, Option.ite_none_right_eq_some, Option.some.injEq]
      constructor <;> rintro ⟨rfl, rfl⟩ <;> exact ⟨rfl, rfl⟩
  | many map => exact Std.TreeMap.mem_toList_iff_getElem?_eq_some

theorem keyedValues_ordered (connections : RemoteConnections A) :
    connections.keyedValues.Pairwise fun left right => compareEndpoints left.1 right.1 = .lt := by
  cases connections with
  | empty => exact List.Pairwise.nil
  | one bucket => cases found : bucket.endpoint <;> simp [keyedValues, found]
  | many map => exact Std.TreeMap.ordered_keys_toList

theorem iter_eq (valid : connections.WellFormed group) :
    connections.iter = connections.keyedValues.flatMap fun entry => entry.2.iter := by
  cases connections with
  | empty => rfl
  | one bucket =>
      obtain ⟨known, storedValid⟩ := valid
      simp [iter, values, keyedValues, storedValid.endpoint_eq]
  | many map => simp [iter, values, keyedValues, List.flatMap_map]

theorem keyedValues_placed (valid : connections.WellFormed group) :
    ∀ entry ∈ connections.keyedValues, ∀ connection ∈ entry.2.iter,
      remoteEndpointFromConnection connection = entry.1 := by
  rintro ⟨endpoint, bucket⟩ member connection inBucket
  have stored := get_wellFormed valid ((mem_keyedValues valid).mp member)
  exact congrArg Prod.snd (stored.placed connection inBucket)

theorem iter_sortedBy (valid : connections.WellFormed group) :
    SortedBy compareEndpoints remoteEndpointFromConnection connections.iter := by
  rw [iter_eq valid]
  refine sortedBy_flatMap ?_ (keyedValues_placed valid)
  refine (keyedValues_ordered connections).imp ?_
  intro left right less
  simp [less]

theorem atKey_iter (valid : connections.WellFormed group) :
    atKey remoteEndpointFromConnection endpoint connections.iter =
      connections.entriesAt endpoint := by
  rw [iter_eq valid, entriesAt]
  cases found : connections.get endpoint with
  | none =>
      refine atKey_flatMap_of_not_mem (keyedValues_placed valid) ?_
      rintro ⟨stored, bucket⟩ member same
      rw [← same, (mem_keyedValues valid).mp member] at found
      cases found
  | some bucket =>
      refine atKey_flatMap_of_mem ?_ (keyedValues_placed valid) ((mem_keyedValues valid).mpr found)
      refine (keyedValues_ordered connections).imp ?_
      intro left right less same
      have equal : compareEndpoints right.1 right.1 = .eq := Std.ReflCmp.compare_self
      rw [same, equal] at less
      cases less

theorem iter_placed (valid : connections.WellFormed group) :
    ∀ connection ∈ connections.iter, connection.getKey.small = group := by
  intro connection member
  have inEndpoint : connection ∈ connections.entriesAt (remoteEndpointFromConnection connection) := by
    rw [← atKey_iter valid, atKey, List.mem_filter]
    exact ⟨member, by simp⟩
  exact congrArg Prod.fst (entriesAt_placed valid connection inEndpoint)

section Mutation

variable {change : ConnectionBucket (Connection A) → ConnectionBucket (Connection A)}
  {test : Connection A → Bool} {update : Connection A → Connection A}

theorem modifyBucket_wellFormed (valid : connections.WellFormed group)
    (keeps : ∀ bucket : ConnectionBucket (Connection A), bucket.WellFormed (group, endpoint) →
      (change bucket).WellFormed (group, endpoint)) :
    (connections.modifyBucket endpoint change).WellFormed group := by
  cases connections with
  | empty => exact valid
  | one bucket =>
      obtain ⟨known, storedValid⟩ := valid
      simp only [modifyBucket, hasEndpoint_eq storedValid, decide_eq_true_eq]
      split
      · rename_i same
        exact ⟨endpoint, keeps bucket (same ▸ storedValid)⟩
      · exact ⟨known, storedValid⟩
  | many map =>
      refine ⟨(Std.TreeMap.size_modify (t := map)).symm ▸ valid.1, ?_⟩
      intro stored bucket found
      rw [Std.TreeMap.getElem?_modify] at found
      split at found
      · rename_i same
        have equal := Std.LawfulEqCmp.eq_of_compare same
        obtain ⟨source, inMap, rfl⟩ := Option.map_eq_some_iff.mp found
        exact equal ▸ keeps source (valid.2 endpoint source (equal ▸ inMap))
      · exact valid.2 stored bucket found

theorem get_modifyBucket (valid : connections.WellFormed group)
    (keeps : ∀ bucket : ConnectionBucket (Connection A), bucket.WellFormed (group, endpoint) →
      (change bucket).WellFormed (group, endpoint)) :
    (connections.modifyBucket endpoint change).get other =
      if endpoint = other then (connections.get other).map change else connections.get other := by
  cases connections with
  | empty => exact valid.elim
  | one bucket =>
      obtain ⟨known, storedValid⟩ := valid
      by_cases same : known = endpoint
      · subst same
        simp only [modifyBucket, hasEndpoint_eq storedValid, decide_true, ↓reduceIte, get,
          hasEndpoint_eq (keeps bucket storedValid), decide_eq_true_eq]
        split <;> rfl
      · simp only [modifyBucket, hasEndpoint_eq storedValid, decide_eq_true_eq, same, ↓reduceIte,
          get]
        by_cases target : endpoint = other
        · subst target
          simp [same]
        · simp [target]
  | many map =>
      simp only [modifyBucket, get, Std.TreeMap.getElem?_modify,
        Std.LawfulEqCmp.compare_eq_iff_eq]
      split
      · rename_i same
        rw [same]
      · rfl

theorem entriesAt_modifyBucket (valid : connections.WellFormed group)
    {view : List (Connection A) → List (Connection A)} (nil : view [] = [])
    (viewed : ∀ bucket : ConnectionBucket (Connection A), (change bucket).iter = view bucket.iter)
    (keeps : ∀ bucket : ConnectionBucket (Connection A), bucket.WellFormed (group, endpoint) →
      (change bucket).WellFormed (group, endpoint)) :
    (connections.modifyBucket endpoint change).entriesAt other =
      if endpoint = other then view (connections.entriesAt other)
      else connections.entriesAt other := by
  rw [entriesAt, get_modifyBucket valid keeps, entriesAt]
  split
  · cases connections.get other <;> simp [nil, viewed]
  · rfl

theorem mapAll_wellFormed (valid : connections.WellFormed group)
    (stable : ∀ connection, (update connection).place = connection.place) :
    (connections.mapAll update).WellFormed group := by
  cases connections with
  | empty => exact valid
  | one bucket =>
      obtain ⟨known, storedValid⟩ := valid
      exact ⟨known, storedValid.map stable⟩
  | many map =>
      refine ⟨by simpa using valid.1, ?_⟩
      intro stored bucket found
      rw [Std.TreeMap.getElem?_map] at found
      obtain ⟨source, inMap, rfl⟩ := Option.map_eq_some_iff.mp found
      exact (valid.2 stored source inMap).map stable

theorem entriesAt_mapAll (valid : connections.WellFormed group)
    (stable : ∀ connection, (update connection).place = connection.place) :
    (connections.mapAll update).entriesAt endpoint =
      (connections.entriesAt endpoint).map update := by
  cases connections with
  | empty => exact valid.elim
  | one bucket =>
      obtain ⟨known, storedValid⟩ := valid
      simp only [entriesAt, mapAll, get, hasEndpoint_eq storedValid,
        hasEndpoint_eq (storedValid.map stable)]
      split <;> simp
  | many map =>
      simp only [entriesAt, mapAll, get, Std.TreeMap.getElem?_map]
      cases map[endpoint]? <;> simp

theorem insertIntoMap_getElem? (map : RemoteMap A) (connection : Connection A) :
    (insertIntoMap map endpoint connection)[other]? =
      if endpoint = other then
        some (match map[endpoint]? with
          | some bucket => bucket.push connection
          | none => .one connection)
      else map[other]? := by
  simp only [insertIntoMap]
  split <;> rename_i found <;>
    simp only [Std.TreeMap.getElem?_insert, Std.LawfulEqCmp.compare_eq_iff_eq, found]

theorem insertIntoMap_size (map : RemoteMap A) (connection : Connection A) :
    (insertIntoMap map endpoint connection).size =
      if (map[endpoint]?).isSome then map.size else map.size + 1 := by
  simp only [insertIntoMap]
  split <;> rename_i found <;> simp [Std.TreeMap.size_insert, Std.TreeMap.mem_iff_isSome_getElem?,
    found]

theorem insert_wellFormed {connection : Connection A}
    (placed : connection.place = (group, endpoint))
    (valid : connections = .empty ∨ connections.WellFormed group) :
    (connections.insert endpoint connection).WellFormed group := by
  have inserted (map : RemoteMap A) (stored : ∀ (known : RemoteEndpoint A)
      (bucket : ConnectionBucket (Connection A)), map[known]? = some bucket →
        bucket.WellFormed (group, known)) (known : RemoteEndpoint A)
      (bucket : ConnectionBucket (Connection A))
      (found : (insertIntoMap map endpoint connection)[known]? = some bucket) :
      bucket.WellFormed (group, known) := by
    rw [insertIntoMap_getElem?] at found
    split at found
    · rename_i same
      subst same
      rw [← Option.some.inj found]
      split
      · rename_i previous inMap
        exact (stored endpoint previous inMap).push placed
      · exact ConnectionBucket.wellFormed_one placed
    · exact stored known bucket found
  cases connections with
  | empty => exact ⟨endpoint, ConnectionBucket.wellFormed_one placed⟩
  | one bucket =>
      obtain ⟨known, storedValid⟩ := valid.resolve_left (by simp)
      simp only [insert, hasEndpoint_eq storedValid, decide_eq_true_eq, storedValid.endpoint_eq]
      split
      · rename_i same
        exact ⟨endpoint, (same ▸ storedValid).push placed⟩
      · rename_i different
        have absent : ((∅ : RemoteMap A).insert known bucket)[endpoint]? = none := by
          simp [different]
        refine ⟨?_, inserted _ ?_⟩
        · rw [insertIntoMap_size, absent]
          simp [Std.TreeMap.size_insert]
        · intro other stored found
          rw [Std.TreeMap.getElem?_insert] at found
          split at found
          · rename_i same
            rw [← Option.some.inj found, ← Std.LawfulEqCmp.eq_of_compare same]
            exact storedValid
          · simp at found
  | many map =>
      have mapValid := valid.resolve_left (by simp)
      refine ⟨?_, inserted map mapValid.2⟩
      rw [insertIntoMap_size]
      have size := mapValid.1
      split <;> omega

theorem entriesAt_insert {connection : Connection A}
    (placed : connection.place = (group, endpoint))
    (valid : connections = .empty ∨ connections.WellFormed group) :
    (connections.insert endpoint connection).entriesAt other =
      connections.entriesAt other ++ if endpoint = other then [connection] else [] := by
  have inserted (map : RemoteMap A) :
      (many (insertIntoMap map endpoint connection)).entriesAt other =
        (many map).entriesAt other ++ if endpoint = other then [connection] else [] := by
    simp only [entriesAt, get, insertIntoMap_getElem?]
    split
    · rename_i same
      subst same
      cases map[endpoint]? with
      | none => rfl
      | some bucket => simp
    · simp
  cases connections with
  | empty =>
      simp only [insert, entriesAt, get, hasEndpoint_eq (ConnectionBucket.wellFormed_one placed)]
      split <;> simp_all [ConnectionBucket.iter]
  | one bucket =>
      obtain ⟨known, storedValid⟩ := valid.resolve_left (by simp)
      simp only [insert, hasEndpoint_eq storedValid, decide_eq_true_eq, storedValid.endpoint_eq]
      split
      · rename_i same
        subst same
        simp only [entriesAt, get, hasEndpoint_eq storedValid,
          hasEndpoint_eq (storedValid.push placed), decide_eq_true_eq]
        split <;> simp
      · rw [inserted]
        congr 1
        simp only [entriesAt, get, hasEndpoint_eq storedValid, decide_eq_true_eq,
          Std.TreeMap.getElem?_insert, Std.LawfulEqCmp.compare_eq_iff_eq]
        split <;> simp
  | many map => exact inserted map

theorem modifyFound_eq_modifyBucket (update : Connection A → Connection A)
    (valid : connections.WellFormed group)
    {connection : Connection A} (found : connections.iter.find? test = some connection) :
    connections.modifyFound test update =
      connections.modifyBucket (remoteEndpointFromConnection connection) fun bucket =>
        bucket.modifyFound test update := by
  cases connections with
  | empty => exact valid.elim
  | one bucket =>
      obtain ⟨known, storedValid⟩ := valid
      have member : connection ∈ bucket.iter := by
        simpa [iter, values] using List.mem_of_find?_eq_some found
      have placed := congrArg Prod.snd (storedValid.placed connection member)
      simp only [Connection.place] at placed
      simp [modifyFound, modifyBucket, hasEndpoint_eq storedValid, placed]
  | many map =>
      simp only [iter, values, List.flatMap_map, List.find?_flatMap] at found
      obtain ⟨before, ⟨stored, bucket⟩, after, split, inBucket, earlier⟩ :=
        List.findSome?_eq_some_iff.mp found
      have selected : map.toList.find? (fun entry => entry.2.iter.any test) =
          some (stored, bucket) := by
        rw [List.find?_eq_some_iff_append]
        refine ⟨?_, before, after, split, ?_⟩
        · exact List.any_eq_true.mpr
            ⟨connection, List.mem_of_find?_eq_some inBucket, List.find?_some inBucket⟩
        · intro entry member
          have missing := List.find?_eq_none.mp (earlier entry member)
          simpa using missing
      have inMap : map[stored]? = some bucket := by
        rw [← Std.TreeMap.mem_toList_iff_getElem?_eq_some, split]
        simp
      have placed := congrArg Prod.snd
        ((valid.2 stored bucket inMap).placed connection (List.mem_of_find?_eq_some inBucket))
      simp only [Connection.place] at placed
      simp only [modifyFound, selected, modifyBucket, placed]

theorem modifyBucket_modifyFound_wellFormed (valid : connections.WellFormed group)
    (stable : ∀ connection, test connection = true → (update connection).place = connection.place) :
    (connections.modifyBucket endpoint fun bucket =>
      bucket.modifyFound test update).WellFormed group :=
  modifyBucket_wellFormed valid fun _ bucketValid => bucketValid.modifyFound stable

theorem entriesAt_modifyBucket_modifyFound (valid : connections.WellFormed group)
    (stable : ∀ connection, test connection = true → (update connection).place = connection.place) :
    (connections.modifyBucket endpoint fun bucket => bucket.modifyFound test update).entriesAt
        other =
      if endpoint = other then modifyFirst test update (connections.entriesAt other)
      else connections.entriesAt other :=
  entriesAt_modifyBucket valid rfl (fun bucket => bucket.iter_modifyFound test update)
    fun _ bucketValid => bucketValid.modifyFound stable

theorem retained_getElem? (map : RemoteMap A) (test : Connection A → Bool)
    (endpoint : RemoteEndpoint A) :
    (map.filterMap fun _ bucket =>
        match bucket.retain test with
        | (kept, true) => some kept
        | (_, false) => none)[endpoint]? =
      map[endpoint]?.bind fun bucket =>
        if (bucket.retain test).2 then some (bucket.retain test).1 else none := by
  rw [Std.TreeMap.getElem?_filterMap']
  congr 1
  funext bucket
  rcases bucket.retain test with ⟨kept, _ | _⟩ <;> rfl

theorem entriesAt_retained (map : RemoteMap A) (test : Connection A → Bool)
    (endpoint : RemoteEndpoint A) :
    (many (map.filterMap fun _ bucket =>
        match bucket.retain test with
        | (kept, true) => some kept
        | (_, false) => none)).entriesAt endpoint =
      ((many map).entriesAt endpoint).filter test := by
  simp only [entriesAt, get, retained_getElem?]
  cases map[endpoint]? with
  | none => rfl
  | some bucket =>
      have spec := bucket.retain_spec test
      cases kept : (bucket.retain test).2 with
      | true => simp [kept, spec.2 kept]
      | false =>
          rw [spec.1] at kept
          have gone : bucket.iter.filter test = [] := by simpa using kept
          simp [spec.1, gone]

theorem retain_one_spec {bucket : ConnectionBucket (Connection A)}
    (valid : (one bucket).WellFormed group) :
    (∀ endpoint, ((one bucket).retain test).entriesAt endpoint =
        ((one bucket).entriesAt endpoint).filter test) ∧
      (((one bucket).retain test).isEmpty = false →
        ((one bucket).retain test).WellFormed group) := by
  obtain ⟨known, storedValid⟩ := valid
  have spec := bucket.retain_spec test
  cases kept : (bucket.retain test).2 with
  | true =>
      have form : (one bucket).retain test = one (bucket.retain test).1 := by
        simp only [retain]
        split <;> simp_all
      rw [form]
      refine ⟨?_, fun _ => ⟨known, storedValid.retain kept⟩⟩
      intro endpoint
      simp only [entriesAt, get, hasEndpoint_eq storedValid,
        hasEndpoint_eq (storedValid.retain kept)]
      split <;> simp [spec.2 kept]
  | false =>
      have form : (one bucket).retain test = empty := by
        simp only [retain]
        split <;> simp_all
      rw [spec.1] at kept
      have gone : bucket.iter.filter test = [] := by simpa using kept
      rw [form]
      refine ⟨?_, by simp [isEmpty]⟩
      intro endpoint
      simp only [entriesAt, get]
      split <;> simp [gone]

theorem retain_many_spec {map : RemoteMap A} (valid : (many map).WellFormed group) :
    (∀ endpoint, ((many map).retain test).entriesAt endpoint =
        ((many map).entriesAt endpoint).filter test) ∧
      (((many map).retain test).isEmpty = false →
        ((many map).retain test).WellFormed group) := by
  have filtered := entriesAt_retained map test
  have stored := retained_getElem? map test
  simp only [retain]
  generalize map.filterMap _ = remaining at filtered stored ⊢
  have bucketValid (endpoint : RemoteEndpoint A) (bucket : ConnectionBucket (Connection A))
      (found : remaining[endpoint]? = some bucket) : bucket.WellFormed (group, endpoint) := by
    rw [stored] at found
    obtain ⟨source, inMap, kept⟩ := Option.bind_eq_some_iff.mp found
    split at kept
    · rename_i accepted
      rw [← Option.some.inj kept]
      exact (valid.2 endpoint source inMap).retain accepted
    · cases kept
  split
  · rename_i none
    refine ⟨?_, by simp [isEmpty]⟩
    intro endpoint
    rw [← filtered endpoint]
    have absent : remaining[endpoint]? = Option.none := by
      cases found : remaining[endpoint]? with
      | none => rfl
      | some bucket =>
          rw [← Std.TreeMap.mem_toList_iff_getElem?_eq_some, none] at found
          cases found
    simp [entriesAt, get, absent]
  · rename_i known bucket single
    have inMap (endpoint : RemoteEndpoint A) (other : ConnectionBucket (Connection A)) :
        remaining[endpoint]? = some other ↔ endpoint = known ∧ other = bucket := by
      rw [← Std.TreeMap.mem_toList_iff_getElem?_eq_some, single]
      simp
    have single := bucketValid known bucket ((inMap known bucket).mpr ⟨rfl, rfl⟩)
    refine ⟨?_, fun _ => ⟨known, single⟩⟩
    intro endpoint
    rw [← filtered endpoint]
    simp only [entriesAt, get, hasEndpoint_eq single, decide_eq_true_eq]
    by_cases same : known = endpoint
    · subst same
      simp [(inMap known bucket).mpr ⟨rfl, rfl⟩]
    · have absent : remaining[endpoint]? = Option.none := by
        cases found : remaining[endpoint]? with
        | none => rfl
        | some other => exact absurd ((inMap endpoint other).mp found).1.symm same
      simp [same, absent]
  · rename_i notEmpty notSingle
    refine ⟨filtered, fun _ => ⟨?_, bucketValid⟩⟩
    rw [← Std.TreeMap.length_toList]
    match list : remaining.toList with
    | [] => exact absurd list notEmpty
    | [(endpoint, bucket)] => exact absurd list (notSingle endpoint bucket)
    | _ :: _ :: _ => simp

/-- Cleanup keeps the accepted entries of every endpoint, and an empty group is exactly one
without accepted entries. -/
theorem retain_spec (valid : connections.WellFormed group) :
    (∀ endpoint, (connections.retain test).entriesAt endpoint =
        (connections.entriesAt endpoint).filter test) ∧
      ((connections.retain test).isEmpty = false → (connections.retain test).WellFormed group) := by
  cases connections with
  | empty => exact valid.elim
  | one bucket => exact retain_one_spec valid
  | many map => exact retain_many_spec valid

end Mutation

end RemoteConnections

namespace ConnectionMap

def WellFormed (map : ConnectionMap A) : Prop :=
  ∀ (group : IpProtocol × UInt16) (connections : RemoteConnections A),
    map[group]? = some connections → connections.WellFormed group

def entriesAt (map : ConnectionMap A) (place : (IpProtocol × UInt16) × RemoteEndpoint A) :
    List (Connection A) :=
  (map[place.1]?.map fun connections => connections.entriesAt place.2).getD []

/-- A flat list in insertion order represents a well-formed map when every bucket holds the
entries of its place in that order. -/
structure Represents (map : ConnectionMap A) (flat : List (Connection A)) : Prop where
  wellFormed : map.WellFormed
  buckets : ∀ place, map.entriesAt place = atKey Connection.place place flat

theorem represents_empty : (∅ : ConnectionMap A).Represents [] where
  wellFormed := by simp [WellFormed]
  buckets := by simp [entriesAt]

variable {map : ConnectionMap A} {flat : List (Connection A)}
  {group : IpProtocol × UInt16}

theorem atKey_endpoint_filter_group (flat : List (Connection A)) (group : IpProtocol × UInt16)
    (endpoint : RemoteEndpoint A) :
    atKey remoteEndpointFromConnection endpoint
        (flat.filter fun connection => connection.getKey.small == group) =
      atKey Connection.place (group, endpoint) flat := by
  rw [atKey, atKey, List.filter_filter]
  congr 1
  funext connection
  rw [Bool.eq_iff_iff]
  simp only [Connection.place, Prod.mk.injEq, Bool.and_eq_true, decide_eq_true_eq, beq_iff_eq,
    and_comm]

theorem Represents.iter_eq (represents : map.Represents flat) (group : IpProtocol × UInt16) :
    (map[group]?.map RemoteConnections.iter).getD [] =
      sortByKey compareEndpoints remoteEndpointFromConnection
        (flat.filter fun connection => connection.getKey.small == group) := by
  refine eq_sortByKey ?_ ?_
  · cases found : map[group]? with
    | none => exact List.Pairwise.nil
    | some connections =>
        exact RemoteConnections.iter_sortedBy (represents.wellFormed group connections found)
  · intro endpoint
    rw [atKey_endpoint_filter_group, ← represents.buckets (group, endpoint), entriesAt]
    cases found : map[group]? with
    | none => rfl
    | some connections =>
        exact RemoteConnections.atKey_iter (represents.wellFormed group connections found)

theorem Represents.iter_of_found (represents : map.Represents flat)
    {connections : RemoteConnections A} (found : map[group]? = some connections) :
    connections.iter = sortByKey compareEndpoints remoteEndpointFromConnection
      (flat.filter fun connection => connection.getKey.small == group) := by
  rw [← represents.iter_eq, found]
  rfl

theorem Represents.entries_perm [DecidableEq A] (represents : map.Represents flat) :
    map.entries.Perm flat := by
  have keyed : ∀ entry ∈ map.toList, ∀ connection ∈ entry.2.iter,
      connection.getKey.small = entry.1 := by
    rintro ⟨stored, connections⟩ member
    exact RemoteConnections.iter_placed (represents.wellFormed stored connections
      (Std.TreeMap.mem_toList_iff_getElem?_eq_some.mp member))
  have distinct : map.toList.Pairwise fun left right => left.1 ≠ right.1 := by
    refine (Std.TreeMap.ordered_keys_toList (t := map)).imp ?_
    intro left right less same
    have equal : compareGroups right.1 right.1 = .eq := Std.ReflCmp.compare_self
    rw [same, equal] at less
    cases less
  have inGroup : ∀ group, atKey (fun connection => connection.getKey.small) group map.entries =
      (map[group]?.map RemoteConnections.iter).getD [] := by
    intro group
    rw [entries, List.flatMap_map]
    cases found : map[group]? with
    | none =>
        refine atKey_flatMap_of_not_mem keyed ?_
        rintro ⟨stored, connections⟩ member same
        rw [← same, Std.TreeMap.mem_toList_iff_getElem?_eq_some.mp member] at found
        cases found
    | some connections =>
        exact atKey_flatMap_of_mem distinct keyed
          (Std.TreeMap.mem_toList_iff_getElem?_eq_some.mpr found)
  have same : ∀ place, atKey Connection.place place map.entries =
      atKey Connection.place place flat := by
    rintro ⟨group, endpoint⟩
    rw [← represents.buckets, ← atKey_endpoint_filter_group]
    have regrouped : (map.entries.filter fun connection => connection.getKey.small == group) =
        (map[group]?.map RemoteConnections.iter).getD [] := by
      rw [← inGroup, atKey]
      congr 1
      funext connection
      rw [Bool.eq_iff_iff, beq_iff_eq, decide_eq_true_eq]
    rw [regrouped, entriesAt]
    cases found : map[group]? with
    | none => rfl
    | some connections =>
        exact RemoteConnections.atKey_iter (represents.wellFormed group connections found)
  exact perm_of_atKey_eq same

theorem Represents.modify (represents : map.Represents flat)
    {change : RemoteConnections A → RemoteConnections A} {updated : List (Connection A)}
    (keeps : ∀ connections, map[group]? = some connections →
      (change connections).WellFormed group)
    (inside : ∀ endpoint connections, map[group]? = some connections →
      (change connections).entriesAt endpoint = atKey Connection.place (group, endpoint) updated)
    (absent : ∀ endpoint, map[group]? = none →
      atKey Connection.place (group, endpoint) updated = [])
    (outside : ∀ place, place.1 ≠ group →
      atKey Connection.place place updated = atKey Connection.place place flat) :
    Represents (map.modify group change) updated where
  wellFormed := by
    intro stored connections found
    rw [Std.TreeMap.getElem?_modify] at found
    split at found
    · rename_i same
      have equal := Std.LawfulEqCmp.eq_of_compare same
      subst equal
      obtain ⟨source, inMap, rfl⟩ := Option.map_eq_some_iff.mp found
      exact keeps source inMap
    · exact represents.wellFormed stored connections found
  buckets := by
    rintro ⟨stored, endpoint⟩
    simp only [entriesAt, Std.TreeMap.getElem?_modify, Std.LawfulEqCmp.compare_eq_iff_eq]
    split
    · rename_i same
      subst same
      cases found : map[group]? with
      | none => exact (absent endpoint found).symm
      | some connections => exact inside endpoint connections found
    · rename_i different
      rw [outside (stored, endpoint) (Ne.symm different), ← represents.buckets (stored, endpoint)]
      rfl

section Update

variable {test : Connection A → Bool} {update : Connection A → Connection A}

theorem atKey_modifyFirst_of_ne {place other : (IpProtocol × UInt16) × RemoteEndpoint A}
    (placed : ∀ connection, test connection = true → connection.place = place)
    (stable : ∀ connection, test connection = true → (update connection).place = connection.place)
    (different : other ≠ place) :
    atKey Connection.place other (modifyFirst test update flat) =
      atKey Connection.place other flat := by
  refine filter_modifyFirst_of_not ?_ ?_
  · intro connection accepted
    rw [placed connection accepted, decide_eq_false_iff_not]
    exact Ne.symm different
  · intro connection accepted
    rw [stable connection accepted, placed connection accepted, decide_eq_false_iff_not]
    exact Ne.symm different

theorem atKey_modifyFirst_self {place : (IpProtocol × UInt16) × RemoteEndpoint A}
    (placed : ∀ connection, test connection = true → connection.place = place)
    (stable : ∀ connection, test connection = true → (update connection).place = connection.place) :
    atKey Connection.place place (modifyFirst test update flat) =
      modifyFirst test update (atKey Connection.place place flat) := by
  refine filter_modifyFirst_of_imp ?_ ?_
  · intro connection accepted
    rw [placed connection accepted, decide_eq_true_eq]
  · intro connection accepted
    rw [stable connection accepted, placed connection accepted, decide_eq_true_eq]

theorem Represents.modifyBucket (represents : map.Represents flat) {endpoint : RemoteEndpoint A}
    (placed : ∀ connection, test connection = true → connection.place = (group, endpoint))
    (stable : ∀ connection, test connection = true →
      (update connection).place = connection.place) :
    Represents (map.modify group fun connections => connections.modifyBucket endpoint fun bucket =>
      bucket.modifyFound test update) (modifyFirst test update flat) := by
  refine represents.modify ?_ ?_ ?_ ?_
  · intro connections found
    exact RemoteConnections.modifyBucket_modifyFound_wellFormed
      (represents.wellFormed group connections found) stable
  · intro other connections found
    have valid := represents.wellFormed group connections found
    have stored := represents.buckets (group, other)
    simp only [entriesAt, found, Option.map_some, Option.getD_some] at stored
    rw [RemoteConnections.entriesAt_modifyBucket_modifyFound valid stable]
    split
    · rename_i same
      subst same
      rw [atKey_modifyFirst_self placed stable, stored]
    · rename_i different
      rw [atKey_modifyFirst_of_ne placed stable (by simp [Ne.symm different]), stored]
  · intro other missing
    have stored := represents.buckets (group, other)
    simp only [entriesAt, missing, Option.map_none, Option.getD_none] at stored
    by_cases same : endpoint = other
    · subst same
      rw [atKey_modifyFirst_self placed stable, ← stored, modifyFirst_nil]
    · rw [atKey_modifyFirst_of_ne placed stable (by simp [Ne.symm same]), ← stored]
  · intro place different
    refine atKey_modifyFirst_of_ne placed stable ?_
    rintro rfl
    exact different rfl

theorem Represents.congr {other : ConnectionMap A} (represents : map.Represents flat)
    (same : ∀ group : IpProtocol × UInt16, other[group]? = map[group]?) :
    other.Represents flat where
  wellFormed := by
    intro group connections found
    exact represents.wellFormed group connections (same group ▸ found)
  buckets := by
    intro place
    rw [← represents.buckets, entriesAt, entriesAt, same]

theorem Represents.modifyFound (represents : map.Represents flat)
    {connections : RemoteConnections A} {selected : Connection A}
    (inMap : map[group]? = some connections)
    (found : connections.iter.find? test = some selected)
    (stable : ∀ connection, test connection = true →
      (update connection).place = connection.place) :
    Represents (map.modify group fun connections => connections.modifyFound test update)
      (modifyFirst (fun connection => decide (connection.place = selected.place) && test connection)
        update flat) := by
  have valid := represents.wellFormed group connections inMap
  have inGroup : selected.getKey.small = group :=
    RemoteConnections.iter_placed valid selected (List.mem_of_find?_eq_some found)
  have form := RemoteConnections.modifyFound_eq_modifyBucket update valid found
  have guardedPlaced : ∀ connection : Connection A,
      (decide (connection.place = selected.place) && test connection) = true →
        connection.place = (group, remoteEndpointFromConnection selected) := by
    intro connection accepted
    rw [Bool.and_eq_true, decide_eq_true_eq] at accepted
    rw [accepted.1, Connection.place, inGroup]
  have guardedStable : ∀ connection : Connection A,
      (decide (connection.place = selected.place) && test connection) = true →
        (update connection).place = connection.place := by
    intro connection accepted
    rw [Bool.and_eq_true] at accepted
    exact stable connection accepted.2
  refine represents.modify ?_ ?_ ?_ ?_
  · intro stored again
    rw [inMap] at again
    rw [← Option.some.inj again, form]
    exact RemoteConnections.modifyBucket_modifyFound_wellFormed valid stable
  · intro endpoint stored again
    rw [inMap] at again
    rw [← Option.some.inj again, form,
      RemoteConnections.entriesAt_modifyBucket_modifyFound valid stable]
    have entries := represents.buckets (group, endpoint)
    simp only [entriesAt, inMap, Option.map_some, Option.getD_some] at entries
    split
    · rename_i same
      subst same
      rw [atKey_modifyFirst_self guardedPlaced guardedStable, entries]
      refine modifyFirst_congr ?_
      intro connection member
      have placed := of_decide_eq_true (List.mem_filter.mp member).2
      have samePlace : connection.place = selected.place := by
        rw [placed, Connection.place, inGroup]
      simp [samePlace]
    · rename_i different
      rw [atKey_modifyFirst_of_ne guardedPlaced guardedStable (by simp [Ne.symm different]),
        entries]
  · intro endpoint missing
    rw [inMap] at missing
    cases missing
  · intro place different
    refine atKey_modifyFirst_of_ne guardedPlaced guardedStable ?_
    rintro rfl
    exact different rfl

theorem atKey_map (stable : ∀ connection, (update connection).place = connection.place)
    (place : (IpProtocol × UInt16) × RemoteEndpoint A) (flat : List (Connection A)) :
    atKey Connection.place place (flat.map update) =
      (atKey Connection.place place flat).map update := by
  simp only [atKey, List.filter_map]
  congr 2
  funext connection
  simp [stable]

theorem Represents.modifyGroup (represents : map.Represents flat)
    (group : IpProtocol × UInt16) (update : Connection A → Connection A)
    (stable : ∀ connection, (update connection).place = connection.place) :
    Represents (map.modify group fun connections => connections.mapAll update)
      (flat.map fun connection =>
        if connection.getKey.small == group then update connection else connection) := by
  have guardedStable : ∀ connection : Connection A,
      (if connection.getKey.small == group then update connection else connection).place =
        connection.place := by
    intro connection
    split
    · exact stable connection
    · rfl
  refine represents.modify ?_ ?_ ?_ ?_
  · intro connections found
    exact RemoteConnections.mapAll_wellFormed (represents.wellFormed group connections found)
      stable
  · intro endpoint connections found
    have stored := represents.buckets (group, endpoint)
    simp only [entriesAt, found, Option.map_some, Option.getD_some] at stored
    rw [RemoteConnections.entriesAt_mapAll (represents.wellFormed group connections found) stable,
      atKey_map guardedStable, stored]
    refine List.map_congr_left ?_
    intro connection member
    have placed := of_decide_eq_true (List.mem_filter.mp member).2
    have inGroup : connection.getKey.small = group := congrArg Prod.fst placed
    simp [inGroup]
  · intro endpoint missing
    have stored := represents.buckets (group, endpoint)
    simp only [entriesAt, missing, Option.map_none, Option.getD_none] at stored
    rw [atKey_map guardedStable, ← stored, List.map_nil]
  · intro place different
    rw [atKey_map guardedStable]
    conv => rhs; rw [← List.map_id (atKey Connection.place place flat)]
    refine List.map_congr_left ?_
    intro connection member
    have placed := of_decide_eq_true (List.mem_filter.mp member).2
    have outside : connection.getKey.small ≠ group := by
      intro inGroup
      exact different (placed ▸ inGroup)
    simp [outside]

theorem Represents.mapEntries (represents : map.Represents flat)
    (stable : ∀ connection, (update connection).place = connection.place) :
    Represents (map.map fun _ connections => connections.mapAll update) (flat.map update) where
  wellFormed := by
    intro stored connections found
    rw [Std.TreeMap.getElem?_map] at found
    obtain ⟨source, inMap, rfl⟩ := Option.map_eq_some_iff.mp found
    exact RemoteConnections.mapAll_wellFormed (represents.wellFormed stored source inMap) stable
  buckets := by
    rintro ⟨stored, endpoint⟩
    rw [atKey_map stable, ← represents.buckets]
    simp only [entriesAt, Std.TreeMap.getElem?_map]
    cases found : map[stored]? with
    | none => rfl
    | some connections =>
        exact RemoteConnections.entriesAt_mapAll (represents.wellFormed stored connections found)
          stable

theorem Represents.insert (represents : map.Represents flat) (connection : Connection A) :
    Represents (map.insert connection.getKey.small ((map[connection.getKey.small]?.getD
        .empty).insert (remoteEndpointFromConnection connection) connection))
      (flat ++ [connection]) := by
  have valid : map[connection.getKey.small]?.getD .empty = .empty ∨
      (map[connection.getKey.small]?.getD .empty).WellFormed connection.getKey.small := by
    cases found : map[connection.getKey.small]? with
    | none => exact .inl rfl
    | some connections => exact .inr (represents.wellFormed _ connections found)
  refine ⟨?_, ?_⟩
  · intro stored connections found
    rw [Std.TreeMap.getElem?_insert] at found
    split at found
    · rename_i same
      rw [← Option.some.inj found, ← Std.LawfulEqCmp.eq_of_compare same]
      exact RemoteConnections.insert_wellFormed rfl valid
    · exact represents.wellFormed stored connections found
  · rintro ⟨stored, endpoint⟩
    rw [atKey_append, ← represents.buckets]
    simp only [entriesAt, Std.TreeMap.getElem?_insert, Std.LawfulEqCmp.compare_eq_iff_eq]
    split
    · rename_i same
      subst same
      simp only [Option.map_some, Option.getD_some]
      rw [RemoteConnections.entriesAt_insert rfl valid]
      congr 1
      · cases map[connection.getKey.small]? <;> rfl
      · by_cases target : remoteEndpointFromConnection connection = endpoint
        · simp [atKey, Connection.place, target]
        · simp [atKey, Connection.place, target]
    · rename_i different
      simp [atKey, Connection.place, different]

theorem Represents.retain (represents : map.Represents flat) :
    Represents (map.filterMap fun _ connections =>
      if (connections.retain test).isEmpty then none else some (connections.retain test))
      (flat.filter test) where
  wellFormed := by
    intro stored connections found
    rw [Std.TreeMap.getElem?_filterMap'] at found
    obtain ⟨source, inMap, kept⟩ := Option.bind_eq_some_iff.mp found
    split at kept
    · cases kept
    · rename_i notEmpty
      rw [← Option.some.inj kept]
      exact (RemoteConnections.retain_spec (represents.wellFormed stored source inMap)).2
        (by simpa using notEmpty)
  buckets := by
    rintro ⟨stored, endpoint⟩
    have filtered : atKey Connection.place (stored, endpoint) (flat.filter test) =
        (map.entriesAt (stored, endpoint)).filter test := by
      rw [represents.buckets, atKey, atKey, List.filter_filter, List.filter_filter]
      congr 1
      funext connection
      rw [Bool.and_comm]
    rw [filtered]
    simp only [entriesAt, Std.TreeMap.getElem?_filterMap']
    cases found : map[stored]? with
    | none => rfl
    | some connections =>
        have spec : (connections.retain test).entriesAt endpoint = _ :=
          (RemoteConnections.retain_spec (represents.wellFormed stored connections found)).1
            endpoint
        simp only [Option.bind_some, Option.map_some, Option.getD_some, ← spec]
        split
        · rename_i isEmpty
          cases retained : connections.retain test with
          | empty => rfl
          | one bucket => simp [retained, RemoteConnections.isEmpty] at isEmpty
          | many stored => simp [retained, RemoteConnections.isEmpty] at isEmpty
        · rfl

end Update

end ConnectionMap

end WindowsKext
