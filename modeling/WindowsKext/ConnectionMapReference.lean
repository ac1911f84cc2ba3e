import WindowsKext.ConnectionMapChecks

/-! The connection map refines a plain list of its inserted and not removed entries. The flat
operations below search and update that list directly; every map operation is simulated by
its flat counterpart, and every lookup has the flat result. -/

namespace WindowsKext

open FirstMatch KeyedGroups

variable {A : Type}

section Refresh

variable (connection : Connection A) (now : Nat)

@[simp] theorem instanceId_refreshUntrackedActivity :
    (refreshUntrackedActivity now connection).instanceId = connection.instanceId := by
  unfold refreshUntrackedActivity
  split <;> rfl

theorem refreshUntrackedActivity_of_ended (ended : connection.hasEnded = true) :
    refreshUntrackedActivity now connection = connection := by
  simp [refreshUntrackedActivity, ended]

variable [AddressFamily A]

@[simp] theorem getKey_refreshUntrackedActivity :
    (refreshUntrackedActivity now connection).getKey = connection.getKey := by
  unfold refreshUntrackedActivity
  split <;> rfl

@[simp] theorem place_refreshUntrackedActivity :
    (refreshUntrackedActivity now connection).place = connection.place :=
  Connection.place_eq_of_getKey_eq (getKey_refreshUntrackedActivity connection now)

@[simp] theorem place_endAt : (connection.endAt now).place = connection.place := rfl

@[simp] theorem place_markNativeLifecycle :
    connection.markNativeLifecycle.place = connection.place := rfl

end Refresh

variable [AddressFamily A]

/-- An in-place change of an entry through the `Connection` trait: the setters never touch the
tuple or the instance id. -/
structure EntryUpdate (A : Type) [AddressFamily A] where
  apply : Connection A → Connection A
  keepsTuple : ∀ connection, (apply connection).getKey = connection.getKey
  keepsInstance : ∀ connection, (apply connection).instanceId = connection.instanceId

theorem EntryUpdate.keepsPlace (update : EntryUpdate A) (connection : Connection A) :
    (update.apply connection).place = connection.place :=
  Connection.place_eq_of_getKey_eq (update.keepsTuple connection)

variable [DecidableEq A]

def isLiveExact (key : Key) (connection : Connection A) : Bool :=
  connection.remoteEquals key && !connection.hasEnded

def isEndedExact (key : Key) (connection : Connection A) : Bool :=
  connection.remoteEquals key && connection.hasEnded

theorem isLiveExact_exact (key : Key) (connection : Connection A)
    (accepted : isLiveExact key connection = true) : connection.remoteEquals key = true :=
  (Bool.and_eq_true _ _ ▸ accepted).1

theorem isEndedExact_exact (key : Key) (connection : Connection A)
    (accepted : isEndedExact key connection = true) : connection.remoteEquals key = true :=
  (Bool.and_eq_true _ _ ▸ accepted).1

namespace FlatReference

/-- Redirect candidates: the entries with the protocol and local port, ordered by remote
endpoint and then by insertion. -/
def candidates (flat : List (Connection A)) (group : IpProtocol × UInt16) :
    List (Connection A) :=
  sortByKey compareEndpoints remoteEndpointFromConnection
    (flat.filter fun connection => connection.getKey.small == group)

def liveRedirect (flat : List (Connection A)) (key : Key) : Option (Connection A) :=
  (candidates flat key.small).find? fun connection =>
    connection.redirectEquals key && !connection.hasEnded

def endedRedirect (flat : List (Connection A)) (key : Key) : Option (Connection A) :=
  (candidates flat key.small).find? fun connection =>
    connection.redirectEquals key && connection.hasEnded

/-- Precedence of `read`: the live exact match, else the first live redirect match. -/
def readLive (flat : List (Connection A)) (key : Key) : Option (Connection A) :=
  (flat.find? (isLiveExact key)).or (liveRedirect flat key)

/-- Retained history: the first inserted ended exact match, else the first ended redirect. -/
def readEnded (flat : List (Connection A)) (key : Key) : Option (Connection A) :=
  (flat.find? (isEndedExact key)).or (endedRedirect flat key)

/-- The matched connection of one packet. Only outbound packets use ended entries. -/
def readForPacket (flat : List (Connection A)) (key : Key) (direction : Direction) :
    Option (Connection A) :=
  match direction with
  | .inbound => readLive flat key
  | .outbound => (readLive flat key).or (readEnded flat key)

def liveInstance (flat : List (Connection A)) (key : Key) (instanceId : Nat) :
    Option (Connection A) :=
  if instanceId = 0 then none
  else
    (flat.find? (ConnectionMap.isLiveInstance key instanceId)).or
      ((candidates flat key.small).find? (ConnectionMap.isLiveRedirectInstance key instanceId))

def modifyCandidate (flat : List (Connection A)) (selected : Option (Connection A))
    (test : Connection A → Bool) (update : Connection A → Connection A) : List (Connection A) :=
  match selected with
  | none => flat
  | some selected => modifyFirst
      (fun connection => decide (connection.place = selected.place) && test connection) update flat

def refreshRead (flat : List (Connection A)) (now : Nat) (key : Key) : List (Connection A) :=
  if (flat.find? (isLiveExact key)).isSome then
    modifyFirst (isLiveExact key) (refreshUntrackedActivity now) flat
  else
    modifyCandidate flat (liveRedirect flat key)
      (fun connection => connection.redirectEquals key && !connection.hasEnded)
      (refreshUntrackedActivity now)

def updateInstance (flat : List (Connection A)) (key : Key) (instanceId : Nat)
    (update : Connection A → Connection A) : List (Connection A) :=
  if instanceId = 0 || (remoteEndpointFromKey A key).isNone then flat
  else if (flat.find? (ConnectionMap.isLiveInstance key instanceId)).isSome then
    modifyFirst (ConnectionMap.isLiveInstance key instanceId) update flat
  else
    modifyCandidate flat
      ((candidates flat key.small).find? (ConnectionMap.isLiveRedirectInstance key instanceId))
      (ConnectionMap.isLiveRedirectInstance key instanceId) update

/-- Inserts unless the exact tuple is live, in which case the live entry is updated. -/
def insertIfAbsentWith (flat : List (Connection A)) (connection : Connection A)
    (update : Connection A → Connection A) : List (Connection A) :=
  if (flat.find? (isLiveExact connection.getKey)).isSome then
    modifyFirst (isLiveExact connection.getKey) update flat
  else flat ++ [connection]

def markNativeLifecycleInstance (flat : List (Connection A)) (key : Key) (instanceId : Nat) :
    List (Connection A) :=
  if instanceId = 0 then flat
  else modifyFirst (ConnectionMap.isLiveInstance key instanceId) Connection.markNativeLifecycle flat

def endInstance (flat : List (Connection A)) (now : Nat) (key : Key) (instanceId : Nat) :
    Option (Connection A) × List (Connection A) :=
  if instanceId = 0 then (none, flat)
  else
    ((flat.find? (ConnectionMap.isLiveInstance key instanceId)).map fun connection =>
        connection.endAt now,
      modifyFirst (ConnectionMap.isLiveInstance key instanceId)
        (fun connection => connection.endAt now) flat)

def endInstances (flat : List (Connection A)) (now : Nat) :
    List (Key × Nat) → List (Connection A) × List (Connection A)
  | [] => ([], flat)
  | (key, instanceId) :: rest =>
      let first := endInstance flat now key instanceId
      let others := endInstances first.2 now rest
      (first.1.toList ++ others.1, others.2)

/-- Ends every entry that satisfies a test, and returns the ended entries. -/
def endWhere (flat : List (Connection A)) (now : Nat) (test : Connection A → Bool) :
    List (Connection A) × List (Connection A) :=
  ((flat.filter test).map fun connection => connection.endAt now,
    flat.map fun connection => if test connection then connection.endAt now else connection)

def endMatchingOnEndpoint (flat : List (Connection A)) (now : Nat) (group : IpProtocol × UInt16)
    (localAddress : Option IpAddress) (processId : Option Nat) (untrackedOnly : Bool) :
    List (Connection A) × List (Connection A) :=
  endWhere flat now fun connection => connection.getKey.small == group &&
    matchesEndpoint connection localAddress processId untrackedOnly

end FlatReference

namespace ConnectionMap

variable {map : ConnectionMap A} {flat : List (Connection A)} {key : Key}
  {test : Connection A → Bool} {update : Connection A → Connection A}

section Lookups

omit [DecidableEq A] in
theorem Represents.bucket_iter (represents : map.Represents flat) {endpoint : RemoteEndpoint A}
    (known : remoteEndpointFromKey A key = some endpoint) :
    ((map.bucket key).map ConnectionBucket.iter).getD [] =
      atKey Connection.place (key.small, endpoint) flat := by
  rw [← represents.buckets]
  simp only [bucket, known, entriesAt, RemoteConnections.entriesAt, Option.bind_eq_bind,
    Option.bind_some]
  cases map[key.small]? <;> rfl

omit [DecidableEq A] in
theorem find_atKey {place : (IpProtocol × UInt16) × RemoteEndpoint A}
    (placed : ∀ connection, test connection = true → connection.place = place) :
    (atKey Connection.place place flat).find? test = flat.find? test := by
  rw [atKey, List.find?_filter]
  congr 1
  funext connection
  cases accepted : test connection with
  | true => simp [placed connection accepted]
  | false => simp

theorem find_eq_none_of_foreign (foreign : remoteEndpointFromKey A key = none)
    (exact : ∀ connection, test connection = true → connection.remoteEquals key = true) :
    flat.find? test = none := by
  rw [List.find?_eq_none]
  intro connection _ accepted
  obtain ⟨endpoint, known, _⟩ := place_of_remoteEquals (exact connection accepted)
  rw [foreign] at known
  cases known

theorem Represents.find_bucket (represents : map.Represents flat)
    (exact : ∀ connection, test connection = true → connection.remoteEquals key = true) :
    ((map.bucket key).bind fun bucket => bucket.iter.find? test) = flat.find? test := by
  cases known : remoteEndpointFromKey A key with
  | none =>
      rw [find_eq_none_of_foreign known exact]
      simp [bucket, known]
  | some endpoint =>
      have placed : ∀ connection, test connection = true →
          connection.place = (key.small, endpoint) := by
        intro connection accepted
        obtain ⟨found, same, placed⟩ := place_of_remoteEquals (exact connection accepted)
        rw [known] at same
        rw [placed, Option.some.inj same]
      rw [← find_atKey placed, ← represents.bucket_iter known]
      cases map.bucket key <;> simp

omit [DecidableEq A] in
theorem Represents.find_group (represents : map.Represents flat)
    (group : IpProtocol × UInt16) (test : Connection A → Bool) :
    (map[group]?.bind fun connections => connections.iter.find? test) =
      (FlatReference.candidates flat group).find? test := by
  rw [FlatReference.candidates, ← represents.iter_eq]
  cases map[group]? <;> simp

omit [AddressFamily A] [DecidableEq A] in
theorem liveAndEndedMatch_spec (matched : Connection A → Bool) (ended : Option (Connection A))
    (entries : List (Connection A)) :
    (liveAndEndedMatch matched ended entries).1 =
        entries.find? (fun connection => matched connection && !connection.hasEnded) ∧
      ((liveAndEndedMatch matched ended entries).1 = none →
        (liveAndEndedMatch matched ended entries).2 = ended.or
          (entries.find? fun connection => matched connection && connection.hasEnded)) := by
  induction entries generalizing ended with
  | nil => simp [liveAndEndedMatch]
  | cons connection rest ih =>
      cases accepted : matched connection with
      | false => simpa [liveAndEndedMatch, accepted] using ih ended
      | true =>
          cases closed : connection.hasEnded with
          | false => simp [liveAndEndedMatch, accepted, closed]
          | true =>
              have step := ih (ended.or (some connection))
              simpa [liveAndEndedMatch, accepted, closed, Option.or_assoc] using step

end Lookups

section Updates

theorem Represents.updateInBucket (represents : map.Represents flat) (key : Key)
    (test : Connection A → Bool) (update : Connection A → Connection A)
    (exact : ∀ connection, test connection = true → connection.remoteEquals key = true)
    (stable : ∀ connection, test connection = true →
      (update connection).place = connection.place) :
    (map.updateInBucket key test update).1 = (flat.find? test).map update ∧
      (map.updateInBucket key test update).2.Represents (modifyFirst test update flat) := by
  rw [ConnectionMap.updateInBucket, represents.find_bucket exact]
  cases found : flat.find? test with
  | none => exact ⟨rfl, by rwa [modifyFirst_of_none found]⟩
  | some connection =>
      refine ⟨rfl, ?_⟩
      obtain ⟨endpoint, known, placed⟩ :=
        place_of_remoteEquals (exact connection (List.find?_some found))
      simp only [ConnectionMap.modifyBucket, known]
      refine represents.modifyBucket ?_ stable
      intro other accepted
      obtain ⟨second, same, placed⟩ := place_of_remoteEquals (exact other accepted)
      rw [known] at same
      rw [placed, Option.some.inj same]

omit [DecidableEq A] in
theorem Represents.updateInGroup (represents : map.Represents flat) (key : Key)
    (test : Connection A → Bool) (update : Connection A → Connection A)
    (stable : ∀ connection, test connection = true →
      (update connection).place = connection.place) :
    (map.updateInGroup key test update).1 =
        ((FlatReference.candidates flat key.small).find? test).map update ∧
      (map.updateInGroup key test update).2.Represents (FlatReference.modifyCandidate flat
        ((FlatReference.candidates flat key.small).find? test) test update) := by
  rw [← represents.find_group]
  rw [ConnectionMap.updateInGroup]
  cases inMap : map[key.small]? with
  | none => exact ⟨rfl, represents⟩
  | some connections =>
      simp only [Option.bind_some]
      cases found : connections.iter.find? test with
      | none => exact ⟨rfl, represents⟩
      | some connection => exact ⟨rfl, represents.modifyFound inMap found stable⟩

theorem Represents.insertIfAbsentWith (represents : map.Represents flat)
    (connection : Connection A) (update : EntryUpdate A) :
    (map.insertIfAbsentWith connection update.apply).1 =
        (match flat.find? (isLiveExact connection.getKey) with
        | some existing => .error (connection, existing.instanceId)
        | none => .ok connection.instanceId) ∧
      (map.insertIfAbsentWith connection update.apply).2.Represents
        (FlatReference.insertIfAbsentWith flat connection update.apply) := by
  have known : remoteEndpointFromKey A connection.getKey =
      some (remoteEndpointFromConnection connection) := by
    obtain ⟨endpoint, known, placed⟩ := place_of_remoteEquals
      ((connection.remoteEquals_iff connection.getKey).mpr rfl)
    rw [known, show remoteEndpointFromConnection connection = endpoint from
      congrArg Prod.snd placed]
  have exact := isLiveExact_exact (A := A) connection.getKey
  have search := represents.find_bucket exact
  have bucketEq : map.bucket connection.getKey =
      (map[connection.getKey.small]?.getD .empty).get (remoteEndpointFromConnection connection) := by
    simp only [bucket, known, Option.bind_eq_bind, Option.bind_some]
    cases map[connection.getKey.small]? <;> rfl
  have updated := (represents.updateInBucket _ _ update.apply exact
    fun entry _ => update.keepsPlace entry).2
  rw [bucketEq] at search
  simp only [ConnectionMap.insertIfAbsentWith]
  change ((map[connection.getKey.small]?.getD .empty).get
    (remoteEndpointFromConnection connection)).bind (fun bucket => bucket.iter.find? fun existing =>
      existing.remoteEquals connection.getKey && !existing.hasEnded) = _ at search
  rw [search, FlatReference.insertIfAbsentWith]
  cases found : flat.find? (isLiveExact connection.getKey) with
  | none => exact ⟨rfl, represents.insert connection⟩
  | some existing =>
      refine ⟨rfl, ?_⟩
      have inBucket := represents.find_bucket exact
      rw [found] at inBucket
      simp only [ConnectionMap.updateInBucket, inBucket, ConnectionMap.modifyBucket,
        known] at updated
      refine updated.congr ?_
      intro group
      rw [Std.TreeMap.getElem?_insert, Std.TreeMap.getElem?_modify]
      split
      · cases inMap : map[connection.getKey.small]? with
        | none => simp [bucketEq, inMap, RemoteConnections.get] at inBucket
        | some connections => rfl
      · rfl

theorem Represents.getMut (represents : map.Represents flat) (now : Nat) (key : Key)
    (update : EntryUpdate A) :
    (map.getMut now key update.apply).1 = (flat.find? (isLiveExact key)).map
        (fun connection => update.apply (refreshUntrackedActivity now connection)) ∧
      (map.getMut now key update.apply).2.Represents (modifyFirst (isLiveExact key)
        (fun connection => update.apply (refreshUntrackedActivity now connection)) flat) := by
  refine represents.updateInBucket _ _ _ (isLiveExact_exact key) ?_
  intro connection _
  rw [update.keepsPlace, place_refreshUntrackedActivity]

theorem isLiveInstance_exact {instanceId : Nat} (connection : Connection A)
    (accepted : isLiveInstance key instanceId connection = true) :
    connection.remoteEquals key = true := by
  simp only [isLiveInstance, Bool.and_eq_true] at accepted
  exact accepted.1.1

omit [DecidableEq A] in
theorem candidates_find_eq_none (notRedirect : isRedirectPort false key.remotePort = false)
    (redirect : ∀ connection, test connection = true → connection.redirectEquals key = true) :
    (FlatReference.candidates flat key.small).find? test = none := by
  rw [List.find?_eq_none]
  intro connection _ accepted
  rw [Connection.redirectEquals_port (redirect connection accepted)] at notRedirect
  cases notRedirect

omit [DecidableEq A] in
theorem isLiveRedirectInstance_redirect {instanceId : Nat} (connection : Connection A)
    (accepted : isLiveRedirectInstance key instanceId connection = true) :
    connection.redirectEquals key = true := by
  simp only [isLiveRedirectInstance, Bool.and_eq_true] at accepted
  exact accepted.1.1

theorem Represents.getLiveInstanceMatching (represents : map.Represents flat) (key : Key)
    (instanceId : Nat) :
    map.getLiveInstanceMatching false key instanceId =
      FlatReference.liveInstance flat key instanceId := by
  unfold ConnectionMap.getLiveInstanceMatching FlatReference.liveInstance
  by_cases zero : instanceId = 0
  · simp [zero]
  · simp only [zero, beq_iff_eq, ↓reduceIte, represents.find_bucket isLiveInstance_exact]
    cases found : flat.find? (isLiveInstance key instanceId) with
    | some connection => simp
    | none =>
        cases port : isRedirectPort false key.remotePort with
        | true => simp [represents.find_group]
        | false => simp [candidates_find_eq_none port isLiveRedirectInstance_redirect]

theorem Represents.hasLiveInstance (represents : map.Represents flat) (key : Key)
    (instanceId : Nat) :
    map.hasLiveInstance key instanceId =
      (instanceId != 0 && flat.any (isLiveInstance key instanceId)) := by
  have exact := @isLiveInstance_exact A _ _ key instanceId
  have search := congrArg Option.isSome (represents.find_bucket exact)
  rw [List.isSome_find?] at search
  rw [← search, ConnectionMap.hasLiveInstance]
  cases map.bucket key with
  | none => simp
  | some bucket =>
      rw [Option.bind_some, List.isSome_find?]
      by_cases zero : instanceId = 0
      · simp [zero]
      · simp [zero, bne]

theorem Represents.getMutInstance (represents : map.Represents flat) (now : Nat) (key : Key)
    (instanceId : Nat) (update : EntryUpdate A) :
    (map.getMutInstance false now key instanceId update.apply).1 =
        (if (remoteEndpointFromKey A key).isSome then
          (FlatReference.liveInstance flat key instanceId).map
            (fun connection => update.apply (refreshUntrackedActivity now connection))
        else none) ∧
      (map.getMutInstance false now key instanceId update.apply).2.Represents
        (FlatReference.updateInstance flat key instanceId
          (fun connection => update.apply (refreshUntrackedActivity now connection))) := by
  have stable : ∀ connection : Connection A,
      (update.apply (refreshUntrackedActivity now connection)).place = connection.place := by
    intro connection
    rw [update.keepsPlace, place_refreshUntrackedActivity]
  have inBucket := represents.updateInBucket key (isLiveInstance key instanceId)
    (fun connection => update.apply (refreshUntrackedActivity now connection))
    isLiveInstance_exact fun connection _ => stable connection
  have inGroup := represents.updateInGroup key (isLiveRedirectInstance key instanceId)
    (fun connection => update.apply (refreshUntrackedActivity now connection))
    fun connection _ => stable connection
  unfold ConnectionMap.getMutInstance FlatReference.liveInstance FlatReference.updateInstance
  by_cases zero : instanceId = 0
  · simp [zero, represents]
  cases known : remoteEndpointFromKey A key with
  | none => simp [zero, represents]
  | some endpoint =>
      simp only [zero, beq_iff_eq, ↓reduceIte, Option.isSome_some, Option.isNone_some,
        decide_false, Bool.or_self, Bool.false_eq_true]
      cases port : isRedirectPort false key.remotePort with
      | false =>
          simp only [Bool.not_false, ↓reduceIte]
          rw [candidates_find_eq_none port isLiveRedirectInstance_redirect, Option.or_none]
          refine ⟨inBucket.1, ?_⟩
          split
          · exact inBucket.2
          · rename_i missing
            have absent : flat.find? (isLiveInstance key instanceId) = none := by simpa using missing
            rw [modifyFirst_of_none absent] at inBucket
            exact inBucket.2
      | true =>
          simp only [Bool.not_true, Bool.false_eq_true, ↓reduceIte]
          cases found : flat.find? (isLiveInstance key instanceId) with
          | some connection =>
              rw [found] at inBucket
              generalize ConnectionMap.updateInBucket map key _ _ = result at inBucket ⊢
              obtain ⟨selected, updated⟩ := result
              simp only [Option.map_some] at inBucket
              rw [inBucket.1]
              exact ⟨by simp, inBucket.2⟩
          | none =>
              rw [found] at inBucket
              generalize ConnectionMap.updateInBucket map key _ _ = result at inBucket ⊢
              obtain ⟨selected, updated⟩ := result
              simp only [Option.map_none] at inBucket
              rw [inBucket.1]
              simpa using inGroup

theorem Represents.exact_match (represents : map.Represents flat) (key : Key)
    {connections : RemoteConnections A} (inMap : map[key.small]? = some connections) :
    ∃ liveExact endedExact,
      exactMatches connections key = (liveExact, endedExact) ∧
      liveExact = flat.find? (isLiveExact key) ∧
      (liveExact = none → endedExact = flat.find? (isEndedExact key)) := by
  have bucketEq : map.bucket key = (remoteEndpointFromKey A key).bind connections.get := by
    simp [bucket, inMap]
  have live := represents.find_bucket (isLiveExact_exact key)
  have ended := represents.find_bucket (isEndedExact_exact key)
  rw [bucketEq] at live ended
  rw [exactMatches]
  cases stored : (remoteEndpointFromKey A key).bind connections.get with
  | none =>
      rw [stored] at live ended
      exact ⟨none, none, rfl, live, fun _ => ended⟩
  | some bucket =>
      rw [stored] at live ended
      have spec := liveAndEndedMatch_spec (fun connection => connection.remoteEquals key) none
        bucket.iter
      refine ⟨_, _, rfl, spec.1.trans live, ?_⟩
      intro missing
      rw [spec.2 missing, Option.none_or]
      exact ended

omit [DecidableEq A] in
theorem Represents.redirect_match (represents : map.Represents flat) (key : Key)
    {connections : RemoteConnections A} (inMap : map[key.small]? = some connections) :
    ∃ liveRedirect endedRedirect,
      redirectMatches false connections key = (liveRedirect, endedRedirect) ∧
      liveRedirect = FlatReference.liveRedirect flat key ∧
      (liveRedirect = none → endedRedirect = FlatReference.endedRedirect flat key) := by
  rw [redirectMatches]
  cases port : isRedirectPort false key.remotePort with
  | false =>
      refine ⟨none, none, rfl, (candidates_find_eq_none port ?_).symm,
        fun _ => (candidates_find_eq_none port ?_).symm⟩
      · intro connection accepted
        exact (Bool.and_eq_true _ _ ▸ accepted).1
      · intro connection accepted
        exact (Bool.and_eq_true _ _ ▸ accepted).1
  | true =>
      have spec := liveAndEndedMatch_spec (fun connection => connection.redirectEquals key) none
        connections.iter
      have order := represents.iter_of_found inMap
      refine ⟨_, _, rfl, ?_, ?_⟩
      · rw [spec.1, order]
        rfl
      · intro missing
        rw [spec.2 missing, Option.none_or, order]
        rfl

theorem Represents.absent_group (represents : map.Represents flat)
    (missing : map[key.small]? = none) :
    (∀ test : Connection A → Bool,
      (∀ connection, test connection = true → connection.remoteEquals key = true) →
        flat.find? test = none) ∧
      FlatReference.candidates flat key.small = [] := by
  constructor
  · intro test exact
    rw [← represents.find_bucket exact, bucket, missing]
    cases remoteEndpointFromKey A key <;> rfl
  · rw [FlatReference.candidates, ← represents.iter_eq, missing]
    rfl

theorem Represents.readMatching {C : Type} (represents : map.Represents flat) (now : Nat)
    (key : Key) (readConnection : Connection A → Option C) (useEndedFallback : Bool) :
    (map.readMatching false now key readConnection useEndedFallback).1 =
        ((FlatReference.readLive flat key).or
          (if useEndedFallback then FlatReference.readEnded flat key else none)).bind
          (fun connection => readConnection (refreshUntrackedActivity now connection)) ∧
      (map.readMatching false now key readConnection useEndedFallback).2.Represents
        (FlatReference.refreshRead flat now key) := by
  unfold ConnectionMap.readMatching FlatReference.readLive FlatReference.readEnded
    FlatReference.refreshRead
  cases inMap : map[key.small]? with
  | none =>
      obtain ⟨noExact, noCandidates⟩ := represents.absent_group inMap
      simp only [noExact _ (isLiveExact_exact key), noExact _ (isEndedExact_exact key),
        FlatReference.liveRedirect, FlatReference.endedRedirect, noCandidates]
      refine ⟨?_, represents⟩
      cases useEndedFallback <;> rfl
  | some connections =>
      obtain ⟨liveExact, endedExact, exactEq, liveEq, endedEq⟩ := represents.exact_match key inMap
      obtain ⟨liveRedirect, endedRedirect, redirectEq, liveRedirectEq, endedRedirectEq⟩ :=
        represents.redirect_match key inMap
      simp only [exactEq, redirectEq]
      rw [← liveEq, ← liveRedirectEq]
      cases liveExact with
      | some connection =>
          refine ⟨rfl, ?_⟩
          have updated := (represents.updateInBucket key (isLiveExact key)
            (refreshUntrackedActivity now) (isLiveExact_exact key)
            fun entry _ => place_refreshUntrackedActivity entry now).2
          rw [ConnectionMap.updateInBucket, represents.find_bucket (isLiveExact_exact key),
            ← liveEq] at updated
          exact updated
      | none =>
          cases liveRedirect with
          | some connection =>
              refine ⟨rfl, ?_⟩
              have selected := represents.find_group key.small fun connection =>
                connection.redirectEquals key && !connection.hasEnded
              rw [inMap, Option.bind_some] at selected
              refine represents.modifyFound inMap (selected.trans liveRedirectEq.symm) ?_
              intro entry _
              exact place_refreshUntrackedActivity entry now
          | none =>
              rw [← endedEq rfl, ← endedRedirectEq rfl]
              cases useEndedFallback with
              | false => exact ⟨rfl, represents⟩
              | true =>
                  simp only [↓reduceIte, Option.none_or]
                  cases endedExact.or endedRedirect with
                  | none => exact ⟨rfl, represents⟩
                  | some connection => exact ⟨rfl, represents⟩

theorem Represents.readEndedExact {C : Type} (represents : map.Represents flat) (key : Key)
    (readConnection : Connection A → Option C) :
    map.readEndedExact key readConnection =
      (flat.reverse.find? (isEndedExact key)).bind readConnection := by
  have exact := isEndedExact_exact (A := A) key
  rw [ConnectionMap.readEndedExact]
  congr 1
  cases known : remoteEndpointFromKey A key with
  | none =>
      rw [find_eq_none_of_foreign known exact]
      simp [bucket, known]
  | some endpoint =>
      have placed : ∀ connection, isEndedExact key connection = true →
          connection.place = (key.small, endpoint) := by
        intro connection accepted
        obtain ⟨found, same, placed⟩ := place_of_remoteEquals (exact connection accepted)
        rw [known] at same
        rw [placed, Option.some.inj same]
      have reversed : atKey Connection.place (key.small, endpoint) flat.reverse =
          (((map.bucket key).map ConnectionBucket.iter).getD []).reverse := by
        rw [represents.bucket_iter known, atKey, atKey, List.filter_reverse]
      rw [← find_atKey placed, reversed]
      cases map.bucket key with
      | none => rfl
      | some bucket => rfl

end Updates

section Ends

theorem Represents.markNativeLifecycleInstance (represents : map.Represents flat) (key : Key)
    (instanceId : Nat) :
    (map.markNativeLifecycleInstance key instanceId).2.Represents
      (FlatReference.markNativeLifecycleInstance flat key instanceId) := by
  have updated := represents.updateInBucket key (isLiveInstance key instanceId)
    Connection.markNativeLifecycle isLiveInstance_exact fun connection _ =>
      place_markNativeLifecycle connection
  unfold ConnectionMap.markNativeLifecycleInstance FlatReference.markNativeLifecycleInstance
  by_cases zero : instanceId = 0
  · simp [zero, represents]
  · simp only [zero, beq_iff_eq, ↓reduceIte]
    cases found : flat.find? (isLiveInstance key instanceId) with
    | none =>
        rw [found, modifyFirst_of_none found] at updated
        rw [modifyFirst_of_none found]
        generalize ConnectionMap.updateInBucket map key _ _ = result at updated ⊢
        obtain ⟨selected, changed⟩ := result
        simp only [Option.map_none] at updated
        rw [updated.1]
        exact represents
    | some connection =>
        rw [found] at updated
        generalize ConnectionMap.updateInBucket map key _ _ = result at updated ⊢
        obtain ⟨selected, changed⟩ := result
        simp only [Option.map_some] at updated
        rw [updated.1]
        exact updated.2

theorem Represents.endInstance (represents : map.Represents flat) (now : Nat) (key : Key)
    (instanceId : Nat) :
    (map.endInstance now key instanceId).1 =
        (FlatReference.endInstance flat now key instanceId).1 ∧
      (map.endInstance now key instanceId).2.Represents
        (FlatReference.endInstance flat now key instanceId).2 := by
  unfold ConnectionMap.endInstance FlatReference.endInstance
  by_cases zero : instanceId = 0
  · simp [zero, represents]
  · simp only [zero, beq_iff_eq, ↓reduceIte]
    exact represents.updateInBucket key _ _ isLiveInstance_exact fun connection _ =>
      place_endAt connection now

theorem Represents.endInstances (represents : map.Represents flat) (now : Nat)
    (instances : List (Key × Nat)) :
    (map.endInstances now instances).1 = (FlatReference.endInstances flat now instances).1 ∧
      (map.endInstances now instances).2.Represents
        (FlatReference.endInstances flat now instances).2 := by
  induction instances generalizing map flat with
  | nil => exact ⟨rfl, represents⟩
  | cons first rest ih =>
      obtain ⟨key, instanceId⟩ := first
      have step := represents.endInstance now key instanceId
      simp only [ConnectionMap.endInstances, FlatReference.endInstances]
      generalize ConnectionMap.endInstance map now key instanceId = result at step ⊢
      obtain ⟨selected, changed⟩ := result
      have others := ih step.2
      rw [← step.1]
      cases selected with
      | none => exact others
      | some connection => exact ⟨by simp [others.1], others.2⟩

omit [DecidableEq A] in
theorem Represents.endMatchingOnEndpoint (represents : map.Represents flat) (now : Nat)
    (group : IpProtocol × UInt16) (localAddress : Option IpAddress) (processId : Option Nat)
    (untrackedOnly : Bool) :
    (((map.endMatchingOnEndpoint now group localAddress processId untrackedOnly).1.getD []).Perm
        (FlatReference.endMatchingOnEndpoint flat now group localAddress processId
          untrackedOnly).1) ∧
      (map.endMatchingOnEndpoint now group localAddress processId untrackedOnly).2.Represents
        (FlatReference.endMatchingOnEndpoint flat now group localAddress processId
          untrackedOnly).2 := by
  have groupOrder := represents.iter_eq group
  have updated := represents.modifyGroup group
    (fun connection =>
      if matchesEndpoint connection localAddress processId untrackedOnly then
        connection.endAt now else connection) (by intro connection; split <;> rfl)
  have merged : ∀ connection : Connection A,
      (if connection.getKey.small == group then
        if matchesEndpoint connection localAddress processId untrackedOnly then
          connection.endAt now else connection
      else connection) =
      if connection.getKey.small == group &&
          matchesEndpoint connection localAddress processId untrackedOnly then
        connection.endAt now else connection := by
    intro connection
    cases connection.getKey.small == group <;> simp
  simp only [merged] at updated
  rw [FlatReference.endMatchingOnEndpoint, FlatReference.endWhere,
    ConnectionMap.endMatchingOnEndpoint]
  have sorted := List.mergeSort_perm
    (flat.filter fun connection => connection.getKey.small == group)
    fun left right => (compareEndpoints (remoteEndpointFromConnection left)
      (remoteEndpointFromConnection right)).isLE
  have ended := ((sorted.filter fun connection =>
    matchesEndpoint connection localAddress processId untrackedOnly).map
      fun connection => connection.endAt now)
  rw [List.filter_filter] at ended
  cases inMap : map[group]? with
  | none =>
      refine ⟨?_, updated.congr ?_⟩
      · rw [inMap] at groupOrder
        change [] = List.mergeSort _ _ at groupOrder
        rw [← groupOrder] at ended
        simpa [Bool.and_comm] using ended
      · intro other
        rw [Std.TreeMap.getElem?_modify, inMap]
        by_cases same : compareGroups group other = .eq
        · rw [if_pos same, ← Std.LawfulEqCmp.eq_of_compare same]
          exact inMap
        · rw [if_neg same]
  | some connections =>
      refine ⟨?_, updated⟩
      rw [inMap] at groupOrder
      change connections.iter = List.mergeSort _ _ at groupOrder
      rw [← groupOrder] at ended
      simpa [Bool.and_comm] using ended

theorem Represents.endInactiveUntrackedConnections (represents : map.Represents flat)
    (now : Nat) :
    (map.endInactiveUntrackedConnections now).1.Perm (FlatReference.endWhere flat now fun
        connection => shouldExpireUntracked connection (now - untrackedIdleTimeout)).1 ∧
      (map.endInactiveUntrackedConnections now).2.Represents (FlatReference.endWhere flat now fun
        connection => shouldExpireUntracked connection (now - untrackedIdleTimeout)).2 := by
  refine ⟨(represents.entries_perm.filter _).map _, represents.mapEntries ?_⟩
  intro connection
  split <;> rfl

end Ends

end ConnectionMap

end WindowsKext
