import WindowsKext.ConnectionMapRuns

/-! Replies of a local redirect target. A reply is found through the redirect rule, which does not
look at the local address of the entry. -/

namespace WindowsKext

open FirstMatch KeyedGroups

variable {A : Type} [AddressFamily A] [DecidableEq A]

/-- The entries with the protocol and local port of the key, in the order of the redirect scan. -/
def ConnectionMap.scan (map : ConnectionMap A) (key : Key) : List (Connection A) :=
  (map[key.small]?.map RemoteConnections.iter).getD []

/-- Every lookup of the key selects an entry of its local address. -/
structure AttributesReply (ignoreSpecialPorts : Bool) (map : ConnectionMap A) (key : Key) :
    Prop where
  read : ∀ now, ∀ connection ∈ (map.read ignoreSpecialPorts now key some).1,
    connection.getLocalAddress = key.localAddress
  readForPacket : ∀ now direction,
    ∀ connection ∈ (map.readForPacket ignoreSpecialPorts now key direction some).1,
      connection.getLocalAddress = key.localAddress
  getLiveInstanceMatching : ∀ instanceId,
    ∀ connection ∈ map.getLiveInstanceMatching ignoreSpecialPorts key instanceId,
      connection.getLocalAddress = key.localAddress
  getMutInstance : ∀ now instanceId (update : EntryUpdate A),
    ∀ connection ∈ (map.getMutInstance ignoreSpecialPorts now key instanceId update.apply).1,
      connection.getLocalAddress = key.localAddress

/-- The first of the accepted entries has another local address. -/
def ForeignFirst (key : Key) (test : Connection A → Bool) (scan : List (Connection A)) : Prop :=
  ∃ before foreign after, scan = before ++ foreign :: after ∧ test foreign = true ∧
    foreign.getLocalAddress ≠ key.localAddress ∧ ∀ entry ∈ before, test entry = false

def isLiveRedirect (key : Key) (connection : Connection A) : Bool :=
  connection.redirectEquals key && !connection.hasEnded

def isEndedRedirect (key : Key) (connection : Connection A) : Bool :=
  connection.redirectEquals key && connection.hasEnded

/-- No redirected entry of another local address is scanned before those of the key's own. -/
structure OwnRedirectsFirst (key : Key) (scan : List (Connection A)) : Prop where
  live : (∀ entry ∈ scan, isLiveExact key entry = false) →
    ¬ ForeignFirst key (isLiveRedirect key) scan
  retained : (∀ entry ∈ scan, isLiveExact key entry = false ∧ isLiveRedirect key entry = false ∧
    isEndedExact key entry = false) → ¬ ForeignFirst key (isEndedRedirect key) scan
  instances : ∀ instanceId, instanceId ≠ 0 →
    (∀ entry ∈ scan, ConnectionMap.isLiveInstance key instanceId entry = false) →
    ¬ ForeignFirst key (ConnectionMap.isLiveRedirectInstance key instanceId) scan

omit [DecidableEq A] in
theorem foreignFirst_iff {key : Key} {test : Connection A → Bool} {scan : List (Connection A)} :
    ForeignFirst key test scan ↔
      ∃ foreign, scan.find? test = some foreign ∧ foreign.getLocalAddress ≠ key.localAddress := by
  constructor
  · rintro ⟨before, foreign, after, rfl, accepted, elsewhere, rejected⟩
    refine ⟨foreign, ?_, elsewhere⟩
    rw [List.find?_eq_some_iff_append]
    exact ⟨accepted, before, after, rfl, fun entry member => by simp [rejected entry member]⟩
  · rintro ⟨foreign, found, elsewhere⟩
    rw [List.find?_eq_some_iff_append] at found
    obtain ⟨accepted, before, after, rfl, rejected⟩ := found
    exact ⟨before, foreign, after, rfl, accepted, elsewhere,
      fun entry member => by simpa using rejected entry member⟩

theorem getLocalAddress_of_remoteEquals {connection : Connection A} {key : Key}
    (matched : connection.remoteEquals key = true) :
    connection.getLocalAddress = key.localAddress :=
  congrArg Key.localAddress ((connection.remoteEquals_iff key).mp matched)

omit [DecidableEq A] in
theorem getLocalAddress_refreshUntrackedActivity (connection : Connection A) (now : Nat) :
    (refreshUntrackedActivity now connection).getLocalAddress = connection.getLocalAddress :=
  congrArg Key.localAddress (getKey_refreshUntrackedActivity connection now)

section Reachable

variable {map : ConnectionMap A} {flat : List (Connection A)} {key : Key}

omit [DecidableEq A] in
theorem scan_eq_candidates (represents : map.Represents flat) (key : Key) :
    map.scan key = FlatReference.candidates flat key.small :=
  represents.iter_eq key.small

theorem find_exact_eq_none_iff (represents : map.Represents flat) {test : Connection A → Bool}
    (exact : ∀ connection, test connection = true → connection.remoteEquals key = true) :
    flat.find? test = none ↔ ∀ entry ∈ map.scan key, test entry = false := by
  rw [scan_eq_candidates represents, List.find?_eq_none]
  constructor
  · intro absent entry member
    rw [FlatReference.candidates, sortByKey, List.mem_mergeSort, List.mem_filter] at member
    simpa using absent entry member.1
  · intro absent entry member accepted
    have grouped : entry ∈ FlatReference.candidates flat key.small := by
      rw [FlatReference.candidates, sortByKey, List.mem_mergeSort, List.mem_filter]
      refine ⟨member, ?_⟩
      rw [(entry.remoteEquals_iff key).mp (exact entry accepted)]
      exact beq_self_eq_true _
    rw [absent entry grouped] at accepted
    cases accepted

theorem or_find_local_iff {test scanTest : Connection A → Bool}
    (represents : map.Represents flat)
    (exact : ∀ connection, test connection = true → connection.remoteEquals key = true) :
    (∀ connection ∈ (flat.find? test).or ((map.scan key).find? scanTest),
        connection.getLocalAddress = key.localAddress) ↔
      ((∀ entry ∈ map.scan key, test entry = false) →
        ¬ ForeignFirst key scanTest (map.scan key)) := by
  rw [← find_exact_eq_none_iff represents exact, foreignFirst_iff]
  cases found : flat.find? test with
  | some connection =>
      refine iff_of_true ?_ fun impossible => by cases impossible
      intro other same
      cases same
      exact getLocalAddress_of_remoteEquals (exact _ (List.find?_some found))
  | none =>
      simp only [Option.none_or, forall_const, not_exists, not_and, ne_eq, Decidable.not_not]
      exact Iff.rfl

omit [DecidableEq A] in
theorem forall_mem_bind_refresh {selected : Option (Connection A)} {now : Nat} {address : IpAddress} :
    (∀ connection ∈ selected.bind fun connection =>
        some (refreshUntrackedActivity now connection), connection.getLocalAddress = address) ↔
      ∀ connection ∈ selected, connection.getLocalAddress = address := by
  cases selected with
  | none => simp
  | some connection => simp [getLocalAddress_refreshUntrackedActivity]

theorem readLive_local_iff (represents : map.Represents flat) :
    (∀ connection ∈ FlatReference.readLive flat key,
        connection.getLocalAddress = key.localAddress) ↔
      ((∀ entry ∈ map.scan key, isLiveExact key entry = false) →
        ¬ ForeignFirst key (isLiveRedirect key) (map.scan key)) := by
  rw [FlatReference.readLive, FlatReference.liveRedirect, ← scan_eq_candidates represents]
  exact or_find_local_iff represents (isLiveExact_exact key)

theorem readEnded_local_iff (represents : map.Represents flat) :
    (∀ connection ∈ FlatReference.readEnded flat key,
        connection.getLocalAddress = key.localAddress) ↔
      ((∀ entry ∈ map.scan key, isEndedExact key entry = false) →
        ¬ ForeignFirst key (isEndedRedirect key) (map.scan key)) := by
  rw [FlatReference.readEnded, FlatReference.endedRedirect, ← scan_eq_candidates represents]
  exact or_find_local_iff represents (isEndedExact_exact key)

theorem liveInstance_local_iff (represents : map.Represents flat) {instanceId : Nat}
    (valid : instanceId ≠ 0) :
    (∀ connection ∈ FlatReference.liveInstance flat key instanceId,
        connection.getLocalAddress = key.localAddress) ↔
      ((∀ entry ∈ map.scan key, ConnectionMap.isLiveInstance key instanceId entry = false) →
        ¬ ForeignFirst key (ConnectionMap.isLiveRedirectInstance key instanceId)
          (map.scan key)) := by
  rw [FlatReference.liveInstance, if_neg valid, ← scan_eq_candidates represents]
  exact or_find_local_iff represents ConnectionMap.isLiveInstance_exact

theorem readLive_eq_none_iff (represents : map.Represents flat) :
    FlatReference.readLive flat key = none ↔
      ∀ entry ∈ map.scan key, isLiveExact key entry = false ∧ isLiveRedirect key entry = false := by
  rw [FlatReference.readLive, Option.or_eq_none_iff,
    find_exact_eq_none_iff represents (isLiveExact_exact key), FlatReference.liveRedirect,
    ← scan_eq_candidates represents, List.find?_eq_none]
  constructor
  · rintro ⟨exact, redirect⟩ entry member
    exact ⟨exact entry member, by simpa [isLiveRedirect] using redirect entry member⟩
  · intro absent
    refine ⟨fun entry member => (absent entry member).1, fun entry member => ?_⟩
    have rejected := (absent entry member).2
    rw [isLiveRedirect] at rejected
    simp [rejected]

theorem attributesReply_iff (represents : map.Represents flat) :
    AttributesReply false map key ↔ OwnRedirectsFirst key (map.scan key) := by
  have packet : ∀ now direction, (map.readForPacket false now key direction some).1 =
      (FlatReference.readForPacket flat key direction).bind fun connection =>
        some (refreshUntrackedActivity now connection) := by
    intro now direction
    cases direction with
    | inbound =>
        simpa [ConnectionMap.readForPacket, ConnectionMap.read, FlatReference.readForPacket] using
          (represents.readMatching now key some false).1
    | outbound =>
        simpa [ConnectionMap.readForPacket, ConnectionMap.readWithEndedFallback,
          FlatReference.readForPacket] using (represents.readMatching now key some true).1
  have read : ∀ now, (map.read false now key some).1 =
      (FlatReference.readLive flat key).bind fun connection =>
        some (refreshUntrackedActivity now connection) := fun now => packet now .inbound
  constructor
  · rintro ⟨readOwn, packetOwn, instanceOwn, _⟩
    have live := readOwn 0
    rw [read, forall_mem_bind_refresh, readLive_local_iff represents] at live
    refine ⟨live, ?_, ?_⟩
    · intro absent
      have outbound := packetOwn 0 .outbound
      have nothing := (readLive_eq_none_iff represents).mpr
        fun entry member => ⟨(absent entry member).1, (absent entry member).2.1⟩
      rw [packet, forall_mem_bind_refresh, FlatReference.readForPacket, nothing, Option.none_or,
        readEnded_local_iff represents] at outbound
      exact outbound fun entry member => (absent entry member).2.2
    · intro instanceId valid
      have own := instanceOwn instanceId
      rwa [represents.getLiveInstanceMatching, liveInstance_local_iff represents valid] at own
  · rintro ⟨live, retained, instances⟩
    have liveOwn := (readLive_local_iff represents).mpr live
    have instanceOwn : ∀ instanceId, ∀ connection ∈ FlatReference.liveInstance flat key instanceId,
        connection.getLocalAddress = key.localAddress := by
      intro instanceId
      by_cases zero : instanceId = 0
      · intro connection impossible
        simp [FlatReference.liveInstance, zero] at impossible
      · exact (liveInstance_local_iff represents zero).mpr (instances instanceId zero)
    refine ⟨?_, ?_, ?_, ?_⟩
    · intro now
      rw [read, forall_mem_bind_refresh]
      exact liveOwn
    · intro now direction
      rw [packet, forall_mem_bind_refresh]
      cases direction with
      | inbound => exact liveOwn
      | outbound =>
          rw [FlatReference.readForPacket]
          cases selected : FlatReference.readLive flat key with
          | some connection =>
              rw [selected] at liveOwn
              exact liveOwn
          | none =>
              rw [Option.none_or, readEnded_local_iff represents]
              intro ended
              have nothing := (readLive_eq_none_iff represents).mp selected
              exact retained fun entry member =>
                ⟨(nothing entry member).1, (nothing entry member).2, ended entry member⟩
    · intro instanceId
      rw [represents.getLiveInstanceMatching]
      exact instanceOwn instanceId
    · intro now instanceId update connection selected
      rw [(represents.getMutInstance now key instanceId update).1] at selected
      split at selected
      · cases found : FlatReference.liveInstance flat key instanceId with
        | none =>
            rw [found] at selected
            cases selected
        | some original =>
            rw [found] at selected
            cases selected
            have kept : (update.apply (refreshUntrackedActivity now original)).getLocalAddress =
                (refreshUntrackedActivity now original).getLocalAddress :=
              congrArg Key.localAddress (update.keepsTuple _)
            rw [kept, getLocalAddress_refreshUntrackedActivity]
            exact instanceOwn instanceId original found
      · cases selected

end Reachable

section SpecialPortsIgnored

omit [AddressFamily A] [DecidableEq A] in
theorem liveAndEndedMatch_matched (matched : Connection A → Bool) {ended : Option (Connection A)}
    (known : ∀ connection ∈ ended, matched connection = true) (entries : List (Connection A)) :
    (∀ connection ∈ (liveAndEndedMatch matched ended entries).1, matched connection = true) ∧
      ∀ connection ∈ (liveAndEndedMatch matched ended entries).2, matched connection = true := by
  induction entries generalizing ended with
  | nil => exact ⟨fun connection impossible => (by cases impossible), known⟩
  | cons entry rest ih =>
      rw [liveAndEndedMatch]
      split
      · exact ih known
      · rename_i accepted
        have here : matched entry = true := by simpa using accepted
        split
        · refine ⟨?_, known⟩
          intro connection same
          cases same
          exact here
        · refine ih ?_
          intro connection member
          cases ended with
          | none =>
              cases member
              exact here
          | some first => exact known connection member

theorem exactMatches_local (connections : RemoteConnections A) (key : Key) :
    (∀ connection ∈ (ConnectionMap.exactMatches connections key).1,
        connection.getLocalAddress = key.localAddress) ∧
      ∀ connection ∈ (ConnectionMap.exactMatches connections key).2,
        connection.getLocalAddress = key.localAddress := by
  unfold ConnectionMap.exactMatches
  cases (remoteEndpointFromKey A key).bind connections.get with
  | none => simp
  | some bucket =>
      have unset : ∀ connection ∈ (none : Option (Connection A)),
          connection.remoteEquals key = true := fun connection impossible => by cases impossible
      have matched := liveAndEndedMatch_matched (fun connection => connection.remoteEquals key)
        unset bucket.iter
      exact ⟨fun connection member =>
          getLocalAddress_of_remoteEquals (matched.1 connection member),
        fun connection member => getLocalAddress_of_remoteEquals (matched.2 connection member)⟩

theorem readMatching_ignored_local (map : ConnectionMap A) (now : Nat) (key : Key)
    (useEndedFallback : Bool) :
    ∀ connection ∈ (map.readMatching true now key some useEndedFallback).1,
      connection.getLocalAddress = key.localAddress := by
  intro connection selected
  unfold ConnectionMap.readMatching at selected
  cases inMap : map[key.small]? with
  | none =>
      rw [inMap] at selected
      cases selected
  | some connections =>
      obtain ⟨liveOwn, endedOwn⟩ := exactMatches_local connections key
      have notScanned : ConnectionMap.redirectMatches true connections key = (none, none) := by
        simp [ConnectionMap.redirectMatches, isRedirectPort]
      simp only [inMap, notScanned, Option.or_none] at selected
      cases live : (ConnectionMap.exactMatches connections key).1 with
      | some exact =>
          rw [live] at selected
          cases selected
          rw [getLocalAddress_refreshUntrackedActivity]
          exact liveOwn exact live
      | none =>
          rw [live] at selected
          cases useEndedFallback with
          | false => cases selected
          | true =>
              simp only [↓reduceIte] at selected
              cases ended : (ConnectionMap.exactMatches connections key).2 with
              | none =>
                  rw [ended] at selected
                  cases selected
              | some exact =>
                  rw [ended] at selected
                  cases selected
                  rw [getLocalAddress_refreshUntrackedActivity]
                  exact endedOwn exact ended

theorem attributesReply_ignored (map : ConnectionMap A) (key : Key) :
    AttributesReply true map key := by
  have port : isRedirectPort true key.remotePort = false := by simp [isRedirectPort]
  refine ⟨?_, ?_, ?_, ?_⟩
  · intro now
    exact readMatching_ignored_local map now key false
  · intro now direction
    cases direction with
    | inbound => exact readMatching_ignored_local map now key false
    | outbound => exact readMatching_ignored_local map now key true
  · intro instanceId connection selected
    unfold ConnectionMap.getLiveInstanceMatching at selected
    split at selected
    · cases selected
    · split at selected
      · rename_i found
        cases selected
        obtain ⟨bucket, _, accepted⟩ := Option.bind_eq_some_iff.mp found
        exact getLocalAddress_of_remoteEquals
          (ConnectionMap.isLiveInstance_exact _ (List.find?_some accepted))
      · simp [port] at selected
  · intro now instanceId update connection selected
    unfold ConnectionMap.getMutInstance at selected
    split at selected
    · cases selected
    · split at selected
      · cases selected
      · simp only [port, Bool.not_false, ↓reduceIte, ConnectionMap.updateInBucket] at selected
        split at selected
        · cases selected
        · rename_i original found
          cases selected
          obtain ⟨bucket, _, accepted⟩ := Option.bind_eq_some_iff.mp found
          have kept : (update.apply (refreshUntrackedActivity now original)).getLocalAddress =
              (refreshUntrackedActivity now original).getLocalAddress :=
            congrArg Key.localAddress (update.keepsTuple _)
          rw [kept, getLocalAddress_refreshUntrackedActivity]
          exact getLocalAddress_of_remoteEquals
            (ConnectionMap.isLiveInstance_exact _ (List.find?_some accepted))

end SpecialPortsIgnored

/-- In every reachable map the lookups of a key select entries of its local address exactly when
no redirected entry of another local address is scanned first. -/
theorem reply_attributed_iff (ops : List (MapOp A)) (key : Key) :
    (AttributesReply false (runMap ops).state key ↔
      OwnRedirectsFirst key ((runMap ops).state.scan key)) ∧
      ∀ map : ConnectionMap A, AttributesReply true map key :=
  ⟨attributesReply_iff (simulates_run ops).represents, fun map => attributesReply_ignored map key⟩

def EntryUpdate.setVerdict (verdict : Verdict) : EntryUpdate A where
  apply connection := { connection with verdict := verdict }
  keepsTuple _ := rfl
  keepsInstance _ := rfl

/-- The tunnel connection of `resolverKey`, whose local address is 10.0.0.1. -/
def tunnelResolver : List (MapOp Ipv4Address) :=
  [.insertIfAbsentWith (resolverConnection 1) .unchanged,
    .getMutInstance 1 resolverKey 1 (.setVerdict .redirectTunnel)]

/-- A reply of the tunnel to port 50000 of 10.0.0.2. -/
def tunnelReplyKey : Key where
  protocol := .udp
  localAddress := .ipv4 (Ipv4Address.new 10 0 0 2)
  localPort := 50000
  remoteAddress := .ipv4 (Ipv4Address.new 10 0 0 2)
  remotePort := 717

theorem tunnelReply_misattributed :
    ¬ AttributesReply false (runMap tunnelResolver).state tunnelReplyKey := by
  intro own
  have selected : ((runMap tunnelResolver).state.read false 2 tunnelReplyKey some).1.map
      Connection.getLocalAddress = some (.ipv4 (Ipv4Address.new 10 0 0 1)) := by decide +kernel
  obtain ⟨connection, found, address⟩ := Option.map_eq_some_iff.mp selected
  rw [own.read 2 connection found] at address
  revert address
  decide

end WindowsKext
