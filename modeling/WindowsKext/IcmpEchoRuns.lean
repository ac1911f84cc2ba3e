import WindowsKext.DeviceCore
import WindowsKext.Library.FirstMatch
import WindowsKext.Library.PastTime

/-! What the echo table answers, in terms of the history of its calls. The write lock makes every call
one step. -/

namespace WindowsKext

open PastTime

namespace IcmpEchoCache

variable (cache : IcmpEchoCache) (now : Nat) (key : EchoKey)

def insertAt (processId threadId : Nat) : IcmpEchoCache :=
  cache.insertRequest now key.remoteAddress key.identifier key.sequence processId threadId

def takeAt : Option (Nat × Nat) × IcmpEchoCache :=
  cache.takeRequestIdentity now key.remoteAddress key.identifier key.sequence

/-- The request has an entry after its insertion. A request without a process is never recorded. -/
def accepts (processId threadId : Nat) : Bool :=
  processId != 0 && (cache.insertAt now key processId threadId).containsKey key

end IcmpEchoCache

/-- What the calls leave in the history: the requests that were accepted, and every take with its
answer. -/
inductive EchoEvent where
  | inserted (now : Nat) (key : EchoKey) (processId threadId : Nat)
  | taken (now : Nat) (key : EchoKey) (identity : Option (Nat × Nat))
deriving DecidableEq

inductive EchoOp where
  | insertRequest (now : Nat) (key : EchoKey) (processId threadId : Nat)
  | takeRequestIdentity (now : Nat) (key : EchoKey)
  | cleanExpiredEntries (now : Nat)

def EchoOp.now : EchoOp → Nat
  | .insertRequest now _ _ _ | .takeRequestIdentity now _ | .cleanExpiredEntries now => now

structure EchoRun where
  cache : IcmpEchoCache
  history : List EchoEvent

namespace EchoRun

def new : EchoRun := { cache := .new, history := [] }

def step (run : EchoRun) : EchoOp → EchoRun
  | .insertRequest now key processId threadId =>
      { cache := run.cache.insertAt now key processId threadId
        history := run.history ++
          if run.cache.accepts now key processId threadId then [.inserted now key processId threadId]
          else [] }
  | .takeRequestIdentity now key =>
      let (identity, cache) := run.cache.takeAt now key
      { cache := cache, history := run.history ++ [.taken now key identity] }
  | .cleanExpiredEntries now => { run with cache := run.cache.cleanExpiredEntries now }

end EchoRun

def runEcho (ops : List EchoOp) : EchoRun := ops.foldl EchoRun.step EchoRun.new

def EchoEvent.About (key : EchoKey) : EchoEvent → Prop
  | .inserted _ other _ _ | .taken _ other _ => other = key

/-- The last accepted request of the key is this one, and no take of the key came after it. -/
def Outstanding (history : List EchoEvent) (key : EchoKey) (entry : EchoEntry) : Prop :=
  Since (fun event => event = .inserted entry.insertedAtMs key entry.processId entry.threadId)
    (EchoEvent.About key) history

/-- The table and the history up to `now`: only outstanding requests are stored, and those that have
not expired all are. -/
structure EchoTracks (now : Nat) (run : EchoRun) : Prop where
  distinct : (run.cache.entries.map Prod.fst).Nodup
  stored : ∀ key entry, (key, entry) ∈ run.cache.entries → Outstanding run.history key entry
  kept : ∀ key entry, Outstanding run.history key entry → now - entry.insertedAtMs ≤ entryTtlMs →
    (key, entry) ∈ run.cache.entries
  bounded : run.cache.entries.length ≤ maxEntries

namespace IcmpEchoCache

variable {cache : IcmpEchoCache} {now : Nat} {key other : EchoKey} {entry : EchoEntry}

theorem containsKey_iff : cache.containsKey key = true ↔ ∃ entry, (key, entry) ∈ cache.entries := by
  rw [containsKey, List.any_eq_true]
  constructor
  · rintro ⟨⟨found, entry⟩, member, same⟩
    obtain rfl : found = key := beq_iff_eq.mp same
    exact ⟨entry, member⟩
  · rintro ⟨entry, member⟩
    exact ⟨(key, entry), member, beq_iff_eq.mpr rfl⟩

theorem mem_cleanExpiredEntries :
    (key, entry) ∈ (cache.cleanExpiredEntries now).entries ↔
      (key, entry) ∈ cache.entries ∧ now - entry.insertedAtMs ≤ entryTtlMs := by
  rw [cleanExpiredEntries, List.mem_filter, decide_eq_true_iff]

theorem mem_insertEntry {new : EchoEntry} :
    (other, entry) ∈ (cache.insertEntry key new).entries ↔
      (other = key ∧ entry = new) ∨ (other ≠ key ∧ (other, entry) ∈ cache.entries) := by
  rw [insertEntry, List.mem_cons, List.mem_filter, bne_iff_ne, Prod.mk.injEq,
    and_comm (a := other ≠ key)]

theorem length_insertEntry_le {new : EchoEntry}
    (room : cache.entries.length < maxEntries ∨ cache.containsKey key = true)
    (bounded : cache.entries.length ≤ maxEntries) :
    (cache.insertEntry key new).entries.length ≤ maxEntries := by
  rw [insertEntry, List.length_cons]
  rcases room with small | present
  · have shorter := List.length_filter_le (fun other : EchoKey × EchoEntry => other.1 != key)
      cache.entries
    omega
  · obtain ⟨old, member⟩ := containsKey_iff.mp present
    have shorter : (cache.entries.filter fun other => other.1 != key).length
        < cache.entries.length := by
      rw [List.length_filter_lt_length_iff_exists]
      exact ⟨(key, old), member, by simp⟩
    omega

/-- Everything an insertion can do: nothing, drop what has expired because of 512 requests that have
not, or record the request, after such a cleanup or without one. -/
theorem insertAt_cases (processId threadId : Nat) :
    (processId = 0 ∧ cache.insertAt now key processId threadId = cache) ∨
      (processId ≠ 0 ∧ cache.containsKey key = false ∧
        maxEntries ≤ (cache.cleanExpiredEntries now).entries.length ∧
        cache.insertAt now key processId threadId = cache.cleanExpiredEntries now) ∨
      processId ≠ 0 ∧ ∃ room, (room = cache ∨ room = cache.cleanExpiredEntries now) ∧
        (room.entries.length < maxEntries ∨ room.containsKey key = true) ∧
        cache.insertAt now key processId threadId =
          room.insertEntry key ⟨processId, threadId, now⟩ := by
  unfold insertAt insertRequest
  by_cases zero : processId = 0
  · exact .inl ⟨zero, if_pos (beq_iff_eq.mpr zero)⟩
  · rw [if_neg (mt beq_iff_eq.mp zero)]
    dsimp only
    by_cases full : maxEntries ≤ cache.entries.length ∧ cache.containsKey key = false
    · have taken : (decide (maxEntries ≤ cache.entries.length) && !cache.containsKey key) = true := by
        rw [decide_eq_true full.1, full.2]
        rfl
      rw [if_pos taken]
      by_cases still : maxEntries ≤ (cache.cleanExpiredEntries now).entries.length
      · exact .inr (.inl ⟨zero, full.2, still, if_pos still⟩)
      · exact .inr (.inr ⟨zero, _, .inr rfl, .inl (by omega), if_neg still⟩)
    · have skipped :
          ¬ (decide (maxEntries ≤ cache.entries.length) && !cache.containsKey key) = true := by
        rw [Bool.and_eq_true, decide_eq_true_iff, Bool.not_eq_true']
        exact full
      refine .inr (.inr ⟨zero, cache, .inl rfl, ?_, if_neg skipped⟩)
      cases present : cache.containsKey key with
      | true => exact .inr rfl
      | false => exact .inl (Nat.lt_of_not_le fun large => full ⟨large, present⟩)

theorem accepts_of_absent {processId threadId : Nat} (absent : cache.containsKey key = false)
    (result : cache.insertAt now key processId threadId = cache.cleanExpiredEntries now) :
    cache.accepts now key processId threadId = false := by
  rw [accepts, result, Bool.and_eq_false_iff]
  right
  rw [Bool.eq_false_iff] at absent ⊢
  intro present
  obtain ⟨entry, member⟩ := containsKey_iff.mp present
  exact absent (containsKey_iff.mpr ⟨entry, (mem_cleanExpiredEntries.mp member).1⟩)

theorem accepts_of_room {room : IcmpEchoCache} {processId threadId : Nat} (known : processId ≠ 0)
    (result : cache.insertAt now key processId threadId =
      room.insertEntry key ⟨processId, threadId, now⟩) :
    cache.accepts now key processId threadId = true := by
  rw [accepts, result, containsKey_iff.mpr ⟨_, mem_insertEntry.mpr (.inl ⟨rfl, rfl⟩)⟩,
    bne_iff_ne.mpr known]
  rfl

theorem takeAt_entries :
    (cache.takeAt now key).2.entries = cache.entries.filter fun other => other.1 != key := by
  unfold takeAt takeRequestIdentity
  dsimp only
  cases found : cache.entries.find? fun entry => entry.1 == key with
  | none =>
      refine (List.filter_eq_self.mpr ?_).symm
      intro other member
      exact bne_iff_ne.mpr (mt beq_iff_eq.mpr (List.find?_eq_none.mp found other member))
  | some first =>
      dsimp only
      split
      · rfl
      · rfl

theorem takeAt_iff (distinct : (cache.entries.map Prod.fst).Nodup) (processId threadId : Nat) :
    (cache.takeAt now key).1 = some (processId, threadId) ↔
      ∃ insertedAtMs, (key, ⟨processId, threadId, insertedAtMs⟩) ∈ cache.entries ∧
        now - insertedAtMs ≤ entryTtlMs := by
  unfold takeAt takeRequestIdentity
  dsimp only
  constructor
  · intro answered
    cases found : cache.entries.find? fun entry => entry.1 == key with
    | none =>
        rw [found] at answered
        cases answered
    | some first =>
        rw [found] at answered
        obtain ⟨other, entry⟩ := first
        have matching := List.find?_some found
        obtain rfl : other = key := beq_iff_eq.mp matching
        dsimp only at answered
        split at answered
        · cases answered
        · rename_i young
          cases answered
          exact ⟨entry.insertedAtMs, List.mem_of_find?_eq_some found, by omega⟩
  · rintro ⟨insertedAtMs, member, young⟩
    have found := FirstMatch.find?_of_mem distinct member
    rw [found]
    exact congrArg Prod.fst (if_neg (Nat.not_lt.mpr young))

end IcmpEchoCache

section Steps

open IcmpEchoCache

variable {now : Nat} {run : EchoRun}

theorem outstanding_append_singleton {history : List EchoEvent} {event : EchoEvent} {key : EchoKey}
    {entry : EchoEntry} :
    Outstanding (history ++ [event]) key entry ↔
      event = .inserted entry.insertedAtMs key entry.processId entry.threadId ∨
        ¬ event.About key ∧ Outstanding history key entry :=
  since_append_singleton

theorem EchoTracks.later (tracks : EchoTracks now run) {later : Nat} (notBefore : now ≤ later) :
    EchoTracks later run := by
  refine ⟨tracks.distinct, tracks.stored, ?_, tracks.bounded⟩
  intro key entry outstanding young
  exact tracks.kept key entry outstanding (by omega)

theorem EchoTracks.clean (tracks : EchoTracks now run) :
    EchoTracks now { run with cache := run.cache.cleanExpiredEntries now } := by
  refine ⟨?_, ?_, ?_, ?_⟩
  · exact tracks.distinct.sublist (List.filter_sublist.map _)
  · intro key entry member
    exact tracks.stored key entry (mem_cleanExpiredEntries.mp member).1
  · intro key entry outstanding young
    exact mem_cleanExpiredEntries.mpr ⟨tracks.kept key entry outstanding young, young⟩
  · exact Nat.le_trans (List.length_filter_le _ _) tracks.bounded

theorem EchoTracks.record (tracks : EchoTracks now run) {key : EchoKey} (processId threadId : Nat)
    (room : run.cache.entries.length < maxEntries ∨ run.cache.containsKey key = true) :
    EchoTracks now
      { cache := run.cache.insertEntry key ⟨processId, threadId, now⟩
        history := run.history ++ [.inserted now key processId threadId] } := by
  refine ⟨?_, ?_, ?_, length_insertEntry_le room tracks.bounded⟩
  · rw [insertEntry, List.map_cons, List.nodup_cons]
    refine ⟨?_, tracks.distinct.sublist (List.filter_sublist.map _)⟩
    intro again
    obtain ⟨other, member, same⟩ := List.mem_map.mp again
    exact bne_iff_ne.mp (List.mem_filter.mp member).2 same
  · intro other entry member
    rw [outstanding_append_singleton]
    rcases mem_insertEntry.mp member with ⟨rfl, rfl⟩ | ⟨different, earlier⟩
    · exact .inl rfl
    · exact .inr ⟨different.symm, tracks.stored other entry earlier⟩
  · intro other entry outstanding young
    rw [mem_insertEntry]
    rcases outstanding_append_singleton.mp outstanding with same | ⟨different, earlier⟩
    · cases same
      exact .inl ⟨rfl, rfl⟩
    · exact .inr ⟨fun same => different same.symm, tracks.kept other entry earlier young⟩

theorem EchoTracks.insertRequest (tracks : EchoTracks now run) (key : EchoKey)
    (processId threadId : Nat) :
    EchoTracks now (run.step (.insertRequest now key processId threadId)) := by
  rw [EchoRun.step]
  rcases @insertAt_cases run.cache now key processId threadId with
    ⟨zero, result⟩ | ⟨_, absent, _, result⟩ | ⟨known, room, source, space, result⟩
  · have rejected : run.cache.accepts now key processId threadId = false := by
      rw [accepts, zero]
      rfl
    rw [rejected, result, if_neg Bool.false_ne_true, List.append_nil]
    exact tracks
  · rw [accepts_of_absent absent result, result, if_neg Bool.false_ne_true, List.append_nil]
    exact tracks.clean
  · rw [accepts_of_room known result, result, if_pos rfl]
    rcases source with rfl | rfl
    · exact tracks.record processId threadId space
    · exact tracks.clean.record processId threadId space

theorem EchoTracks.takeRequestIdentity (tracks : EchoTracks now run) (key : EchoKey) :
    EchoTracks now (run.step (.takeRequestIdentity now key)) := by
  rw [EchoRun.step]
  refine ⟨?_, ?_, ?_, ?_⟩
  · dsimp only
    rw [takeAt_entries]
    exact tracks.distinct.sublist (List.filter_sublist.map _)
  · intro other entry member
    dsimp only at member
    rw [takeAt_entries, List.mem_filter, bne_iff_ne] at member
    exact outstanding_append_singleton.mpr
      (.inr ⟨fun same => member.2 same.symm, tracks.stored other entry member.1⟩)
  · intro other entry outstanding young
    dsimp only
    rw [takeAt_entries, List.mem_filter, bne_iff_ne]
    rcases outstanding_append_singleton.mp outstanding with same | ⟨different, earlier⟩
    · cases same
    · exact ⟨tracks.kept other entry earlier young, fun same => different same.symm⟩
  · dsimp only
    rw [takeAt_entries]
    exact Nat.le_trans (List.length_filter_le _ _) tracks.bounded

theorem EchoTracks.step {op : EchoOp} (tracks : EchoTracks op.now run) :
    EchoTracks op.now (run.step op) := by
  cases op with
  | insertRequest now key processId threadId => exact tracks.insertRequest key processId threadId
  | takeRequestIdentity now key => exact tracks.takeRequestIdentity key
  | cleanExpiredEntries now => exact tracks.clean

end Steps

section Runs

open IcmpEchoCache

variable {now : Nat} {run : EchoRun}

theorem EchoTracks.take_iff (tracks : EchoTracks now run) (key : EchoKey) (processId threadId : Nat) :
    (run.cache.takeAt now key).1 = some (processId, threadId) ↔
      ∃ insertedAtMs, Outstanding run.history key ⟨processId, threadId, insertedAtMs⟩ ∧
        now - insertedAtMs ≤ entryTtlMs := by
  rw [takeAt_iff tracks.distinct]
  constructor
  · rintro ⟨insertedAtMs, member, young⟩
    exact ⟨insertedAtMs, tracks.stored key _ member, young⟩
  · rintro ⟨insertedAtMs, outstanding, young⟩
    exact ⟨insertedAtMs, tracks.kept key _ outstanding young, young⟩

def AnswerOutstanding (history : List EchoEvent) (event : EchoEvent) : Prop :=
  ∀ now key identity, event = .taken now key (some identity) →
    ∃ insertedAtMs, Outstanding history key ⟨identity.1, identity.2, insertedAtMs⟩

theorem answerOutstanding_step {op : EchoOp} (tracks : EchoTracks op.now run)
    (always : Always AnswerOutstanding run.history) :
    Always AnswerOutstanding (run.step op).history := by
  cases op with
  | insertRequest now key processId threadId =>
      rw [EchoRun.step]
      dsimp only
      split
      · refine always.append_singleton ?_
        intro _ _ _ same
        cases same
      · rw [List.append_nil]
        exact always
  | takeRequestIdentity now key =>
      refine always.append_singleton ?_
      intro _ _ identity same
      obtain ⟨-, rfl, answered⟩ := EchoEvent.taken.inj same
      obtain ⟨insertedAtMs, outstanding, -⟩ :=
        (tracks.take_iff key identity.1 identity.2).mp answered
      exact ⟨insertedAtMs, outstanding⟩
  | cleanExpiredEntries now => exact always

/-- Every call of the run is made by `now`, at a clock that does not go back. -/
def EchoOrdered (ops : List EchoOp) (now : Nat) : Prop :=
  (ops.map EchoOp.now ++ [now]).Pairwise (· ≤ ·)

theorem echoTracks_foldl {ops : List EchoOp} {start now : Nat} {run : EchoRun}
    (tracks : EchoTracks start run) (always : Always AnswerOutstanding run.history)
    (notBefore : ∀ op ∈ ops, start ≤ op.now) (started : start ≤ now) (ordered : EchoOrdered ops now) :
    EchoTracks now (ops.foldl EchoRun.step run) ∧
      Always AnswerOutstanding (ops.foldl EchoRun.step run).history := by
  induction ops generalizing start run with
  | nil => exact ⟨tracks.later started, always⟩
  | cons op later ih =>
      rw [EchoOrdered, List.map_cons, List.cons_append, List.pairwise_cons] at ordered
      have here := tracks.later (notBefore op List.mem_cons_self)
      refine ih here.step (answerOutstanding_step here always) ?_ ?_ ordered.2
      · intro next member
        exact ordered.1 next.now (List.mem_append_left _ (List.mem_map_of_mem member))
      · exact ordered.1 now (List.mem_append_right _ List.mem_cons_self)

theorem echoTracks_new : EchoTracks 0 EchoRun.new := by
  refine ⟨List.nodup_nil, ?_, ?_, Nat.zero_le _⟩
  · intro key entry member
    cases member
  · intro key entry outstanding
    exact absurd outstanding not_since_nil

theorem echoTracks_run {ops : List EchoOp} (ordered : EchoOrdered ops now) :
    EchoTracks now (runEcho ops) ∧ Always AnswerOutstanding (runEcho ops).history :=
  echoTracks_foldl echoTracks_new always_nil (fun op _ => Nat.zero_le op.now) (Nat.zero_le now)
    ordered

theorem inserted_between {history before between after : List EchoEvent} {key : EchoKey}
    {earlier later : Nat} {first second : Nat × Nat} (always : Always AnswerOutstanding history)
    (split : history = before ++ .taken earlier key (some first) :: between ++
      .taken later key (some second) :: after) :
    ∃ now processId threadId, EchoEvent.inserted now key processId threadId ∈ between := by
  obtain ⟨insertedAtMs, outstanding⟩ := always _ _ after split later key second rfl
  rw [List.append_cons] at outstanding
  have consumed : ¬ Outstanding (before ++ [.taken earlier key (some first)]) key
      ⟨second.1, second.2, insertedAtMs⟩ := by
    rw [outstanding_append_singleton]
    rintro (same | ⟨other, -⟩)
    · cases same
    · exact other rfl
  obtain ⟨event, member, rfl⟩ := outstanding.of_append consumed
  exact ⟨_, _, _, member⟩

end Runs

structure EchoAttributionExact (run : EchoRun) (now : Nat) : Prop where
  oneEntryPerKey : (run.cache.entries.map Prod.fst).Nodup
  bounded : run.cache.entries.length ≤ 512
  rejectedOnlyFull : ∀ key processId threadId, processId ≠ 0 →
    run.cache.accepts now key processId threadId = false →
      run.cache.containsKey key = false ∧
        512 ≤ run.cache.entries.countP fun entry => decide (now - entry.2.insertedAtMs ≤ 10000)
  othersKept : ∀ key processId threadId other entry, other ≠ key →
    (other, entry) ∈ run.cache.entries → now - entry.insertedAtMs ≤ 10000 →
      (other, entry) ∈ (run.cache.insertAt now key processId threadId).entries
  takeIff : ∀ key processId threadId,
    (run.cache.takeAt now key).1 = some (processId, threadId) ↔
      ∃ insertedAtMs, Outstanding run.history key ⟨processId, threadId, insertedAtMs⟩ ∧
        now - insertedAtMs ≤ 10000
  returnedOnce : ∀ key before between after earlier later first second,
    run.history = before ++ .taken earlier key (some first) :: between ++
      .taken later key (some second) :: after →
    ∃ now processId threadId, EchoEvent.inserted now key processId threadId ∈ between

namespace IcmpEchoCache

variable {cache : IcmpEchoCache} {now : Nat} {key : EchoKey} {processId threadId : Nat}

theorem insertAt_rejected (known : processId ≠ 0)
    (rejected : cache.accepts now key processId threadId = false) :
    cache.containsKey key = false ∧ maxEntries ≤ (cache.cleanExpiredEntries now).entries.length := by
  rcases @insertAt_cases cache now key processId threadId with
    ⟨zero, _⟩ | ⟨_, absent, full, _⟩ | ⟨_, room, _, _, result⟩
  · exact absurd zero known
  · exact ⟨absent, full⟩
  · rw [accepts_of_room known result] at rejected
    cases rejected

theorem insertAt_other {other : EchoKey} {entry : EchoEntry} (different : other ≠ key)
    (stored : (other, entry) ∈ cache.entries) (young : now - entry.insertedAtMs ≤ entryTtlMs) :
    (other, entry) ∈ (cache.insertAt now key processId threadId).entries := by
  have retained := mem_cleanExpiredEntries.mpr ⟨stored, young⟩
  rcases @insertAt_cases cache now key processId threadId with
    ⟨_, result⟩ | ⟨_, _, _, result⟩ | ⟨_, room, source, _, result⟩
  · rw [result]
    exact stored
  · rw [result]
    exact retained
  · rw [result, mem_insertEntry]
    refine .inr ⟨different, ?_⟩
    rcases source with rfl | rfl
    · exact stored
    · exact retained

end IcmpEchoCache

/-- In every run with a clock that does not go back, the table is an exact, bounded record of the
requests that are still to be answered. -/
theorem icmpEcho_attribution_exact (ops : List EchoOp) (now : Nat) (ordered : EchoOrdered ops now) :
    EchoAttributionExact (runEcho ops) now := by
  obtain ⟨tracks, always⟩ := echoTracks_run ordered
  refine ⟨tracks.distinct, tracks.bounded, ?_, ?_, tracks.take_iff, ?_⟩
  · intro key processId threadId known rejected
    obtain ⟨absent, full⟩ := IcmpEchoCache.insertAt_rejected known rejected
    exact ⟨absent, List.countP_eq_length_filter ▸ full⟩
  · intro key processId threadId other entry different stored young
    exact IcmpEchoCache.insertAt_other different stored young
  · intro key before between after earlier later first second split
    exact inserted_between always split

def pingKey : EchoKey where
  remoteAddress := .ipv4 (Ipv4Address.new 1 1 1 1)
  identifier := 1
  sequence := 7

theorem icmpEcho_attribution_exact_ping :
    EchoAttributionExact (runEcho [.insertRequest 5 pingKey 8 9, .cleanExpiredEntries 20]) 10005 ∧
      ((runEcho [.insertRequest 5 pingKey 8 9, .cleanExpiredEntries 20]).cache.takeAt
        10005 pingKey).1 = some (8, 9) := by
  have exact := icmpEcho_attribution_exact
    [.insertRequest 5 pingKey 8 9, .cleanExpiredEntries 20] 10005 (by simp [EchoOrdered, EchoOp.now])
  exact ⟨exact, by decide +kernel⟩

end WindowsKext
