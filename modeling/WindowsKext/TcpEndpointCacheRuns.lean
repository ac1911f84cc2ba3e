import WindowsKext.TcpEndpointCacheChecks
import Mathlib.Data.List.Induction

/-! Runs of the endpoint cache: which aliases of a generation retire together, and which
generations can expire. -/

namespace WindowsKext

open TcpEndpointCache

inductive TcpEndpointOp where
  | associateInstanceAt (endpointHandle : Nat) (key : Key) (parentEndpointHandle : Option Nat)
      (instanceId associatedAtMs : Nat)
  | rebindEstablished (endpointHandle : Nat) (endpoint : TcpEndpointConnection)
  | takeUnestablishedBefore (cutoffMs : Nat) (shouldExpire : TcpEndpointConnection → Bool)
  | takeUnestablished (endpointHandle : Nat)
  | take (endpointHandle : Nat)
  | clear

/-- A cache with the generations that were established by a rebind and not taken since. -/
structure TcpEndpointRun where
  cache : TcpEndpointCache
  established : List Nat

namespace TcpEndpointRun

def start : TcpEndpointRun where
  cache := TcpEndpointCache.new
  established := []

def step (run : TcpEndpointRun) : TcpEndpointOp → TcpEndpointRun
  | .associateInstanceAt endpointHandle key parentEndpointHandle instanceId associatedAtMs =>
      { run with
        cache := (run.cache.associateInstanceAt endpointHandle key parentEndpointHandle instanceId
          associatedAtMs).2 }
  | .rebindEstablished endpointHandle endpoint =>
      let (rebound, cache) := run.cache.rebindEstablished endpointHandle endpoint
      { cache := cache
        established :=
          if rebound then endpoint.instanceId :: run.established else run.established }
  | .takeUnestablishedBefore cutoffMs shouldExpire =>
      { run with cache := (run.cache.takeUnestablishedBefore cutoffMs shouldExpire).2 }
  | .takeUnestablished endpointHandle =>
      { run with cache := (run.cache.takeUnestablished endpointHandle).2 }
  | .take endpointHandle =>
      let (taken, cache) := run.cache.take endpointHandle
      { cache := cache
        established := match taken with
          | some endpoint => run.established.filter fun instanceId =>
              instanceId != endpoint.instanceId
          | none => run.established }
  | .clear =>
      { cache := run.cache.clear
        established := [] }

end TcpEndpointRun

def runTcpEndpoints (operations : List TcpEndpointOp) : TcpEndpointRun :=
  operations.foldl TcpEndpointRun.step TcpEndpointRun.start

section Retirement

variable {cache : TcpEndpointCache}

theorem takeUnestablished_cases (cache : TcpEndpointCache) (handle : Nat) :
    (cache.takeUnestablished handle = (none, cache) ∧
        ∀ record, cache.records handle = some record → record.established = true) ∨
      ∃ record, cache.records handle = some record ∧ record.established = false ∧
        cache.takeUnestablished handle =
          (some record.endpoint, cache.removeEndpointAliases record.endpoint) := by
  unfold takeUnestablished records
  cases stored : cache.endpoints[handle]? with
  | none => exact .inl ⟨rfl, fun record impossible => by cases impossible⟩
  | some record =>
      cases pending : record.established with
      | true =>
          refine .inl ⟨by simp [pending], ?_⟩
          rintro other same
          cases same
          exact pending
      | false => exact .inr ⟨record, rfl, pending, by simp [pending]⟩

theorem take_cases (cache : TcpEndpointCache) (handle : Nat) :
    (cache.take handle = (none, cache) ∧ (handle = 0 ∨ cache.records handle = none)) ∨
      ∃ record, handle ≠ 0 ∧ cache.records handle = some record ∧
        cache.take handle = (some record.endpoint, cache.removeEndpointAliases record.endpoint) := by
  unfold take records
  by_cases zero : handle = 0
  · exact .inl ⟨if_pos zero, .inl zero⟩
  · rw [if_neg zero]
    cases stored : cache.endpoints[handle]? with
    | none => exact .inl ⟨rfl, .inr rfl⟩
    | some record => exact .inr ⟨record, zero, rfl, rfl⟩

theorem lookupExact_new : LookupExact TcpEndpointCache.new.records TcpEndpointCache.new.lookup where
  members key handle := by simp [handlesOf, TcpEndpointCache.new, records]
  distinct key := List.nodup_nil

theorem lookupExact_step {run : TcpEndpointRun}
    (exact : LookupExact run.cache.records run.cache.lookup) (operation : TcpEndpointOp) :
    LookupExact (run.step operation).cache.records (run.step operation).cache.lookup := by
  cases operation with
  | associateInstanceAt handle key parent instanceId associatedAtMs =>
      exact (associates_associateInstanceAt exact handle key parent instanceId associatedAtMs).2
  | rebindEstablished handle endpoint =>
      by_cases accepted : run.cache.AcceptsRebind handle endpoint
      · exact (rebindEstablished_of_accepted exact accepted).2.2
      · simp only [TcpEndpointRun.step, rebindEstablished_of_rejected accepted]
        exact exact
  | takeUnestablishedBefore cutoffMs shouldExpire =>
      exact lookupExact_takeUnestablishedBefore exact cutoffMs shouldExpire
  | takeUnestablished handle =>
      rcases takeUnestablished_cases run.cache handle with ⟨kept, _⟩ | ⟨record, _, _, taken⟩
      · simp only [TcpEndpointRun.step, kept]
        exact exact
      · simp only [TcpEndpointRun.step, taken]
        exact lookupExact_removeEndpointAliases exact record.endpoint
  | take handle =>
      rcases take_cases run.cache handle with ⟨kept, _⟩ | ⟨record, _, _, taken⟩
      · simp only [TcpEndpointRun.step, kept]
        exact exact
      · simp only [TcpEndpointRun.step, taken]
        exact lookupExact_removeEndpointAliases exact record.endpoint
  | clear => exact lookupExact_new

theorem lookupExact_runTcpEndpoints (operations : List TcpEndpointOp) :
    LookupExact (runTcpEndpoints operations).cache.records
      (runTcpEndpoints operations).cache.lookup := by
  have fold : ∀ (operations : List TcpEndpointOp) (run : TcpEndpointRun),
      LookupExact run.cache.records run.cache.lookup →
      LookupExact (operations.foldl TcpEndpointRun.step run).cache.records
        (operations.foldl TcpEndpointRun.step run).cache.lookup := by
    intro operations
    induction operations with
    | nil => exact fun run exact => exact
    | cons operation rest ih => exact fun run exact => ih _ (lookupExact_step exact operation)
  exact fold operations _ lookupExact_new

def TcpEndpointCache.MapsTo (cache : TcpEndpointCache) (handle instanceId : Nat) : Prop :=
  ∃ record, cache.records handle = some record ∧ record.endpoint.instanceId = instanceId

/-- Every handle of the endpoint's generation has its tuple and its parent. -/
def TcpEndpointCache.SharesEndpoint (cache : TcpEndpointCache) (endpoint : TcpEndpointConnection) :
    Prop :=
  ∀ handle record, cache.records handle = some record →
    record.endpoint.instanceId = endpoint.instanceId → record.endpoint = endpoint

def RetiresTogether (cache : TcpEndpointCache) : TcpEndpointOp → Prop
  | .take handle => ∀ endpoint ∈ (cache.take handle).1, ∀ other,
      ¬ (cache.take handle).2.MapsTo other endpoint.instanceId
  | .takeUnestablished handle => ∀ endpoint ∈ (cache.takeUnestablished handle).1, ∀ other,
      ¬ (cache.takeUnestablished handle).2.MapsTo other endpoint.instanceId
  | .takeUnestablishedBefore cutoffMs shouldExpire =>
      ∀ endpoint ∈ (cache.takeUnestablishedBefore cutoffMs shouldExpire).1, ∀ other,
        ¬ (cache.takeUnestablishedBefore cutoffMs shouldExpire).2.MapsTo other endpoint.instanceId
  | .rebindEstablished handle endpoint => (cache.rebindEstablished handle endpoint).1 = true →
      ∀ other, (cache.rebindEstablished handle endpoint).2.MapsTo other endpoint.instanceId ↔
        other = handle
  | .associateInstanceAt .. | .clear => True

/-- The generations that the operation retires have no alias under another tuple or parent. -/
def AliasesShareEndpoint (cache : TcpEndpointCache) : TcpEndpointOp → Prop
  | .take handle => handle ≠ 0 → ∀ record, cache.records handle = some record →
      cache.SharesEndpoint record.endpoint
  | .takeUnestablished handle => ∀ record, cache.records handle = some record →
      record.established = false → cache.SharesEndpoint record.endpoint
  | .takeUnestablishedBefore cutoffMs shouldExpire => ∀ handle record other expired,
      cache.records handle = some record → cache.records other = some expired →
      Expires cutoffMs shouldExpire expired →
      record.endpoint.instanceId = expired.endpoint.instanceId →
      ∃ twin twinRecord, cache.records twin = some twinRecord ∧
        Expires cutoffMs shouldExpire twinRecord ∧ twinRecord.endpoint = record.endpoint
  | .rebindEstablished handle endpoint => cache.AcceptsRebind handle endpoint →
      cache.SharesEndpoint endpoint
  | .associateInstanceAt .. | .clear => True

theorem mapsTo_removeEndpointAliases (exact : LookupExact cache.records cache.lookup)
    (endpoint : TcpEndpointConnection) :
    (∀ other, ¬ (cache.removeEndpointAliases endpoint).MapsTo other endpoint.instanceId) ↔
      cache.SharesEndpoint endpoint := by
  constructor
  · intro gone handle record stored generation
    by_cases same : record.endpoint = endpoint
    · exact same
    · refine absurd ⟨record, ?_, generation⟩ (gone handle)
      rw [records_removeEndpointAliases exact, stored]
      simp [same, Option.filter_some]
  · rintro shared other ⟨record, stored, generation⟩
    rw [records_removeEndpointAliases exact, Option.filter_eq_some_iff] at stored
    simpa [shared other record stored.1 generation] using stored.2

theorem retiresTogether_iff (exact : LookupExact cache.records cache.lookup)
    (operation : TcpEndpointOp) :
    RetiresTogether cache operation ↔ AliasesShareEndpoint cache operation := by
  cases operation with
  | associateInstanceAt handle key parent instanceId associatedAtMs => exact Iff.rfl
  | clear => exact Iff.rfl
  | take handle =>
      simp only [RetiresTogether, AliasesShareEndpoint]
      rcases take_cases cache handle with ⟨kept, nothing⟩ | ⟨record, valid, stored, taken⟩
      · rw [kept]
        refine iff_of_true (fun endpoint impossible => by cases impossible) ?_
        intro valid record stored
        rw [nothing.resolve_left valid] at stored
        cases stored
      · rw [taken]
        simp only [Option.mem_some_iff, forall_eq', stored, Option.some.injEq, valid, ne_eq,
          not_false_eq_true, forall_const]
        exact mapsTo_removeEndpointAliases exact record.endpoint
  | takeUnestablished handle =>
      simp only [RetiresTogether, AliasesShareEndpoint]
      rcases takeUnestablished_cases cache handle with
        ⟨kept, established⟩ | ⟨record, stored, pending, taken⟩
      · rw [kept]
        refine iff_of_true (fun endpoint impossible => by cases impossible) ?_
        intro record stored pending
        rw [established record stored] at pending
        cases pending
      · rw [taken]
        simp only [Option.mem_some_iff, forall_eq', stored, Option.some.injEq, pending,
          forall_const]
        exact mapsTo_removeEndpointAliases exact record.endpoint
  | takeUnestablishedBefore cutoffMs shouldExpire =>
      simp only [RetiresTogether, AliasesShareEndpoint]
      constructor
      · intro gone handle record other expired stored expiredStored expires generation
        by_cases listed : record.endpoint ∈
            (cache.takeUnestablishedBefore cutoffMs shouldExpire).1
        · exact (mem_takeUnestablishedBefore cache cutoffMs shouldExpire record.endpoint).mp listed
        · refine absurd ⟨record, ?_, generation⟩ (gone expired.endpoint
            ((mem_takeUnestablishedBefore cache cutoffMs shouldExpire _).mpr
              ⟨other, expired, expiredStored, expires, rfl⟩) handle)
          rw [records_takeUnestablishedBefore, stored]
          simp [listed, Option.filter_some]
      · rintro shared endpoint member handle ⟨record, stored, generation⟩
        obtain ⟨other, expired, expiredStored, expires, rfl⟩ :=
          (mem_takeUnestablishedBefore cache cutoffMs shouldExpire endpoint).mp member
        rw [records_takeUnestablishedBefore, Option.filter_eq_some_iff] at stored
        have twin := shared handle record other expired stored.1 expiredStored expires generation
        have listed := (mem_takeUnestablishedBefore cache cutoffMs shouldExpire
          record.endpoint).mpr twin
        simp [listed] at stored
  | rebindEstablished handle endpoint =>
      simp only [RetiresTogether, AliasesShareEndpoint]
      by_cases accepted : cache.AcceptsRebind handle endpoint
      · obtain ⟨rebound, after, _⟩ := rebindEstablished_of_accepted exact accepted
        simp only [rebound, forall_const, accepted]
        constructor
        · intro only other record stored generation
          by_cases same : record.endpoint = endpoint
          · exact same
          · by_cases here : other = handle
            · subst here
              exact accepted.2.2 record stored
            · refine absurd ((only other).mp ⟨record, ?_, generation⟩) here
              rw [after, if_neg here, stored]
              simp [same, Option.filter_some]
        · intro shared other
          constructor
          · rintro ⟨record, stored, generation⟩
            by_cases here : other = handle
            · exact here
            · rw [after, if_neg here, Option.filter_eq_some_iff] at stored
              simp [shared other record stored.1 generation] at stored
          · rintro rfl
            exact ⟨⟨endpoint, true, 0⟩, by rw [after, if_pos rfl], rfl⟩
      · rw [rebindEstablished_of_rejected accepted]
        exact iff_of_true (fun impossible => by cases impossible)
          fun impossible => absurd impossible accepted

end Retirement

/-- In every reachable cache, an operation retires a generation with all its aliases exactly when
these are recorded under one tuple and parent. -/
theorem aliases_retireTogether_iff (operations : List TcpEndpointOp) (operation : TcpEndpointOp) :
    RetiresTogether (runTcpEndpoints operations).cache operation ↔
      AliasesShareEndpoint (runTcpEndpoints operations).cache operation :=
  retiresTogether_iff (lookupExact_runTcpEndpoints operations) operation

def serverKey : Key where
  protocol := .tcp
  localAddress := .ipv4 (Ipv4Address.new 10 0 0 1)
  localPort := 40000
  remoteAddress := .ipv4 (Ipv4Address.new 192 0 2 1)
  remotePort := 443

/-- Generation 100 under one handle without and one with its parent. -/
def splitAliases : List TcpEndpointOp :=
  [.associateInstanceAt 10 serverKey none 100 1000,
    .associateInstanceAt 11 serverKey (some 7) 100 1000]

theorem splitAliases_not_retired :
    ¬ RetiresTogether (runTcpEndpoints splitAliases).cache (.take 10) := by
  intro together
  refine together ⟨serverKey, none, 100⟩ ?_ 11 ⟨⟨⟨serverKey, some 7, 100⟩, false, 1000⟩, ?_, rfl⟩
  · decide +kernel
  · decide +kernel

section Established

/-- No expiry touches a generation that is established. -/
def KeepsEstablished (run : TcpEndpointRun) : TcpEndpointOp → Prop
  | .takeUnestablishedBefore cutoffMs shouldExpire => ∀ instanceId ∈ run.established,
      (∀ endpoint ∈ (run.cache.takeUnestablishedBefore cutoffMs shouldExpire).1,
        endpoint.instanceId ≠ instanceId) ∧
      ∀ handle, run.cache.MapsTo handle instanceId →
        (run.cache.takeUnestablishedBefore cutoffMs shouldExpire).2.MapsTo handle instanceId
  | .takeUnestablished handle => ∀ instanceId ∈ run.established,
      (∀ endpoint ∈ (run.cache.takeUnestablished handle).1, endpoint.instanceId ≠ instanceId) ∧
      ∀ other, run.cache.MapsTo other instanceId →
        (run.cache.takeUnestablished handle).2.MapsTo other instanceId
  | _ => True

/-- A new handle of an established generation has the tuple and parent of a handle that already
carries the established state, and a rebind leaves no other handle without it. -/
def SpreadsEstablished (run : TcpEndpointRun) : TcpEndpointOp → Prop
  | .associateInstanceAt handle key parent instanceId _ => handle ≠ 0 → instanceId ≠ 0 →
      run.cache.records handle = none → instanceId ∈ run.established →
      run.cache.EstablishedAs ⟨key, parent, instanceId⟩
  | .rebindEstablished handle endpoint => run.cache.AcceptsRebind handle endpoint →
      ∀ other record, run.cache.records other = some record →
        record.endpoint.instanceId = endpoint.instanceId → record.established = false →
        record.endpoint = endpoint
  | _ => True

def TcpEndpointRun.MarksEstablished (run : TcpEndpointRun) : Prop :=
  ∀ handle record, run.cache.records handle = some record →
    record.endpoint.instanceId ∈ run.established → record.established = true

variable {run : TcpEndpointRun}

theorem marksEstablished_associate (exact : LookupExact run.cache.records run.cache.lookup)
    (marks : run.MarksEstablished) (handle : Nat) (key : Key) (parent : Option Nat)
    (instanceId associatedAtMs : Nat)
    (spreads : SpreadsEstablished run
      (.associateInstanceAt handle key parent instanceId associatedAtMs)) :
    (run.step (.associateInstanceAt handle key parent instanceId
      associatedAtMs)).MarksEstablished := by
  intro other record stored established
  simp only [TcpEndpointRun.step] at stored established
  cases (associates_associateInstanceAt exact handle key parent instanceId associatedAtMs).1 with
  | unchanged same _ =>
      rw [same] at stored
      exact marks other record stored established
  | filled existing filledParent before same records =>
      rw [records] at stored
      split at stored
      · cases stored
        have original := marks handle existing before
        rw [same] at original
        exact original established
      · exact marks other record stored established
  | added new valid absent endpoint inherits records =>
      rw [records] at stored
      split at stored
      · cases stored
        rw [endpoint] at established
        exact inherits.mpr (spreads valid.1 valid.2 absent established)
      · exact marks other record stored established

theorem marksEstablished_rebind (exact : LookupExact run.cache.records run.cache.lookup)
    (marks : run.MarksEstablished) (handle : Nat) (endpoint : TcpEndpointConnection)
    (spreads : SpreadsEstablished run (.rebindEstablished handle endpoint)) :
    (run.step (.rebindEstablished handle endpoint)).MarksEstablished := by
  intro other record stored established
  by_cases accepted : run.cache.AcceptsRebind handle endpoint
  · obtain ⟨rebound, after, _⟩ := rebindEstablished_of_accepted exact accepted
    simp only [TcpEndpointRun.step, rebound, ↓reduceIte, List.mem_cons] at stored established
    rw [after] at stored
    split at stored
    · cases stored
      rfl
    · rw [Option.filter_eq_some_iff] at stored
      rcases established with same | before
      · cases pending : record.established with
        | true => rfl
        | false => simp [spreads accepted other record stored.1 same pending] at stored
      · exact marks other record stored.1 before
  · simp only [TcpEndpointRun.step, rebindEstablished_of_rejected accepted] at stored established
    exact marks other record stored established

theorem marksEstablished_step (exact : LookupExact run.cache.records run.cache.lookup)
    (marks : run.MarksEstablished) (operation : TcpEndpointOp)
    (spreads : SpreadsEstablished run operation) : (run.step operation).MarksEstablished := by
  have removed : ∀ endpoint handle record,
      (run.cache.removeEndpointAliases endpoint).records handle = some record →
      run.cache.records handle = some record := by
    intro endpoint handle record stored
    rw [records_removeEndpointAliases exact, Option.filter_eq_some_iff] at stored
    exact stored.1
  cases operation with
  | associateInstanceAt handle key parent instanceId associatedAtMs =>
      exact marksEstablished_associate exact marks handle key parent instanceId associatedAtMs
        spreads
  | rebindEstablished handle endpoint =>
      exact marksEstablished_rebind exact marks handle endpoint spreads
  | takeUnestablishedBefore cutoffMs shouldExpire =>
      intro other record stored established
      simp only [TcpEndpointRun.step] at stored established
      rw [records_takeUnestablishedBefore, Option.filter_eq_some_iff] at stored
      exact marks other record stored.1 established
  | takeUnestablished handle =>
      intro other record stored established
      simp only [TcpEndpointRun.step] at stored established
      rcases takeUnestablished_cases run.cache handle with ⟨kept, _⟩ | ⟨taken, _, _, result⟩
      · rw [kept] at stored
        exact marks other record stored established
      · rw [result] at stored
        exact marks other record (removed _ other record stored) established
  | take handle =>
      intro other record stored established
      rcases take_cases run.cache handle with ⟨kept, _⟩ | ⟨taken, _, _, result⟩
      · simp only [TcpEndpointRun.step, kept] at stored established
        exact marks other record stored established
      · simp only [TcpEndpointRun.step, result, List.mem_filter] at stored established
        exact marks other record (removed _ other record stored) established.1
  | clear =>
      intro other record stored
      simp [TcpEndpointRun.step, TcpEndpointCache.clear, TcpEndpointCache.new, records] at stored

/-- Marked generations are safe from every expiry. -/
theorem keepsEstablished_of_marks (exact : LookupExact run.cache.records run.cache.lookup)
    (marks : run.MarksEstablished) (operation : TcpEndpointOp) : KeepsEstablished run operation := by
  cases operation with
  | takeUnestablishedBefore cutoffMs shouldExpire =>
      intro instanceId established
      have safe : ∀ endpoint ∈ (run.cache.takeUnestablishedBefore cutoffMs shouldExpire).1,
          endpoint.instanceId ≠ instanceId := by
        rintro endpoint member rfl
        obtain ⟨handle, record, stored, expires, rfl⟩ :=
          (mem_takeUnestablishedBefore run.cache cutoffMs shouldExpire endpoint).mp member
        have marked := marks handle record stored established
        rw [expires.1] at marked
        cases marked
      refine ⟨safe, ?_⟩
      rintro handle ⟨record, stored, rfl⟩
      refine ⟨record, ?_, rfl⟩
      have kept : record.endpoint ∉
          (run.cache.takeUnestablishedBefore cutoffMs shouldExpire).1 :=
        fun member => safe record.endpoint member rfl
      rw [records_takeUnestablishedBefore, stored]
      simp [kept, Option.filter_some]
  | takeUnestablished handle =>
      intro instanceId established
      rcases takeUnestablished_cases run.cache handle with
        ⟨kept, _⟩ | ⟨taken, takenStored, pending, result⟩
      · rw [kept]
        exact ⟨fun endpoint impossible => (by cases impossible), fun other maps => maps⟩
      · have different : taken.endpoint.instanceId ≠ instanceId := by
          rintro rfl
          have marked := marks handle taken takenStored established
          rw [pending] at marked
          cases marked
        rw [result]
        refine ⟨?_, ?_⟩
        · rintro endpoint same
          cases same
          exact different
        · rintro other ⟨record, stored, rfl⟩
          refine ⟨record, ?_, rfl⟩
          have unequal : record.endpoint ≠ taken.endpoint := by
            intro same
            exact different (by rw [same])
          rw [records_removeEndpointAliases exact, stored]
          simp [unequal, Option.filter_some]
  | associateInstanceAt _ _ _ _ _ => trivial
  | rebindEstablished _ _ => trivial
  | take _ => trivial
  | clear => trivial

/-- An unestablished handle of an established generation is taken by a resource release. -/
theorem not_keepsEstablished_of_pending {handle : Nat} {record : TcpEndpointRecord}
    (stored : run.cache.records handle = some record) (pending : record.established = false)
    (established : record.endpoint.instanceId ∈ run.established) :
    ¬ KeepsEstablished run (.takeUnestablished handle) := by
  intro keeps
  rcases takeUnestablished_cases run.cache handle with ⟨_, marked⟩ | ⟨taken, takenStored, _, result⟩
  · rw [marked record stored] at pending
    cases pending
  · rw [stored, Option.some.injEq] at takenStored
    subst takenStored
    refine (keeps record.endpoint.instanceId established).1 record.endpoint ?_ rfl
    rw [result]
    rfl

theorem spreadsEstablished_of_keeps (exact : LookupExact run.cache.records run.cache.lookup)
    {operation : TcpEndpointOp} (keeps : ∀ next, KeepsEstablished (run.step operation) next) :
    SpreadsEstablished run operation := by
  cases operation with
  | associateInstanceAt handle key parent instanceId associatedAtMs =>
      intro handleValid instanceValid absent established
      cases (associates_associateInstanceAt exact handle key parent instanceId associatedAtMs).1 with
      | unchanged _ known => exact absurd absent (known handleValid instanceValid)
      | filled existing _ stored _ _ =>
          rw [absent] at stored
          cases stored
      | added record _ _ endpoint inherits records =>
          refine inherits.mp ?_
          cases pending : record.established with
          | true => rfl
          | false =>
              refine absurd (keeps (.takeUnestablished handle))
                (not_keepsEstablished_of_pending ((records handle).trans (if_pos rfl)) pending ?_)
              rw [endpoint]
              exact established
  | rebindEstablished handle endpoint =>
      intro accepted other record stored generation pending
      obtain ⟨rebound, after, _⟩ := rebindEstablished_of_accepted exact accepted
      by_cases same : record.endpoint = endpoint
      · exact same
      · have elsewhere : other ≠ handle := by
          rintro rfl
          exact same (accepted.2.2 record stored)
        have left : (run.step (.rebindEstablished handle endpoint)).cache.records other =
            some record := by
          refine (after other).trans ?_
          rw [if_neg elsewhere, stored]
          simp [same, Option.filter_some]
        refine absurd (keeps (.takeUnestablished other))
          (not_keepsEstablished_of_pending left pending ?_)
        simp [TcpEndpointRun.step, rebound, generation]
  | takeUnestablishedBefore _ _ => trivial
  | takeUnestablished _ => trivial
  | take _ => trivial
  | clear => trivial

end Established

theorem runTcpEndpoints_append (operations : List TcpEndpointOp) (operation : TcpEndpointOp) :
    runTcpEndpoints (operations ++ [operation]) = (runTcpEndpoints operations).step operation := by
  simp [runTcpEndpoints]

theorem marksEstablished_runTcpEndpoints (operations : List TcpEndpointOp)
    (spreads : ∀ before operation after, operations = before ++ operation :: after →
      SpreadsEstablished (runTcpEndpoints before) operation) :
    (runTcpEndpoints operations).MarksEstablished := by
  induction operations using List.reverseRecOn with
  | nil =>
      intro handle record _ impossible
      cases impossible
  | append_singleton operations last ih =>
      rw [runTcpEndpoints_append]
      refine marksEstablished_step (lookupExact_runTcpEndpoints operations) (ih ?_) last
        (spreads operations last [] rfl)
      intro before operation after split
      exact spreads before operation (after ++ [last]) (by simp [split])

/-- Along a run, no expiry can touch an established generation exactly when every step spreads the
established state to all handles of its generation. -/
theorem established_notExpired_iff (operations : List TcpEndpointOp) :
    (∀ before after, operations = before ++ after →
        ∀ next, KeepsEstablished (runTcpEndpoints before) next) ↔
      ∀ before operation after, operations = before ++ operation :: after →
        SpreadsEstablished (runTcpEndpoints before) operation := by
  constructor
  · intro keeps before operation after split
    refine spreadsEstablished_of_keeps (lookupExact_runTcpEndpoints before) ?_
    rw [← runTcpEndpoints_append]
    exact keeps (before ++ [operation]) after (by simp [split])
  · intro spreads before after split
    refine keepsEstablished_of_marks (lookupExact_runTcpEndpoints before)
      (marksEstablished_runTcpEndpoints before ?_)
    intro start operation rest inner
    exact spreads start operation (rest ++ after) (by simp [split, inner])

/-- An established flow of generation 100, and a later alias without its parent. -/
def lateAlias : List TcpEndpointOp :=
  [.associateInstanceAt 10 serverKey (some 7) 100 1000,
    .rebindEstablished 20 ⟨serverKey, some 7, 100⟩,
    .associateInstanceAt 21 serverKey none 100 2000]

theorem lateAlias_expires :
    ¬ KeepsEstablished (runTcpEndpoints lateAlias) (.takeUnestablished 21) := by
  have stored : (runTcpEndpoints lateAlias).cache.records 21 =
      some ⟨⟨serverKey, none, 100⟩, false, 2000⟩ := by decide +kernel
  exact not_keepsEstablished_of_pending stored rfl (by decide +kernel)

end WindowsKext
