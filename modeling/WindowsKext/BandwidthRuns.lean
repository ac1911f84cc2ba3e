import Mathlib.Data.List.Induction
import Mathlib.Data.List.Perm.Basic
import WindowsKext.BandwidthCore

/-! Every byte that a packet callback counts is reported once, for its own protocol, family, tuple
and direction, or still in the map. -/

namespace WindowsKext

open ByteString LittleEndian FieldLayout

def BandwidthCounters.bytes (counters : BandwidthCounters) : Direction → UInt64
  | .outbound => counters.transmittedBytes
  | .inbound => counters.receivedBytes

def BandwidthValue.bytes {n : Nat} (value : BandwidthValue n) : Direction → UInt64
  | .outbound => value.transmittedBytes
  | .inbound => value.receivedBytes

def BandwidthValue.key {n : Nat} (value : BandwidthValue n) : BandwidthKey n where
  localIp := value.localIp
  localPort := value.localPort
  remoteIp := value.remoteIp
  remotePort := value.remotePort

/-- What the Go client reads as values of a protocol and a family. -/
def GoInfo.valuesOf : GoInfo → (table : BandwidthTable) → List (BandwidthValue table.width)
  | .bandwidthStatsV4 protocol values, .tcpV4 => if protocol = 6 then values else []
  | .bandwidthStatsV4 protocol values, .udpV4 => if protocol = 17 then values else []
  | .bandwidthStatsV6 protocol values, .tcpV6 => if protocol = 6 then values else []
  | .bandwidthStatsV6 protocol values, .udpV6 => if protocol = 17 then values else []
  | _, _ => []

def countedBytes {n : Nat} (values : List (BandwidthValue n)) (key : BandwidthKey n)
    (direction : Direction) : Nat :=
  ((values.filter fun value => value.key = key).map fun value => (value.bytes direction).toNat).sum

section Measures

variable (table : BandwidthTable) (key : BandwidthKey table.width) (direction : Direction)

def BandwidthOp.bytesFor : BandwidthOp → Nat
  | .update other otherKey otherDirection bytes =>
      if same : other = table then
        if same ▸ otherKey = key ∧ otherDirection = direction then bytes.toNat else 0
      else 0
  | .take _ | .encode _ => 0

def Record.bytesFor (record : Record) : Nat :=
  countedBytes (record.goInfo.valuesOf table) key direction

def decodedBytes : Except GoErrors GoInfo → Nat
  | .ok info => countedBytes (info.valuesOf table) key direction
  | .error _ => 0

def Bandwidth.bytesFor (bandwidth : Bandwidth) : Nat :=
  (((bandwidth.stats table)[key]?.getD .default).bytes direction).toNat

/-- Reported, taken by a drain that has not returned, or in the map. -/
def BandwidthRun.accounted (run : BandwidthRun) : Nat :=
  (run.decoded.map (decodedBytes table key direction)).sum +
    (run.taken.map (Record.bytesFor table key direction)).sum +
    run.bandwidth.bytesFor table key direction

end Measures

namespace Bandwidth

variable {bandwidth : Bandwidth} {table other : BandwidthTable}

theorem stats_setStats_same (stats : BandwidthStatsMap table.width) :
    (bandwidth.setStats table stats).stats table = stats := by
  cases table <;> rfl

theorem stats_setStats_other (different : other ≠ table) (stats : BandwidthStatsMap table.width) :
    (bandwidth.setStats table stats).stats other = bandwidth.stats other := by
  cases table <;> cases other <;> first | rfl | exact absurd rfl different

theorem valuesOf_report (values : List (BandwidthValue table.width)) :
    (report table values).goInfo.valuesOf table = values := by
  cases table <;> rfl

theorem valuesOf_report_other (different : other ≠ table)
    (values : List (BandwidthValue table.width)) :
    (report table values).goInfo.valuesOf other = [] := by
  cases table <;> cases other <;> first | rfl | exact absurd rfl different

end Bandwidth

section Maps

variable {n : Nat} {stats : BandwidthStatsMap n} {key : BandwidthKey n} {direction : Direction}

theorem updateStats_bytes (other : BandwidthKey n) (otherDirection : Direction) (bytes : UInt64) :
    ((Bandwidth.updateStats stats other otherDirection bytes)[key]?.getD .default).bytes direction =
      (stats[key]?.getD .default).bytes direction +
        if other = key ∧ otherDirection = direction then bytes else 0 := by
  unfold Bandwidth.updateStats
  simp only [Std.TreeMap.getElem?_insert, Std.LawfulEqCmp.compare_eq_iff_eq]
  by_cases same : other = key
  · rw [if_pos same, same]
    cases otherDirection <;> cases direction <;> simp [BandwidthCounters.bytes]
  · rw [if_neg same, if_neg fun both => same both.1, UInt64.add_zero]

theorem countedBytes_cons (value : BandwidthValue n) (values : List (BandwidthValue n)) :
    countedBytes (value :: values) key direction =
      (if value.key = key then (value.bytes direction).toNat else 0) +
        countedBytes values key direction := by
  unfold countedBytes
  by_cases same : value.key = key
  · simp [same]
  · simp [same]

theorem countedBytes_absent {entries : List (BandwidthKey n × BandwidthCounters)}
    (absent : ∀ entry ∈ entries, entry.1 ≠ key) :
    countedBytes (entries.map Bandwidth.reportValue) key direction = 0 := by
  induction entries with
  | nil => rfl
  | cons first rest ih =>
      have different : ¬ (Bandwidth.reportValue first).key = key := absent first List.mem_cons_self
      rw [List.map_cons, countedBytes_cons, if_neg different,
        ih fun entry member => absent entry (List.mem_cons_of_mem _ member)]

theorem countedBytes_present {entries : List (BandwidthKey n × BandwidthCounters)}
    {counters : BandwidthCounters} (distinct : entries.Pairwise fun left right => left.1 ≠ right.1)
    (present : (key, counters) ∈ entries) :
    countedBytes (entries.map Bandwidth.reportValue) key direction =
      (counters.bytes direction).toNat := by
  induction entries with
  | nil => cases present
  | cons first rest ih =>
      rw [List.pairwise_cons] at distinct
      rcases List.mem_cons.mp present with rfl | later
      · have absent := @countedBytes_absent n key direction rest
          fun entry member same => distinct.1 entry member same.symm
        have same : (Bandwidth.reportValue (key, counters)).key = key := rfl
        rw [List.map_cons, countedBytes_cons, absent, if_pos same]
        cases direction <;> rfl
      · have different : ¬ (Bandwidth.reportValue first).key = key := distinct.1 _ later
        rw [List.map_cons, countedBytes_cons, if_neg different, ih distinct.2 later, Nat.zero_add]

theorem distinct_entries (stats : BandwidthStatsMap n) :
    stats.toList.Pairwise fun left right => left.1 ≠ right.1 := by
  refine stats.distinct_keys_toList.imp ?_
  intro left right different same
  exact different (Std.LawfulEqCmp.compare_eq_iff_eq.mpr same)

theorem countedBytes_toList :
    countedBytes (stats.toList.map Bandwidth.reportValue) key direction =
      ((stats[key]?.getD .default).bytes direction).toNat := by
  cases found : stats[key]? with
  | none =>
      rw [countedBytes_absent]
      · cases direction <;> rfl
      · intro entry member same
        have stored := Std.TreeMap.mem_toList_iff_getElem?_eq_some.mp member
        rw [same, found] at stored
        cases stored
  | some counters =>
      exact countedBytes_present (distinct_entries stats)
        (Std.TreeMap.mem_toList_iff_getElem?_eq_some.mpr found)

end Maps

section Steps

variable {run : BandwidthRun} {table : BandwidthTable} {key : BandwidthKey table.width}
  {direction : Direction}

theorem bytesFor_update (bandwidth : Bandwidth) (other : BandwidthTable)
    (otherKey : BandwidthKey other.width) (otherDirection : Direction) (bytes : UInt64) :
    (bandwidth.update other otherKey otherDirection bytes).bytesFor table key direction =
      (bandwidth.bytesFor table key direction +
        (BandwidthOp.update other otherKey otherDirection bytes).bytesFor table key direction) %
          2 ^ 64 := by
  have small := ((bandwidth.stats table)[key]?.getD .default).bytes direction |>.toNat_lt
  unfold Bandwidth.bytesFor Bandwidth.update BandwidthOp.bytesFor
  dsimp only
  by_cases same : other = table
  · subst same
    rw [Bandwidth.stats_setStats_same, updateStats_bytes, UInt64.toNat_add, dif_pos rfl]
    by_cases counted : otherKey = key ∧ otherDirection = direction
    · rw [if_pos counted, if_pos counted]
    · rw [if_neg counted, if_neg counted]
      rfl
  · rw [Bandwidth.stats_setStats_other fun equal => same equal.symm, dif_neg same, Nat.add_zero,
      Nat.mod_eq_of_lt small]

theorem takeUpdates_cases (bandwidth : Bandwidth) (other : BandwidthTable) :
    bandwidth.takeUpdates other = (none, bandwidth) ∨
      ∃ values : List (BandwidthValue other.width),
        (bandwidth.takeUpdates other).1 = some (Bandwidth.report other values) ∧
          (values.map BandwidthValue.key).Nodup ∧
          values.length = (bandwidth.stats other).size ∧
          ∀ table key direction,
            (Bandwidth.report other values).bytesFor table key direction +
                (bandwidth.takeUpdates other).2.bytesFor table key direction =
              bandwidth.bytesFor table key direction := by
  unfold Bandwidth.takeUpdates
  split
  · exact .inl rfl
  · refine .inr ⟨_, rfl, ?_, ?_, ?_⟩
    · rw [List.map_map]
      exact List.pairwise_map.mpr (distinct_entries _)
    · rw [List.length_map, Std.TreeMap.length_toList]
    · intro table key direction
      unfold Record.bytesFor Bandwidth.bytesFor
      by_cases same : table = other
      · subst same
        rw [Bandwidth.valuesOf_report, Bandwidth.stats_setStats_same, countedBytes_toList,
          Std.TreeMap.getElem?_emptyc]
        cases direction <;> rfl
      · rw [Bandwidth.valuesOf_report_other same, Bandwidth.stats_setStats_other same]
        exact Nat.zero_add _

def BandwidthRun.recorded (run : BandwidthRun) (table : BandwidthTable)
    (key : BandwidthKey table.width) (direction : Direction) : Nat :=
  (run.reports.map (Record.bytesFor table key direction)).sum +
    (run.taken.map (Record.bytesFor table key direction)).sum +
    run.bandwidth.bytesFor table key direction

theorem recorded_step (op : BandwidthOp) :
    (run.step op).recorded table key direction % 2 ^ 64 =
      (run.recorded table key direction + op.bytesFor table key direction) % 2 ^ 64 := by
  cases op with
  | update other otherKey otherDirection bytes =>
      rw [BandwidthRun.recorded, BandwidthRun.recorded, BandwidthRun.step, bytesFor_update]
      dsimp only
      omega
  | take other =>
      have nothing : (BandwidthOp.take other).bytesFor table key direction = 0 := rfl
      rw [BandwidthRun.recorded, BandwidthRun.recorded, BandwidthRun.step, nothing]
      rcases takeUpdates_cases run.bandwidth other with none | ⟨values, some, _, _, moved⟩
      · rw [none]
        dsimp only
        rw [Option.toList_none, List.append_nil, Nat.add_zero]
      · have moved := moved table key direction
        dsimp only
        rw [some, Option.toList_some, List.map_append, List.sum_append, List.map_singleton,
          List.sum_singleton]
        omega
  | encode drain =>
      have nothing : (BandwidthOp.encode drain).bytesFor table key direction = 0 := rfl
      rw [BandwidthRun.recorded, BandwidthRun.recorded, BandwidthRun.step, nothing]
      cases found : run.taken[drain]? with
      | none => rw [Nat.add_zero]
      | some record =>
          obtain ⟨inside, same⟩ := List.getElem?_eq_some_iff.mp found
          have perm := List.getElem_cons_eraseIdx_perm inside
          have sums := (perm.map (Record.bytesFor table key direction)).sum_nat
          rw [same, List.map_cons, List.sum_cons] at sums
          dsimp only
          rw [List.map_append, List.sum_append, List.map_singleton, List.sum_singleton]
          omega

/-- A record that a drain built: one table, and every tuple once. -/
def BandwidthReport (record : Record) : Prop :=
  ∃ table values, record = Bandwidth.report table values ∧
    (values.map BandwidthValue.key).Nodup

theorem records_step {condition : Record → Prop} {op : BandwidthOp}
    (records : ∀ record ∈ run.taken ++ run.reports, condition record)
    (new : ∀ other record, op = .take other → (run.bandwidth.takeUpdates other).1 = some record →
      condition record) :
    ∀ record ∈ (run.step op).taken ++ (run.step op).reports, condition record := by
  intro record member
  cases op with
  | update other otherKey otherDirection bytes => exact records record member
  | take other =>
      simp only [BandwidthRun.step, List.append_assoc, List.mem_append, Option.mem_toList] at member
      rcases member with inTaken | taken | inReports
      · exact records record (List.mem_append_left _ inTaken)
      · exact new other record rfl taken
      · exact records record (List.mem_append_right _ inReports)
  | encode drain =>
      rw [BandwidthRun.step] at member
      cases found : run.taken[drain]? with
      | none =>
          rw [found] at member
          exact records record member
      | some encoded =>
          rw [found] at member
          simp only [List.mem_append, List.mem_singleton] at member
          rcases member with inTaken | inReports | rfl
          · exact records record (List.mem_append_left _ (List.mem_of_mem_eraseIdx inTaken))
          · exact records record (List.mem_append_right _ inReports)
          · exact records record (List.mem_append_left _ (List.mem_of_getElem? found))

end Steps

section Runs

variable {ops : List BandwidthOp}

theorem runBandwidth_append (ops : List BandwidthOp) (op : BandwidthOp) :
    runBandwidth (ops ++ [op]) = (runBandwidth ops).step op :=
  List.foldl_append

theorem recorded_run (ops : List BandwidthOp) (table : BandwidthTable)
    (key : BandwidthKey table.width) (direction : Direction) :
    (runBandwidth ops).recorded table key direction % 2 ^ 64 =
      (ops.map (BandwidthOp.bytesFor table key direction)).sum % 2 ^ 64 := by
  induction ops using List.reverseRecOn with
  | nil => cases table <;> cases direction <;> rfl
  | append_singleton ops op ih =>
      rw [runBandwidth_append, recorded_step, List.map_append, List.sum_append, List.map_singleton,
        List.sum_singleton, Nat.add_mod, ih, ← Nat.add_mod]

theorem records_run {condition : Record → Prop}
    (new : ∀ before other after record, ops = before ++ .take other :: after →
      ((runBandwidth before).bandwidth.takeUpdates other).1 = some record → condition record) :
    ∀ record ∈ (runBandwidth ops).taken ++ (runBandwidth ops).reports, condition record := by
  induction ops using List.reverseRecOn with
  | nil =>
      intro record member
      cases member
  | append_singleton ops op ih =>
      rw [runBandwidth_append]
      refine records_step (ih ?_) ?_
      · intro before other after record split
        refine new before other (after ++ [op]) record ?_
        rw [split, List.append_assoc, List.cons_append]
      · rintro other record rfl
        exact new ops other [] record rfl

/-- Every map that a drain takes has few enough tuples for the 32-bit size of its record. -/
def ReportsFit (ops : List BandwidthOp) : Prop :=
  ∀ before table after, ops = before ++ .take table :: after →
    5 + bandwidthValueSize table.width * ((runBandwidth before).bandwidth.stats table).size < 2 ^ 32

theorem payload_report (table : BandwidthTable) (values : List (BandwidthValue table.width)) :
    (Bandwidth.report table values).payload.length =
      5 + bandwidthValueSize table.width * values.length := by
  cases table <;> exact Record.length_bandwidthPayload _ values

theorem reports_sound (ops : List BandwidthOp) :
    ∀ record ∈ (runBandwidth ops).taken ++ (runBandwidth ops).reports, BandwidthReport record := by
  refine records_run ?_
  intro before other after record _ taken
  rcases takeUpdates_cases (runBandwidth before).bandwidth other with none | ⟨values, some, distinct, _⟩
  · rw [none] at taken
    cases taken
  · rw [some] at taken
    cases taken
    exact ⟨other, values, rfl, distinct⟩

theorem reports_small (fit : ReportsFit ops) :
    ∀ record ∈ (runBandwidth ops).taken ++ (runBandwidth ops).reports,
      record.payload.length < 2 ^ 32 := by
  refine records_run ?_
  intro before other after record split taken
  rcases takeUpdates_cases (runBandwidth before).bandwidth other with none | ⟨values, some, _, size, _⟩
  · rw [none] at taken
    cases taken
  · rw [some] at taken
    cases taken
    rw [payload_report, size]
    exact fit before other after split

theorem decoded_run (fit : ReportsFit ops) :
    (runBandwidth ops).decoded = (runBandwidth ops).reports.map fun record => .ok record.goInfo := by
  have small := recvInfos_records (runBandwidth ops).reports []
    fun record member => reports_small fit record (List.mem_append_right _ member)
  rw [List.append_nil] at small
  rw [BandwidthRun.decoded, small]

end Runs

/-- What the client has been told and what is left, for every protocol, family, tuple and
direction. -/
structure BandwidthConserved (ops : List BandwidthOp) : Prop where
  conserved : ∀ table key direction,
    (runBandwidth ops).accounted table key direction % 2 ^ 64 =
      (ops.map (BandwidthOp.bytesFor table key direction)).sum % 2 ^ 64
  reports : ∀ result ∈ (runBandwidth ops).decoded, ∃ table values,
    result = .ok (Bandwidth.report table values).goInfo ∧ (values.map BandwidthValue.key).Nodup
  onlyCounted : ∀ table key direction,
    (∀ op ∈ ops, op.bytesFor table key direction = 0) →
      ∀ result ∈ (runBandwidth ops).decoded, decodedBytes table key direction result = 0

section Zero

variable {table : BandwidthTable} {key : BandwidthKey table.width} {direction : Direction}
  {ops : List BandwidthOp}

theorem bytesFor_takeUpdates_zero {bandwidth : Bandwidth} (other : BandwidthTable)
    (zero : bandwidth.bytesFor table key direction = 0) :
    (bandwidth.takeUpdates other).2.bytesFor table key direction = 0 ∧
      ∀ record, (bandwidth.takeUpdates other).1 = some record →
        record.bytesFor table key direction = 0 := by
  rcases takeUpdates_cases bandwidth other with none | ⟨values, some, _, _, moved⟩
  · rw [none]
    refine ⟨zero, ?_⟩
    intro record taken
    cases taken
  · have moved := moved table key direction
    rw [zero] at moved
    refine ⟨by omega, ?_⟩
    intro record taken
    rw [some] at taken
    cases taken
    omega

theorem stored_zero_run (uncounted : ∀ op ∈ ops, op.bytesFor table key direction = 0) :
    (runBandwidth ops).bandwidth.bytesFor table key direction = 0 := by
  induction ops using List.reverseRecOn with
  | nil => cases table <;> cases direction <;> rfl
  | append_singleton ops op ih =>
      have before := ih fun earlier member => uncounted earlier (List.mem_append_left _ member)
      have now := uncounted op (List.mem_append_right _ List.mem_cons_self)
      rw [runBandwidth_append]
      cases op with
      | update other otherKey otherDirection bytes =>
          rw [BandwidthRun.step, bytesFor_update, before, now, Nat.zero_add, Nat.zero_mod]
      | take other => exact (bytesFor_takeUpdates_zero other before).1
      | encode drain =>
          rw [BandwidthRun.step]
          cases (runBandwidth ops).taken[drain]? with
          | none => exact before
          | some record => exact before

theorem records_zero_run (uncounted : ∀ op ∈ ops, op.bytesFor table key direction = 0) :
    ∀ record ∈ (runBandwidth ops).taken ++ (runBandwidth ops).reports,
      record.bytesFor table key direction = 0 := by
  refine records_run ?_
  intro before other after record split taken
  have earlier : ∀ op ∈ before, op.bytesFor table key direction = 0 := by
    intro op member
    exact uncounted op (split ▸ List.mem_append_left _ member)
  exact (bytesFor_takeUpdates_zero other (stored_zero_run earlier)).2 record taken

end Zero

/-- In every interleaving whose reports fit the size field of a record, the bytes are conserved
modulo 2^64 through the wire. -/
theorem bandwidth_conserved (ops : List BandwidthOp) (fit : ReportsFit ops) :
    BandwidthConserved ops := by
  have decoded := decoded_run fit
  refine ⟨?_, ?_, ?_⟩
  · intro table key direction
    have sums : ((runBandwidth ops).decoded.map (decodedBytes table key direction)).sum =
        ((runBandwidth ops).reports.map (Record.bytesFor table key direction)).sum := by
      rw [decoded, List.map_map]
      rfl
    rw [BandwidthRun.accounted, sums]
    exact recorded_run ops table key direction
  · intro result member
    rw [decoded] at member
    obtain ⟨record, inReports, rfl⟩ := List.mem_map.mp member
    obtain ⟨table, values, rfl, distinct⟩ :=
      reports_sound ops record (List.mem_append_right _ inReports)
    exact ⟨table, values, rfl, distinct⟩
  · intro table key direction uncounted result member
    rw [decoded] at member
    obtain ⟨record, inReports, rfl⟩ := List.mem_map.mp member
    exact records_zero_run uncounted record (List.mem_append_right _ inReports)

theorem size_takeUpdates_le {bandwidth : Bandwidth} {table : BandwidthTable}
    (other : BandwidthTable) :
    ((bandwidth.takeUpdates other).2.stats table).size ≤ (bandwidth.stats table).size := by
  unfold Bandwidth.takeUpdates
  split
  · exact Nat.le_refl _
  · dsimp only
    by_cases same : table = other
    · subst same
      rw [Bandwidth.stats_setStats_same]
      exact Nat.zero_le _
    · exact Nat.le_of_eq (by rw [Bandwidth.stats_setStats_other same])

theorem size_stats_le (ops : List BandwidthOp) (table : BandwidthTable) :
    ((runBandwidth ops).bandwidth.stats table).size ≤ ops.length := by
  induction ops using List.reverseRecOn with
  | nil => cases table <;> exact Nat.le_refl 0
  | append_singleton ops op ih =>
      rw [runBandwidth_append, List.length_append, List.length_singleton]
      cases op with
      | update other key direction bytes =>
          rw [BandwidthRun.step, Bandwidth.update]
          dsimp only
          by_cases same : table = other
          · subst same
            rw [Bandwidth.stats_setStats_same]
            exact Nat.le_trans Std.TreeMap.size_insert_le (Nat.add_le_add_right ih 1)
          · rw [Bandwidth.stats_setStats_other same]
            omega
      | take other => exact Nat.le_succ_of_le (Nat.le_trans (size_takeUpdates_le other) ih)
      | encode drain =>
          rw [BandwidthRun.step]
          cases (runBandwidth ops).taken[drain]? with
          | none => exact Nat.le_succ_of_le ih
          | some record => exact Nat.le_succ_of_le ih

theorem reportsFit_of_few {ops : List BandwidthOp} (few : 5 + 52 * ops.length < 2 ^ 32) :
    ReportsFit ops := by
  rintro before table after rfl
  have narrow : bandwidthValueSize table.width ≤ 52 := by
    cases table <;> decide
  have payload := Nat.mul_le_mul narrow (size_stats_le before table)
  rw [List.length_append] at few
  omega

def flowKey : BandwidthKey 4 where
  localIp := (Ipv4Address.new 10 0 0 1).octets
  localPort := 50000
  remoteIp := (Ipv4Address.new 1 1 1 1).octets
  remotePort := 443

def flowOps : List BandwidthOp :=
  [.update .tcpV4 flowKey .inbound 700, .take .tcpV4, .update .tcpV4 flowKey .inbound 40, .encode 0,
    .update .tcpV4 flowKey .outbound 9]

theorem bandwidth_conserved_flow :
    BandwidthConserved flowOps ∧
      (runBandwidth flowOps).reports.map (Record.bytesFor .tcpV4 flowKey .inbound) = [700] ∧
      (runBandwidth flowOps).bandwidth.bytesFor .tcpV4 flowKey .inbound = 40 :=
  ⟨bandwidth_conserved flowOps (reportsFit_of_few (by decide)), by decide +kernel, by decide +kernel⟩

section Crowded

theorem size_updateStats {n : Nat} {stats : BandwidthStatsMap n} {key : BandwidthKey n}
    (absent : key ∉ stats) (direction : Direction) (bytes : UInt64) :
    (Bandwidth.updateStats stats key direction bytes).size = stats.size + 1 := by
  unfold Bandwidth.updateStats
  dsimp only
  rw [Std.TreeMap.size_insert, if_neg fun contained =>
    absent (Std.TreeMap.mem_iff_contains.mpr contained)]

theorem mem_updateStats {n : Nat} {stats : BandwidthStatsMap n} {key other : BandwidthKey n}
    {direction : Direction} {bytes : UInt64} :
    other ∈ Bandwidth.updateStats stats key direction bytes ↔ key = other ∨ other ∈ stats := by
  unfold Bandwidth.updateStats
  dsimp only
  rw [Std.TreeMap.mem_insert, Std.LawfulEqCmp.compare_eq_iff_eq]

/-- A report of this many tuples is 29 bytes longer than its size field can say. -/
def crowdedCount : Nat := 153391690

def crowdedKey (index : Nat) : BandwidthKey 4 where
  localIp := (Ipv4Address.new 10 0 0 1).octets
  localPort := UInt16.ofNat index
  remoteIp := (Ipv4Address.new 1 1 1 1).octets
  remotePort := UInt16.ofNat (index / 65536)

def crowdedUpdate (index : Nat) : BandwidthOp := .update .tcpV4 (crowdedKey index) .inbound 1

def crowdedOps : List BandwidthOp :=
  (List.range crowdedCount).map crowdedUpdate ++ [.take .tcpV4, .encode 0]

theorem crowdedKey_injective {left right : Nat} (leftSmall : left < 2 ^ 32)
    (rightSmall : right < 2 ^ 32) (same : crowdedKey left = crowdedKey right) : left = right := by
  have low := congrArg (fun key : BandwidthKey 4 => key.localPort.toNat) same
  have high := congrArg (fun key : BandwidthKey 4 => key.remotePort.toNat) same
  simp only [crowdedKey, UInt16.toNat_ofNat'] at low high
  omega

theorem crowded_stats {count : Nat} (small : count ≤ 2 ^ 32) :
    (runBandwidth ((List.range count).map crowdedUpdate)).taken = [] ∧
      (runBandwidth ((List.range count).map crowdedUpdate)).reports = [] ∧
      (runBandwidth ((List.range count).map crowdedUpdate)).bandwidth.statsTcpV4.size = count ∧
      ∀ index < 2 ^ 32,
        crowdedKey index ∈
            (runBandwidth ((List.range count).map crowdedUpdate)).bandwidth.statsTcpV4 ↔
          index < count := by
  induction count with
  | zero =>
      refine ⟨rfl, rfl, rfl, ?_⟩
      intro index _
      exact ⟨fun member => absurd member Std.TreeMap.not_mem_emptyc, fun below => by omega⟩
  | succ count ih =>
      obtain ⟨taken, reports, size, members⟩ := ih (by omega)
      rw [List.range_succ, List.map_append, List.map_singleton, runBandwidth_append]
      generalize runBandwidth ((List.range count).map crowdedUpdate) = run at *
      have absent : crowdedKey count ∉ run.bandwidth.statsTcpV4 := by
        rw [members count (by omega)]
        exact Nat.lt_irrefl count
      refine ⟨taken, reports, ?_, ?_⟩
      · exact (size_updateStats absent .inbound 1).trans (congrArg (· + 1) size)
      · intro index inside
        have known := members index inside
        refine mem_updateStats.trans ⟨?_, ?_⟩
        · rintro (same | stored)
          · have equal := crowdedKey_injective (by omega) inside same
            omega
          · have below := known.mp stored
            omega
        · intro below
          by_cases last : index = count
          · exact .inl (by rw [last])
          · exact .inr (known.mpr (by omega))

theorem crowded_sum {count : Nat} (positive : 0 < count) (small : count ≤ 2 ^ 32) :
    (((List.range count).map crowdedUpdate).map
      (BandwidthOp.bytesFor .tcpV4 (crowdedKey 0) .inbound)).sum = 1 := by
  induction count with
  | zero => omega
  | succ count ih =>
      rw [List.range_succ, List.map_append, List.map_append, List.sum_append, List.map_singleton,
        List.map_singleton, List.sum_singleton]
      by_cases first : count = 0
      · subst first
        rfl
      · have different : crowdedKey count ≠ crowdedKey 0 := by
          intro same
          exact first (crowdedKey_injective (by omega) (by omega) same)
        have nothing : (crowdedUpdate count).bytesFor .tcpV4 (crowdedKey 0) .inbound = 0 :=
          if_neg fun counted => different counted.1
        rw [ih (by omega) (by omega), nothing]

theorem recvBandwidthValues_beyond {parseError : GoError} {infoType : UInt8} {size : UInt32}
    {stream : Bytes} {position : Nat} (count : Nat) (inside : position ≤ stream.length)
    (beyond : UInt32.ofNat (position + (bandwidthValue 4).size) > size) :
    ∃ errors helper, (recvBandwidthValues parseError (count + 1) : Recv (List (BandwidthValue 4)))
      (helperAt infoType size stream position) = (.error errors, helper) := by
  rw [recvBandwidthValues]
  rcases readData_at infoType size (bandwidthValue 4) inside with
    ⟨error, helper, failed, _⟩ | ⟨_, read⟩
  · refine ⟨[parseError] ++ error ++ [], helper, ?_⟩
    simp only [Recv.andThen, failed]
  · rw [if_pos beyond] at read
    refine ⟨[parseError] ++ [.unexpectedInfoSize] ++ [],
      helperAt infoType size stream (position + (bandwidthValue 4).size), ?_⟩
    simp only [Recv.andThen, read]

/-- The size field says 29, and the first tuple of the report already ends behind it. -/
theorem recvInfo_crowded {values : List (BandwidthValue 4)} (length : values.length = crowdedCount) :
    ∃ errors, (recvInfo
      { bytes := (Record.bandwidthV4 6 values).info.asBytes, exhausted := false }).1 =
        .error errors := by
  have total : (Record.bandwidthV4 6 values).payload.length = 4294967325 := by
    rw [Record.payload, Record.length_bandwidthPayload, length]
    rfl
  have declared : UInt32.ofNat (Record.bandwidthV4 6 values).payload.length = 29 := by
    rw [total]
    rfl
  have bytes : ({ bytes := (Record.bandwidthV4 6 values).info.asBytes, exhausted := false } :
      Reader) = framed 5 29 (Record.bandwidthV4 6 values).payload [] := by
    rw [Record.asBytes_eq, declared, framed, List.append_nil]
    rfl
  have payload : (Record.bandwidthV4 6 values).payload ++ [] =
      6 :: (bytesOfU32 (UInt32.ofNat crowdedCount) ++ values.flatMap (bandwidthValue 4).write) := by
    rw [List.append_nil, Record.payload, Record.bandwidthPayload, length]
  rw [bytes, recvInfo_framed, payload]
  generalize values.flatMap (bandwidthValue 4).write = tuples
  generalize streamEq : 6 :: (bytesOfU32 (UInt32.ofNat crowdedCount) ++ tuples) = stream
  have first : stream.drop 0 = Layout.u8.write 6 ++
      (Layout.u32.write (UInt32.ofNat crowdedCount) ++ tuples) := streamEq.symm
  have second := drop_next first
  have inside : 0 + Layout.u8.size + Layout.u32.size ≤ stream.length := by
    rw [← streamEq, List.length_cons, List.length_append, length_bytesOfU32]
    have sizes : 0 + Layout.u8.size + Layout.u32.size = 5 := rfl
    omega
  have readProtocol := readData_ok 5 29 Layout.u8 first (by decide)
  have readCount := readData_ok 5 29 Layout.u32 second (by decide)
  obtain ⟨errors, helper, failed⟩ :=
    @recvBandwidthValues_beyond (.text "failed to parse InfoBandwidthStatsV4") 5 29 stream _
      153391689 inside (by decide)
  have count : (UInt32.ofNat crowdedCount).toNat = 153391689 + 1 := rfl
  refine ⟨[] ++ errors ++ [], ?_⟩
  have body : recvBody 5 (helperAt 5 29 stream 0) = (.error ([] ++ errors ++ []), helper) := by
    simp only [recvBody, recvBandwidth, Recv.andThen, readProtocol]
    rw [Layout.length_write] at readCount
    simp only [readCount, count, failed]
  rw [body]

theorem takeUpdates_of_size {bandwidth : Bandwidth} {table : BandwidthTable}
    (nonempty : (bandwidth.stats table).size ≠ 0) :
    ∃ values, bandwidth.takeUpdates table =
        (some (Bandwidth.report table values), bandwidth.setStats table ∅) ∧
      values.length = (bandwidth.stats table).size := by
  refine ⟨_, if_neg fun empty => nonempty ?_, ?_⟩
  · rw [Std.TreeMap.isEmpty_eq_size_eq_zero] at empty
    exact eq_of_beq empty
  · rw [List.length_map, Std.TreeMap.length_toList]

theorem drain_crowded {before : BandwidthRun} (taken : before.taken = [])
    (reports : before.reports = []) (size : before.bandwidth.statsTcpV4.size = crowdedCount)
    (key : BandwidthKey BandwidthTable.tcpV4.width) (direction : Direction) :
    ((before.step (.take .tcpV4)).step (.encode 0)).taken = [] ∧
      ((before.step (.take .tcpV4)).step (.encode 0)).accounted .tcpV4 key direction = 0 := by
  obtain ⟨values, took, length⟩ := @takeUpdates_of_size before.bandwidth .tcpV4 (by
    intro zero
    exact absurd (size.symm.trans zero) (by decide))
  have final : (before.step (.take .tcpV4)).step (.encode 0) =
      { bandwidth := before.bandwidth.setStats .tcpV4 ∅
        taken := []
        reports := [Bandwidth.report .tcpV4 values] } := by
    rw [BandwidthRun.step, BandwidthRun.step, took, taken, reports]
    rfl
  obtain ⟨errors, failed⟩ := recvInfo_crowded (length.trans size)
  have decoded : ((before.step (.take .tcpV4)).step (.encode 0)).decoded = [.error errors] := by
    rw [final, BandwidthRun.decoded, List.flatMap_singleton, ← failed]
    rfl
  refine ⟨by rw [final], ?_⟩
  rw [BandwidthRun.accounted, decoded, final]
  cases direction <;> rfl

theorem bandwidth_crowded_lost :
    (runBandwidth crowdedOps).taken = [] ∧
      (runBandwidth crowdedOps).accounted .tcpV4 (crowdedKey 0) .inbound = 0 ∧
      (crowdedOps.map (BandwidthOp.bytesFor .tcpV4 (crowdedKey 0) .inbound)).sum = 1 ∧
      ¬ BandwidthConserved crowdedOps := by
  have sum : (crowdedOps.map (BandwidthOp.bytesFor .tcpV4 (crowdedKey 0) .inbound)).sum = 1 := by
    rw [crowdedOps, List.map_append, List.sum_append, crowded_sum (by decide) (by decide)]
    rfl
  have split : runBandwidth crowdedOps =
      ((runBandwidth ((List.range crowdedCount).map crowdedUpdate)).step (.take .tcpV4)).step
        (.encode 0) := by
    rw [crowdedOps, List.append_cons, runBandwidth_append, runBandwidth_append]
  obtain ⟨taken, reports, size, _⟩ := @crowded_stats crowdedCount (by decide)
  have lost := drain_crowded taken reports size (crowdedKey 0) .inbound
  rw [← split] at lost
  refine ⟨lost.1, lost.2, sum, ?_⟩
  intro conserved
  have equal := conserved.conserved .tcpV4 (crowdedKey 0) .inbound
  rw [lost.2, sum] at equal
  exact absurd equal (by decide)

end Crowded

end WindowsKext
