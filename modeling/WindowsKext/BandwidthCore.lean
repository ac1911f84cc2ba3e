import Mathlib.Algebra.GroupWithZero.Nat
import WindowsKext.ConnectionCore
import WindowsKext.WireInterop

/-! `bandwidth.rs`: byte counters for each tuple in four separately locked maps, and the reports that
drain them. -/

namespace WindowsKext

open ByteString

structure BandwidthKey (n : Nat) where
  localIp : Vector UInt8 n
  localPort : UInt16
  remoteIp : Vector UInt8 n
  remotePort : UInt16
deriving DecidableEq

/-- The derived order, field by field. -/
def compareBandwidthKeys {n : Nat} (left right : BandwidthKey n) : Ordering :=
  ((compare left.localIp right.localIp).then (compare left.localPort right.localPort)).then
    ((compare left.remoteIp right.remoteIp).then (compare left.remotePort right.remotePort))

instance {n : Nat} : Std.TransCmp (compareBandwidthKeys (n := n)) :=
  inferInstanceAs (Std.TransCmp (compareLex
    (compareLex (compareOn BandwidthKey.localIp) (compareOn BandwidthKey.localPort))
    (compareLex (compareOn BandwidthKey.remoteIp) (compareOn BandwidthKey.remotePort))))

instance {n : Nat} : Std.LawfulEqCmp (compareBandwidthKeys (n := n)) where
  compare_self := Std.ReflCmp.compare_self
  eq_of_compare := by
    intro left right same
    simp only [compareBandwidthKeys, Ordering.then_eq_eq, Std.LawfulEqCmp.compare_eq_iff_eq] at same
    cases left
    cases right
    rw [BandwidthKey.mk.injEq]
    exact ⟨same.1.1, same.1.2, same.2⟩

/-- `Value`. Both fields are a `usize`, whose additions wrap. -/
structure BandwidthCounters where
  receivedBytes : UInt64
  transmittedBytes : UInt64
deriving DecidableEq

def BandwidthCounters.default : BandwidthCounters where
  receivedBytes := 0
  transmittedBytes := 0

abbrev BandwidthStatsMap (n : Nat) :=
  Std.TreeMap (BandwidthKey n) BandwidthCounters compareBandwidthKeys

structure Bandwidth where
  statsTcpV4 : BandwidthStatsMap 4
  statsTcpV6 : BandwidthStatsMap 16
  statsUdpV4 : BandwidthStatsMap 4
  statsUdpV6 : BandwidthStatsMap 16

inductive BandwidthTable where
  | tcpV4
  | tcpV6
  | udpV4
  | udpV6
deriving DecidableEq

def BandwidthTable.width : BandwidthTable → Nat
  | .tcpV4 | .udpV4 => 4
  | .tcpV6 | .udpV6 => 16

namespace Bandwidth

def new : Bandwidth where
  statsTcpV4 := ∅
  statsTcpV6 := ∅
  statsUdpV4 := ∅
  statsUdpV6 := ∅

def stats (bandwidth : Bandwidth) : (table : BandwidthTable) → BandwidthStatsMap table.width
  | .tcpV4 => bandwidth.statsTcpV4
  | .tcpV6 => bandwidth.statsTcpV6
  | .udpV4 => bandwidth.statsUdpV4
  | .udpV6 => bandwidth.statsUdpV6

def setStats (bandwidth : Bandwidth) :
    (table : BandwidthTable) → BandwidthStatsMap table.width → Bandwidth
  | .tcpV4, stats => { bandwidth with statsTcpV4 := stats }
  | .tcpV6, stats => { bandwidth with statsTcpV6 := stats }
  | .udpV4, stats => { bandwidth with statsUdpV4 := stats }
  | .udpV6, stats => { bandwidth with statsUdpV6 := stats }

def updateStats {n : Nat} (stats : BandwidthStatsMap n) (key : BandwidthKey n)
    (direction : Direction) (bytes : UInt64) : BandwidthStatsMap n :=
  let value := stats[key]?.getD .default
  stats.insert key (match direction with
    | .outbound => { value with transmittedBytes := value.transmittedBytes + bytes }
    | .inbound => { value with receivedBytes := value.receivedBytes + bytes })

def update (bandwidth : Bandwidth) (table : BandwidthTable) (key : BandwidthKey table.width)
    (direction : Direction) (bytes : UInt64) : Bandwidth :=
  bandwidth.setStats table (updateStats (bandwidth.stats table) key direction bytes)

def updateTcpV4 (bandwidth : Bandwidth) : BandwidthKey 4 → Direction → UInt64 → Bandwidth :=
  bandwidth.update .tcpV4

def updateTcpV6 (bandwidth : Bandwidth) : BandwidthKey 16 → Direction → UInt64 → Bandwidth :=
  bandwidth.update .tcpV6

def updateUdpV4 (bandwidth : Bandwidth) : BandwidthKey 4 → Direction → UInt64 → Bandwidth :=
  bandwidth.update .udpV4

def updateUdpV6 (bandwidth : Bandwidth) : BandwidthKey 16 → Direction → UInt64 → Bandwidth :=
  bandwidth.update .udpV6

def reportValue {n : Nat} (entry : BandwidthKey n × BandwidthCounters) : BandwidthValue n where
  localIp := entry.1.localIp
  localPort := entry.1.localPort
  remoteIp := entry.1.remoteIp
  remotePort := entry.1.remotePort
  transmittedBytes := entry.2.transmittedBytes
  receivedBytes := entry.2.receivedBytes

/-- The arguments of `bandiwth_stats_array_v4` and `bandiwth_stats_array_v6`. -/
def report : (table : BandwidthTable) → List (BandwidthValue table.width) → Record
  | .tcpV4, values => .bandwidthV4 6 values
  | .tcpV6, values => .bandwidthV6 6 values
  | .udpV4, values => .bandwidthV4 17 values
  | .udpV6, values => .bandwidthV6 17 values

/-- The part of a drain under the lock. The record is encoded after it. -/
def takeUpdates (bandwidth : Bandwidth) (table : BandwidthTable) : Option Record × Bandwidth :=
  if (bandwidth.stats table).isEmpty then (none, bandwidth)
  else
    (some (report table ((bandwidth.stats table).toList.map reportValue)),
      bandwidth.setStats table ∅)

def getAllUpdates (bandwidth : Bandwidth) (table : BandwidthTable) : Option Info × Bandwidth :=
  let (taken, bandwidth) := bandwidth.takeUpdates table
  (taken.map Record.info, bandwidth)

def getAllUpdatesTcpV4 (bandwidth : Bandwidth) : Option Info × Bandwidth :=
  bandwidth.getAllUpdates .tcpV4

def getAllUpdatesTcpV6 (bandwidth : Bandwidth) : Option Info × Bandwidth :=
  bandwidth.getAllUpdates .tcpV6

def getAllUpdatesUdpV4 (bandwidth : Bandwidth) : Option Info × Bandwidth :=
  bandwidth.getAllUpdates .udpV4

def getAllUpdatesUdpV6 (bandwidth : Bandwidth) : Option Info × Bandwidth :=
  bandwidth.getAllUpdates .udpV6

end Bandwidth

/-- What the threads do in turn: a packet callback counts its bytes, a drain takes a map, and a drain
that has taken one encodes it. -/
inductive BandwidthOp where
  | update (table : BandwidthTable) (key : BandwidthKey table.width) (direction : Direction)
      (bytes : UInt64)
  | take (table : BandwidthTable)
  | encode (drain : Nat)

/-- `taken` are the maps that drains hold, and `reports` those that they have returned. -/
structure BandwidthRun where
  bandwidth : Bandwidth
  taken : List Record
  reports : List Record

namespace BandwidthRun

def new : BandwidthRun where
  bandwidth := .new
  taken := []
  reports := []

def step (run : BandwidthRun) : BandwidthOp → BandwidthRun
  | .update table key direction bytes =>
      { run with bandwidth := run.bandwidth.update table key direction bytes }
  | .take table =>
      let (taken, bandwidth) := run.bandwidth.takeUpdates table
      { run with bandwidth := bandwidth, taken := run.taken ++ taken.toList }
  | .encode drain =>
      match run.taken[drain]? with
      | none => run
      | some record =>
          { run with taken := run.taken.eraseIdx drain, reports := run.reports ++ [record] }

def decoded (run : BandwidthRun) : List (Except GoErrors GoInfo) :=
  (recvInfos run.reports.length
    { bytes := run.reports.flatMap fun record => record.info.asBytes, exhausted := false }).1

end BandwidthRun

def runBandwidth (ops : List BandwidthOp) : BandwidthRun :=
  ops.foldl BandwidthRun.step BandwidthRun.new

end WindowsKext
