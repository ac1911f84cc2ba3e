import WindowsKext.InfoCore
import WindowsKext.Library.RingBuffer

/-! `logger.rs`: the ring of log lines between two commands that fetch them. Both functions hold the
lock of the ring, so calls come one after another. -/

namespace WindowsKext

open RingBuffer

def sizeOfLogLineBuffer : Nat := 1024

abbrev LogLines := Vector (Option Info) sizeOfLogLineBuffer

structure LogBuffer where
  lines : LogLines
  start : Nat
  len : Nat
  inside : start < sizeOfLogLineBuffer

namespace LogBuffer

def new : LogBuffer where
  lines := Vector.replicate sizeOfLogLineBuffer none
  start := 0
  len := 0
  inside := by decide

theorem position_lt (position : Nat) : position % sizeOfLogLineBuffer < sizeOfLogLineBuffer :=
  Nat.mod_lt _ (by decide)

def addLine (buffer : LogBuffer) (logLine : Info) : LogBuffer :=
  if buffer.len < sizeOfLogLineBuffer then
    { buffer with
      lines := buffer.lines.set ((buffer.start + buffer.len) % sizeOfLogLineBuffer) (some logLine)
        (position_lt _)
      len := buffer.len + 1 }
  else
    { buffer with
      lines := buffer.lines.set buffer.start (some logLine) buffer.inside
      start := (buffer.start + 1) % sizeOfLogLineBuffer
      inside := position_lt _ }

/-- The loop of `flush`, over the offsets from the start of the ring. -/
def takeLines (start : Nat) : List Nat → LogLines → List Info × LogLines
  | [], lines => ([], lines)
  | offset :: rest, lines =>
      let index := (start + offset) % sizeOfLogLineBuffer
      have bound : index < sizeOfLogLineBuffer := position_lt _
      match lines[index] with
      | some line =>
          let (taken, lines) := takeLines start rest (lines.set index none)
          (line :: taken, lines)
      | none => takeLines start rest lines

def flush (buffer : LogBuffer) : List Info × LogBuffer :=
  let (lines, left) := takeLines buffer.start (List.range buffer.len) buffer.lines
  (lines, { lines := left, start := 0, len := 0, inside := by decide })

end LogBuffer

inductive LogOp where
  | addLine (logLine : Info)
  | flush

def LogBuffer.step (buffer : LogBuffer) : LogOp → LogBuffer
  | .addLine logLine => buffer.addLine logLine
  | .flush => buffer.flush.2

def runLog (ops : List LogOp) : LogBuffer := ops.foldl LogBuffer.step .new

def addedAfter (added : List Info) : LogOp → List Info
  | .addLine logLine => added ++ [logLine]
  | .flush => []

def addedLines (ops : List LogOp) : List Info := ops.foldl addedAfter []

def newest (count : Nat) (lines : List Info) : List Info := lines.drop (lines.length - count)

theorem length_newest (count : Nat) (lines : List Info) :
    (newest count lines).length = min lines.length count := by
  rw [newest, List.length_drop]
  omega

theorem newest_nil (count : Nat) : newest count [] = [] := List.drop_nil

theorem newest_append (count : Nat) (lines : List Info) (line : Info) :
    newest count (newest count lines ++ [line]) = newest count (lines ++ [line]) := by
  unfold newest
  rw [← List.drop_append_of_le_length (Nat.sub_le _ _), List.drop_drop, List.length_drop,
    List.length_append, List.length_singleton]
  congr 1
  omega

/-- The ring holds these lines, and `len` counts them. -/
structure LogBuffer.Keeps (buffer : LogBuffer) (lines : List Info) : Prop where
  holds : Holds buffer.lines buffer.start lines
  len : buffer.len = lines.length

namespace LogBuffer.Keeps

variable {buffer : LogBuffer} {lines : List Info}

theorem new : LogBuffer.new.Keeps [] := ⟨.empty (by decide), rfl⟩

theorem addLine (keeps : buffer.Keeps lines) (line : Info) :
    (buffer.addLine line).Keeps (newest sizeOfLogLineBuffer (lines ++ [line])) := by
  obtain ⟨holds, len⟩ := keeps
  have fits := holds.fits
  unfold LogBuffer.addLine
  by_cases room : buffer.len < sizeOfLogLineBuffer
  · have all : newest sizeOfLogLineBuffer (lines ++ [line]) = lines ++ [line] := by
      rw [newest, List.length_append, List.length_singleton, Nat.sub_eq_zero_of_le (by omega)]
      rfl
    rw [if_pos room, all]
    refine ⟨?_, ?_⟩
    · have pushed := holds.push (by omega) line (position_lt _)
      simpa only [len] using pushed
    · rw [List.length_append, List.length_singleton]
      exact congrArg (· + 1) len
  · rw [if_neg room]
    cases lines with
    | nil => exact absurd (len ▸ show 0 < sizeOfLogLineBuffer by decide) room
    | cons oldest rest =>
        rw [List.length_cons] at fits len
        have full : rest.length + 1 = sizeOfLogLineBuffer := by omega
        have dropped : newest sizeOfLogLineBuffer (oldest :: rest ++ [line]) = rest ++ [line] := by
          rw [newest, List.length_append, List.length_cons, full, List.length_singleton,
            Nat.add_sub_cancel_left]
          rfl
        rw [dropped]
        refine ⟨holds.overwrite full buffer.inside line, ?_⟩
        rw [List.length_append, List.length_singleton, len]

/-- From an offset on, the loop takes the lines in the order in which they are held. -/
theorem takeLines {start offset : Nat} {slots : LogLines}
    (holds : Holds slots ((start + offset) % sizeOfLogLineBuffer) lines) :
    (LogBuffer.takeLines start (List.range' offset lines.length) slots).1 = lines ∧
      ∃ last, Holds (LogBuffer.takeLines start (List.range' offset lines.length) slots).2 last [] := by
  induction lines generalizing offset slots with
  | nil => exact ⟨rfl, _, holds⟩
  | cons line rest ih =>
      have next : ((start + offset) % sizeOfLogLineBuffer + 1) % sizeOfLogLineBuffer =
          (start + (offset + 1)) % sizeOfLogLineBuffer := by
        rw [Nat.mod_add_mod, Nat.add_assoc]
      have removed := holds.remove (position_lt _)
      rw [next] at removed
      obtain ⟨taken, last, empty⟩ := ih removed
      rw [List.length_cons, List.range'_succ]
      simp only [LogBuffer.takeLines, holds.first (position_lt _)]
      exact ⟨congrArg (line :: ·) taken, last, empty⟩

theorem flush (keeps : buffer.Keeps lines) :
    buffer.flush.1 = lines ∧ buffer.flush.2.Keeps [] := by
  have holds : Holds buffer.lines ((buffer.start + 0) % sizeOfLogLineBuffer) lines := by
    rw [Nat.add_zero, Nat.mod_eq_of_lt buffer.inside]
    exact keeps.holds
  obtain ⟨taken, last, empty⟩ := takeLines holds
  rw [← keeps.len, ← List.range_eq_range'] at taken empty
  exact ⟨taken, empty.restart (show 0 < sizeOfLogLineBuffer by decide), rfl⟩

theorem step {added : List Info} (keeps : buffer.Keeps (newest sizeOfLogLineBuffer added))
    (op : LogOp) :
    (buffer.step op).Keeps (newest sizeOfLogLineBuffer (addedAfter added op)) := by
  cases op with
  | addLine line =>
      have after := keeps.addLine line
      rw [newest_append] at after
      exact after
  | flush =>
      rw [addedAfter, newest_nil]
      exact keeps.flush.2

theorem run (ops : List LogOp) :
    (runLog ops).Keeps (newest sizeOfLogLineBuffer (addedLines ops)) := by
  have runs : ∀ (buffer : LogBuffer) (added : List Info),
      buffer.Keeps (newest sizeOfLogLineBuffer added) →
        (ops.foldl LogBuffer.step buffer).Keeps
          (newest sizeOfLogLineBuffer (ops.foldl addedAfter added)) := by
    induction ops with
    | nil => exact fun _ _ keeps => keeps
    | cons op rest ih => exact fun _ _ keeps => ih _ _ (keeps.step op)
  have initial : LogBuffer.new.Keeps (newest sizeOfLogLineBuffer []) := by
    rw [newest_nil]
    exact new
  exact runs _ _ initial

end LogBuffer.Keeps

structure LogRingExact (buffer : LogBuffer) (added : List Info) : Prop where
  flushed : buffer.flush.1 = newest sizeOfLogLineBuffer added
  len : buffer.len = min added.length sizeOfLogLineBuffer
  occupied : ∀ index (bound : index < sizeOfLogLineBuffer), buffer.lines[index].isSome = true ↔
    ∃ offset, offset < buffer.len ∧ index = (buffer.start + offset) % sizeOfLogLineBuffer
  stored : ∀ index (bound : index < sizeOfLogLineBuffer) line,
    buffer.lines[index] = some line → line ∈ newest sizeOfLogLineBuffer added

/-- For every sequence of calls, a flush returns the newest lines that were added since the flush before
it, in the order in which they were added. The slots that are in use are consecutive, and the others
are empty. -/
theorem logRing_newest (ops : List LogOp) : LogRingExact (runLog ops) (addedLines ops) := by
  have keeps := LogBuffer.Keeps.run ops
  refine ⟨keeps.flush.1, ?_, ?_, ?_⟩
  · rw [keeps.len, length_newest]
  · intro index bound
    rw [keeps.len]
    exact keeps.holds.isSome_iff bound
  · intro index bound line stored
    exact keeps.holds.mem bound stored

end WindowsKext
