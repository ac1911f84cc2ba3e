import Mathlib.Algebra.GroupWithZero.Nat
import WindowsKext.Library.Block

/-! The reading side of `kextinterface/kext_file.go`. What the driver answers to each `ReadFile` is a
script of the file. -/

namespace WindowsKext

open ByteString

inductive KextFileError where
  | invalidHandle
  | windows (code : UInt32)
  | blocked
deriving DecidableEq

/-- `readSlice` is a slice of `buffer`, from one position up to another. -/
structure KextFile (readBufferSize : Nat) where
  handleValid : Bool
  buffer : Block readBufferSize
  readSlice : Option (Nat × Nat)
  reads : List (Except KextFileError Bytes)

namespace KextFile

variable {readBufferSize : Nat}

/-- The bytes behind `readSlice`, which are those that the buffer holds now. -/
def sliceBytes (file : KextFile readBufferSize) : Bytes :=
  match file.readSlice with
  | none => []
  | some (start, stop) => file.buffer.load start stop

def advance (file : KextFile readBufferSize) (count : Nat) : KextFile readBufferSize :=
  { file with readSlice := file.readSlice.map fun (start, stop) => (start + count, stop) }

/-- `ReadFile` writes at the front of the buffer. Once the script is used up it does not return. -/
def refillReadBuffer (file : KextFile readBufferSize) :
    Except KextFileError Unit × KextFile readBufferSize :=
  match file.reads with
  | [] => (.error .blocked, file)
  | .error error :: rest => (.error error, { file with reads := rest })
  | .ok chunk :: rest =>
      (.ok (), { file with
        buffer := file.buffer.store 0 chunk
        readSlice := some (0, chunk.length)
        reads := rest })

/-- Reads from the driver if nothing is left of an earlier read. -/
def ensureData (file : KextFile readBufferSize) :
    Except KextFileError Unit × KextFile readBufferSize :=
  if file.sliceBytes.length = 0 then refillReadBuffer file else (.ok (), file)

/-- Bounds the recursion of `read`: each further call starts with a refill. -/
def effort (file : KextFile readBufferSize) : Nat :=
  2 * file.reads.length + if file.sliceBytes.length = 0 then 0 else 1

theorem effort_none (file : KextFile readBufferSize) :
    { file with readSlice := none }.effort = 2 * file.reads.length := rfl

theorem ensureData_effort {file ready : KextFile readBufferSize}
    (ensure : file.ensureData = (.ok (), ready)) :
    { ready with readSlice := none }.effort < file.effort := by
  unfold ensureData at ensure
  split at ensure
  · rename_i empty
    unfold refillReadBuffer at ensure
    split at ensure
    · cases ensure
    · cases ensure
    · rename_i chunk rest waiting
      cases ensure
      rw [effort_none, effort, waiting, List.length_cons]
      dsimp only
      omega
  · rename_i left
    cases ensure
    rw [effort_none, effort, if_neg left]
    omega

/-- The number of bytes or an error, and the buffer of the caller after the call. -/
def read (file : KextFile readBufferSize) (buffer : Bytes) :
    Except KextFileError Nat × Bytes × KextFile readBufferSize :=
  if file.handleValid then
    match _ensure : file.ensureData with
    | (.error error, file) => (.error error, buffer, file)
    | (.ok (), file) =>
        let slice := file.sliceBytes
        if slice.length ≥ buffer.length then
          (.ok buffer.length, slice.take buffer.length, file.advance buffer.length)
        else
          match read { file with readSlice := none } (buffer.drop slice.length) with
          | (.error error, rest, file) => (.error error, slice ++ rest, file)
          | (.ok _, rest, file) => (.ok buffer.length, slice ++ rest, file)
  else (.error .invalidHandle, buffer, file)
termination_by file.effort
decreasing_by exact ensureData_effort _ensure

def readAll (file : KextFile readBufferSize) :
    List Bytes → List (Except KextFileError Nat × Bytes) × KextFile readBufferSize
  | [] => ([], file)
  | buffer :: later =>
      let result := file.read buffer
      let rest := readAll result.2.2 later
      ((result.1, result.2.1) :: rest.1, rest.2)

/-- A file whose next reads return the chunks. `readSlice` lies inside the buffer. -/
structure Reading (file : KextFile readBufferSize) (chunks : List Bytes) : Prop where
  valid : file.handleValid = true
  inside : ∀ start stop, file.readSlice = some (start, stop) → start ≤ stop ∧ stop ≤ readBufferSize
  reads : file.reads = chunks.map .ok
  fit : ∀ chunk ∈ chunks, chunk.length ≤ readBufferSize

variable {file : KextFile readBufferSize} {chunks : List Bytes}

theorem Reading.dropSlice (reading : file.Reading chunks) :
    { file with readSlice := none }.Reading chunks where
  valid := reading.valid
  inside := by
    intro start stop found
    cases found
  reads := reading.reads
  fit := reading.fit

/-- A refill overwrites the buffer, but nothing of it was left to be read. -/
theorem Reading.refill {chunk : Bytes} (reading : file.Reading (chunk :: chunks)) :
    ∃ ready, file.refillReadBuffer = (.ok (), ready) ∧ ready.Reading chunks ∧
      ready.sliceBytes = chunk := by
  have fits := reading.fit chunk List.mem_cons_self
  have waiting := reading.reads
  rw [List.map_cons] at waiting
  refine ⟨{ file with
    buffer := file.buffer.store 0 chunk
    readSlice := some (0, chunk.length)
    reads := chunks.map .ok }, ?_, ⟨reading.valid, ?_, rfl, ?_⟩, ?_⟩
  · rw [refillReadBuffer, waiting]
  · intro start stop found
    cases found
    exact ⟨Nat.zero_le _, fits⟩
  · intro other member
    exact reading.fit other (List.mem_cons_of_mem _ member)
  · have stored := @Block.load_store_self _ file.buffer 0 chunk (by omega)
    rw [Nat.zero_add] at stored
    exact stored

theorem Reading.ensureData (reading : file.Reading chunks)
    (data : file.sliceBytes ++ chunks.flatten ≠ []) :
    ∃ ready consumed pending, file.ensureData = (.ok (), ready) ∧ chunks = consumed ++ pending ∧
      ready.Reading pending ∧ ready.sliceBytes = file.sliceBytes ++ consumed.flatten := by
  unfold KextFile.ensureData
  by_cases empty : file.sliceBytes.length = 0
  · rw [List.eq_nil_of_length_eq_zero empty] at data ⊢
    cases chunks with
    | nil => exact absurd rfl data
    | cons chunk later =>
        obtain ⟨ready, refill, readyReading, slice⟩ := reading.refill
        refine ⟨ready, [chunk], later, ?_, rfl, readyReading, ?_⟩
        · rw [if_pos List.length_nil, refill]
        · rw [slice]
          simp
  · refine ⟨file, [], chunks, ?_, rfl, reading, (List.append_nil _).symm⟩
    rw [if_neg empty]

theorem Reading.advance (reading : file.Reading chunks) {count : Nat}
    (enough : count ≤ file.sliceBytes.length) :
    (file.advance count).Reading chunks ∧
      (file.advance count).sliceBytes = file.sliceBytes.drop count := by
  cases slice : file.readSlice with
  | none =>
      have same : file.advance count = file := by
        rw [KextFile.advance, slice, Option.map_none, ← slice]
      have nothing : file.sliceBytes = [] := by rw [sliceBytes, slice]
      rw [same, nothing, List.drop_nil]
      exact ⟨reading, rfl⟩
  | some positions =>
      obtain ⟨start, stop⟩ := positions
      obtain ⟨ordered, inside⟩ := reading.inside start stop slice
      have bytes : file.sliceBytes = file.buffer.load start stop := by rw [sliceBytes, slice]
      have moved : (file.advance count).readSlice = some (start + count, stop) := by
        rw [KextFile.advance, slice]
        rfl
      rw [bytes, Block.length_load inside] at enough
      refine ⟨⟨reading.valid, ?_, reading.reads, reading.fit⟩, ?_⟩
      · intro first last found
        rw [moved] at found
        cases found
        exact ⟨by omega, inside⟩
      · have split := @Block.load_append _ file.buffer start (start + count) stop (by omega) (by omega)
        have first : (file.buffer.load start (start + count)).length = count := by
          rw [Block.length_load (by omega)]
          omega
        have after : (file.advance count).sliceBytes = file.buffer.load (start + count) stop := by
          rw [sliceBytes, moved]
          rfl
        rw [bytes, ← split, List.drop_left' first, after]

theorem read_ready {ready : KextFile readBufferSize} {buffer : Bytes}
    (valid : file.handleValid = true) (ensure : file.ensureData = (.ok (), ready))
    (enough : buffer.length ≤ ready.sliceBytes.length) :
    file.read buffer =
      (.ok buffer.length, ready.sliceBytes.take buffer.length, ready.advance buffer.length) := by
  rw [read, if_pos valid]
  split
  · rename_i again
    rw [ensure] at again
    cases again
  · rename_i again
    rw [ensure] at again
    cases again
    exact if_pos enough

theorem read_again {ready after : KextFile readBufferSize} {buffer rest : Bytes} {count : Nat}
    (valid : file.handleValid = true) (ensure : file.ensureData = (.ok (), ready))
    (short : ¬ buffer.length ≤ ready.sliceBytes.length)
    (again : { ready with readSlice := none }.read (buffer.drop ready.sliceBytes.length) =
      (.ok count, rest, after)) :
    file.read buffer = (.ok buffer.length, ready.sliceBytes ++ rest, after) := by
  conv => lhs; rw [read]
  rw [if_pos valid]
  split
  · rename_i other
    rw [ensure] at other
    cases other
  · rename_i other
    rw [ensure] at other
    cases other
    dsimp only
    rw [if_neg short, again]

/-- One call: the bytes it returns and what is left in the slice are those that were left before and
those of the chunks that it read. -/
theorem Reading.read (reading : file.Reading chunks) {buffer : Bytes} (asked : buffer ≠ [])
    (enough : buffer.length ≤ (file.sliceBytes ++ chunks.flatten).length) :
    ∃ bytes after consumed pending, file.read buffer = (.ok buffer.length, bytes, after) ∧
      bytes.length = buffer.length ∧ chunks = consumed ++ pending ∧ after.Reading pending ∧
      bytes ++ after.sliceBytes = file.sliceBytes ++ consumed.flatten := by
  generalize bound : file.effort = effort
  induction effort using Nat.strongRecOn generalizing file chunks buffer with
  | ind effort ih =>
      have positive : 0 < buffer.length := List.length_pos_iff.mpr asked
      have data : file.sliceBytes ++ chunks.flatten ≠ [] := by
        apply List.length_pos_iff.mp
        omega
      obtain ⟨ready, first, pending, ensure, split, readyReading, slice⟩ := reading.ensureData data
      by_cases fits : buffer.length ≤ ready.sliceBytes.length
      · obtain ⟨advanced, left⟩ := readyReading.advance fits
        refine ⟨ready.sliceBytes.take buffer.length, ready.advance buffer.length, first, pending,
          read_ready reading.valid ensure fits, ?_, split, advanced, ?_⟩
        · rw [List.length_take]
          omega
        · rw [left, List.take_append_drop, slice]
      · have remaining : (buffer.drop ready.sliceBytes.length).length ≤
            ([] ++ pending.flatten).length := by
          rw [split, List.flatten_append, ← List.append_assoc, ← slice, List.length_append] at enough
          rw [List.length_drop, List.nil_append]
          omega
        have nonempty : buffer.drop ready.sliceBytes.length ≠ [] := by
          apply List.length_pos_iff.mp
          rw [List.length_drop]
          omega
        obtain ⟨bytes, after, second, last, again, length, laterSplit, afterReading, conserved⟩ :=
          ih { ready with readSlice := none }.effort (by rw [← bound]; exact ensureData_effort ensure)
            readyReading.dropSlice nonempty remaining rfl
        refine ⟨ready.sliceBytes ++ bytes, after, first ++ second, last,
          read_again reading.valid ensure fits again, ?_, ?_, afterReading, ?_⟩
        · rw [List.length_append, length, List.length_drop]
          omega
        · rw [split, laterSplit, List.append_assoc]
        · have none : { ready with readSlice := none }.sliceBytes = [] := rfl
          rw [none, List.nil_append] at conserved
          rw [List.append_assoc, conserved, slice, List.flatten_append, List.append_assoc]

theorem Reading.readAll (reading : file.Reading chunks) {requests : List Bytes}
    (asked : ∀ buffer ∈ requests, buffer ≠ [])
    (enough : (requests.map List.length).sum ≤ (file.sliceBytes ++ chunks.flatten).length) :
    (file.readAll requests).1.map Prod.fst = requests.map (fun buffer => .ok buffer.length) ∧
      (file.readAll requests).1.map (fun result => result.2.length) = requests.map List.length ∧
      ∃ consumed pending, chunks = consumed ++ pending ∧
        (file.readAll requests).2.Reading pending ∧
        ((file.readAll requests).1.map Prod.snd).flatten ++ (file.readAll requests).2.sliceBytes =
          file.sliceBytes ++ consumed.flatten := by
  induction requests generalizing file chunks with
  | nil => exact ⟨rfl, rfl, [], chunks, rfl, reading, (List.append_nil _).symm⟩
  | cons buffer later ih =>
      rw [List.map_cons, List.sum_cons] at enough
      obtain ⟨bytes, after, first, pending, once, length, split, afterReading, conserved⟩ :=
        reading.read (asked buffer List.mem_cons_self) (by omega)
      have lengths := congrArg List.length conserved
      rw [split, List.flatten_append, ← List.append_assoc, ← conserved] at enough
      obtain ⟨statuses, sizes, second, last, laterSplit, lastReading, laterConserved⟩ :=
        ih afterReading (fun other member => asked other (List.mem_cons_of_mem _ member)) (by
          simp only [List.length_append] at enough ⊢
          omega)
      rw [KextFile.readAll, once]
      dsimp only
      refine ⟨?_, ?_, first ++ second, last, ?_, lastReading, ?_⟩
      · rw [List.map_cons, List.map_cons, statuses]
      · rw [List.map_cons, List.map_cons, sizes, length]
      · rw [split, laterSplit, List.append_assoc]
      · rw [List.map_cons, List.flatten_cons, List.append_assoc, laterConserved,
          ← List.append_assoc, conserved, List.append_assoc, List.flatten_append]

/-- A file that was just opened on a driver that sends the chunks. The slice is nil. -/
def opened (buffer : Block readBufferSize) (chunks : List Bytes) : KextFile readBufferSize where
  handleValid := true
  buffer := buffer
  readSlice := none
  reads := chunks.map .ok

end KextFile

/-- Every call fills its buffer, and the bytes that were returned with those of `readSlice` are the
chunks that were read so far. -/
theorem kextFile_read_exact {readBufferSize : Nat} (buffer : Block readBufferSize)
    (chunks requests : List Bytes) (fit : ∀ chunk ∈ chunks, chunk.length ≤ readBufferSize)
    (asked : ∀ request ∈ requests, request ≠ [])
    (enough : (requests.map List.length).sum ≤ chunks.flatten.length) :
    let results := (KextFile.opened buffer chunks).readAll requests
    results.1.map Prod.fst = requests.map (fun request => .ok request.length) ∧
      results.1.map (fun result => result.2.length) = requests.map List.length ∧
      ∃ consumed pending, chunks = consumed ++ pending ∧ results.2.reads = pending.map .ok ∧
        (results.1.map Prod.snd).flatten ++ results.2.sliceBytes = consumed.flatten := by
  have reading : (KextFile.opened buffer chunks).Reading chunks := by
    refine ⟨rfl, ?_, rfl, fit⟩
    intro start stop found
    cases found
  obtain ⟨statuses, sizes, consumed, pending, split, last, conserved⟩ :=
    reading.readAll asked enough
  exact ⟨statuses, sizes, consumed, pending, split, last.reads, conserved⟩

/-- The second call takes the rest of the first chunk and then the second one. -/
theorem kextFile_read_exact_acrossChunks :
    ((KextFile.opened (.zeros 4) [[1, 2, 3], [4, 5]]).readAll [[0, 0], [0, 0, 0]]).1.map Prod.fst =
      [.ok 2, .ok 3] :=
  (kextFile_read_exact (.zeros 4) [[1, 2, 3], [4, 5]] [[0, 0], [0, 0, 0]] (by decide) (by decide)
    (by decide)).1

end WindowsKext
