import WindowsKext.EventStreamCore

/-! What user space reads of the event stream. Every record that was pushed is delivered whole to
one session, queued, or the last record that a session dequeued, of which it read a part or,
when its wait was cancelled, nothing. -/

namespace WindowsKext

open ByteString

/-- The last record that a session dequeued, when the session did not read it to its end. -/
inductive Lost where
  | nothing
  | cut (record : Info) (taken : Nat)
  | dropped (record : Info)

namespace Lost

def records : Lost → List Info
  | .nothing => []
  | .cut record _ => [record]
  | .dropped record => [record]

def bytes : Lost → Bytes
  | .cut record taken => record.asBytes.take taken
  | _ => []

def leftover : Lost → Option Bytes
  | .cut record taken => some (record.asBytes.drop taken)
  | _ => none

def Partial : Lost → Prop
  | .cut record taken => taken < record.asBytes.length
  | _ => True

def isDropped : Lost → Bool
  | .dropped _ => true
  | _ => false

end Lost

/-- What one session read: whole records, and then part of at most one more. -/
structure Account where
  whole : List Info
  lost : Lost

namespace Account

def empty : Account where
  whole := []
  lost := .nothing

def records (account : Account) : List Info := account.whole ++ account.lost.records

def bytes (account : Account) : Bytes := account.whole.flatMap Info.asBytes ++ account.lost.bytes

/-- The leftover completes the records of an account whose last one was not dropped. -/
theorem bytes_append_leftover {account : Account} (kept : account.lost.isDropped = false) :
    account.bytes ++ account.lost.leftover.getD [] = account.records.flatMap Info.asBytes := by
  cases lost : account.lost with
  | nothing => simp [bytes, records, lost, Lost.bytes, Lost.leftover, Lost.records]
  | cut record taken => simp [bytes, records, lost, Lost.bytes, Lost.leftover, Lost.records]
  | dropped record => simp [lost, Lost.isDropped] at kept

def upTo (whole : List Info) (record : Info) (position : Nat) : Account :=
  if position < record.asBytes.length then { whole := whole, lost := .cut record position }
  else { whole := whole ++ [record], lost := .nothing }

section UpTo

variable (whole : List Info) (record : Info) (position : Nat)

theorem upTo_bytes : (upTo whole record position).bytes =
    whole.flatMap Info.asBytes ++ record.asBytes.take position := by
  unfold upTo
  split
  · rfl
  · rw [List.take_of_length_le (by omega)]
    simp [bytes, Lost.bytes]

theorem upTo_records : (upTo whole record position).records = whole ++ [record] := by
  unfold upTo
  split
  · rfl
  · simp [records, Lost.records]

theorem upTo_partial : (upTo whole record position).lost.Partial := by
  unfold upTo
  split
  · assumption
  · trivial

theorem upTo_leftover : (upTo whole record position).lost.leftover =
    if position < record.asBytes.length then some (record.asBytes.drop position) else none := by
  unfold upTo
  split <;> rfl

theorem upTo_isDropped : (upTo whole record position).lost.isDropped = false := by
  unfold upTo
  split <;> rfl

end UpTo

end Account

theorem Lost.eq_nothing {lost : Lost} (nothingLeft : lost.leftover = none)
    (kept : lost.isDropped = false) : lost = .nothing := by
  cases lost with
  | nothing => rfl
  | cut record taken => cases nothingLeft
  | dropped record => cases kept

namespace ReadRequest

theorem write_fst (request : ReadRequest) (bytes : Bytes) :
    (request.write bytes).1 = min bytes.length request.freeSpace := by
  simp only [write]
  split
  · rename_i nothing
    exact (eq_of_beq nothing).symm
  · rfl

theorem write_filled (request : ReadRequest) (bytes : Bytes) :
    (request.write bytes).2.filled = request.filled ++ bytes.take (request.write bytes).1 := by
  simp only [write]
  split
  · simp
  · rfl

theorem write_bufferLen (request : ReadRequest) (bytes : Bytes) :
    (request.write bytes).2.bufferLen = request.bufferLen := by
  simp only [write]
  split <;> rfl

theorem write_full {request : ReadRequest} {bytes : Bytes}
    (rest : (request.write bytes).1 < bytes.length) : (request.write bytes).2.freeSpace = 0 := by
  have count := request.write_fst bytes
  have filled := congrArg List.length (request.write_filled bytes)
  rw [List.length_append, List.length_take] at filled
  unfold freeSpace at count ⊢
  rw [write_bufferLen]
  omega

end ReadRequest

namespace ReadPoint

def Unwritten : ReadPoint → Prop
  | .fill => False
  | _ => True

def BeforePop : ReadPoint → Prop
  | .load => True
  | .waitCheck => True
  | _ => False

end ReadPoint

/-- What holds of a read that stands at a point, with the account of its session. -/
structure Read.Sound (read : Read) (lost : Lost) : Prop where
  unwritten : read.point.Unwritten → read.request.filled = []
  /-- Only the first point of a read finds a leftover. -/
  waits : read.point.Unwritten → read.point = .load ∨ lost.leftover = none
  /-- A leftover has used up the buffer. -/
  full : read.point = .fill → lost.leftover = none ∨ read.request.freeSpace = 0
  stopped : lost.isDropped = true → read.point.BeforePop

namespace EventStream

/-- The accounts of the ended sessions and of the current one explain the history. -/
structure Accounted (stream : EventStream) (ended : List Account) (current : Account) : Prop where
  endedBytes : ended.map Account.bytes = stream.history.ended
  endedPartial : ∀ account ∈ ended, account.lost.Partial
  bytes : current.bytes = stream.history.returned ++ stream.inBuffer
  isPartial : current.lost.Partial
  pushed : stream.history.pushed = ended.flatMap Account.records ++ current.records ++
    stream.dequeued ++ stream.eventQueue.entries
  leftover : stream.readStream.data = current.lost.leftover
  cancelled : current.lost.isDropped = true → stream.eventQueue.cancelled = true
  reading : ∀ read, stream.reading = some read → read.Sound current.lost
  unowned : stream.owner ≠ .owned →
    current = Account.empty ∧ stream.reading = none ∧ stream.waiting = []

section Advance

variable {stream : EventStream} {ended : List Account} {current after : Account} {read next : Read}
  {queue : IOQueue Info} {readStream : ArrayHolder}

theorem Accounted.owned (accounted : stream.Accounted ended current)
    (found : stream.reading = some read) : stream.owner = .owned := by
  refine Decidable.byContradiction fun elsewhere => ?_
  have idle := (accounted.unowned elsewhere).2.1
  rw [found] at idle
  cases idle

theorem Accounted.bytes_of_reading (accounted : stream.Accounted ended current)
    (found : stream.reading = some read) :
    current.bytes = stream.history.returned ++ read.request.filled := by
  rw [accounted.bytes, inBuffer, found]

theorem Accounted.continues (accounted : stream.Accounted ended current)
    (found : stream.reading = some read)
    (bytes : after.bytes = stream.history.returned ++ next.request.filled)
    (isPartial : after.lost.Partial)
    (records : after.records ++ next.point.dequeued ++ queue.entries =
      current.records ++ read.point.dequeued ++ stream.eventQueue.entries)
    (leftover : readStream.data = after.lost.leftover)
    (cancelled : after.lost.isDropped = true → queue.cancelled = true)
    (sound : next.Sound after.lost) :
    Accounted { stream with eventQueue := queue, readStream := readStream, reading := some next }
      ended after where
  endedBytes := accounted.endedBytes
  endedPartial := accounted.endedPartial
  bytes := bytes
  isPartial := isPartial
  pushed := by
    have pushed := accounted.pushed
    simp only [dequeued, found] at pushed ⊢
    rw [pushed]
    simpa [List.append_assoc] using records.symm
  leftover := leftover
  cancelled := cancelled
  reading := by
    intro other same
    cases same
    exact sound
  unowned := fun elsewhere => absurd (accounted.owned found) elsewhere

theorem Accounted.completes (accounted : stream.Accounted ended current)
    (found : stream.reading = some read) {information : Bytes}
    (bytes : after.bytes = stream.history.returned ++ information)
    (isPartial : after.lost.Partial)
    (records : after.records ++ queue.entries =
      current.records ++ read.point.dequeued ++ stream.eventQueue.entries)
    (leftover : readStream.data = after.lost.leftover)
    (cancelled : after.lost.isDropped = true → queue.cancelled = true) :
    Accounted
      { stream with
        eventQueue := queue
        readStream := readStream
        reading := none
        history := { stream.history with returned := stream.history.returned ++ information } }
      ended after where
  endedBytes := accounted.endedBytes
  endedPartial := accounted.endedPartial
  bytes := by
    simpa [inBuffer] using bytes
  isPartial := isPartial
  pushed := by
    have pushed := accounted.pushed
    simp only [dequeued, found] at pushed ⊢
    rw [pushed]
    simpa [List.append_assoc] using records.symm
  leftover := leftover
  cancelled := cancelled
  reading := by
    intro other same
    cases same
  unowned := fun elsewhere => absurd (accounted.owned found) elsewhere

theorem Accounted.records_of_nothing (account : Account) (nothing : account.lost = .nothing) :
    account.records = account.whole ∧ account.bytes = account.whole.flatMap Info.asBytes := by
  simp [Account.records, Account.bytes, nothing, Lost.records, Lost.bytes]

theorem Accounted.writeBuffer (accounted : stream.Accounted ended current)
    (found : stream.reading = some read) {info : Info} (nothing : current.lost = .nothing)
    (filled : stream.history.returned ++ read.request.filled =
      current.whole.flatMap Info.asBytes)
    (entries : info :: queue.entries = read.point.dequeued ++ stream.eventQueue.entries) :
    Accounted
      { stream with
        eventQueue := queue
        readStream := (WindowsKext.writeBuffer read.request info stream.readStream).2
        reading := some
          { request := (WindowsKext.writeBuffer read.request info stream.readStream).1
            point := .fill } }
      ended (Account.upTo current.whole info (read.request.write info.asBytes).1) := by
  have plain := records_of_nothing current nothing
  have empty : stream.readStream.data = none := by
    rw [accounted.leftover, nothing]
    rfl
  refine accounted.continues found ?_ (Account.upTo_partial _ _ _) ?_ ?_ ?_ ⟨?_, ?_, ?_, ?_⟩
  · simp only [WindowsKext.writeBuffer]
    rw [Account.upTo_bytes, ReadRequest.write_filled, ← filled, List.append_assoc]
  · rw [Account.upTo_records, plain.1, List.append_assoc current.whole read.point.dequeued,
      ← entries]
    simp [ReadPoint.dequeued]
  · rw [Account.upTo_leftover]
    simp only [WindowsKext.writeBuffer]
    split
    · rfl
    · exact empty
  · rw [Account.upTo_isDropped]
    intro dropped
    cases dropped
  · exact fun never => never.elim
  · exact fun never => never.elim
  · intro _
    rw [Account.upTo_leftover]
    split
    · rename_i rest
      exact .inr (ReadRequest.write_full rest)
    · exact .inl rfl
  · rw [Account.upTo_isDropped]
    intro dropped
    cases dropped

theorem popInternal_cases (queue : IOQueue Info) (removal : Option QueueStatus) :
    (∃ status, queue.popInternal removal = (.error status, queue)) ∨
      ∃ info rest, queue.entries = info :: rest ∧
        queue.popInternal removal = (.ok info, { queue with entries := rest }) := by
  unfold IOQueue.popInternal
  split
  · cases removal with
    | some status => exact .inl ⟨status, rfl⟩
    | none =>
        cases entries : queue.entries with
        | nil => exact .inl ⟨.timeout, rfl⟩
        | cons info rest => exact .inr ⟨info, rest, rfl, rfl⟩
  · exact .inl ⟨.uninitialized, rfl⟩

theorem Accounted.waits (accounted : stream.Accounted ended current)
    (found : stream.reading = some read) (unwritten : read.point.Unwritten)
    (elsewhere : read.point ≠ .load) (nothingDequeued : read.point.dequeued = []) {point : ReadPoint}
    (target : point = .waitCheck ∨ point = .waitPop ∧ current.lost.isDropped = false) :
    Accounted { stream with reading := some { read with point := point } } ended current := by
  have sound := accounted.reading read found
  have nothingLeft := (sound.waits unwritten).resolve_left elsewhere
  have unwritten' : point.Unwritten := by
    rcases target with rfl | ⟨rfl, -⟩ <;> trivial
  have bytes := accounted.bytes_of_reading found
  refine accounted.continues found bytes accounted.isPartial ?_ accounted.leftover
    accounted.cancelled ⟨fun _ => sound.unwritten unwritten, fun _ => .inr nothingLeft, ?_, ?_⟩
  · rw [nothingDequeued]
    rcases target with rfl | ⟨rfl, -⟩ <;> simp [ReadPoint.dequeued]
  · rcases target with rfl | ⟨rfl, -⟩ <;> exact fun _ => .inl nothingLeft
  · intro dropped
    rcases target with rfl | ⟨rfl, kept⟩
    · trivial
    · rw [kept] at dropped
      cases dropped

theorem Accounted.waitFails (accounted : stream.Accounted ended current)
    (found : stream.reading = some read) (unwritten : read.point.Unwritten)
    (nothingDequeued : read.point.dequeued = []) (status : QueueStatus) :
    ∃ reached, waitFailed read.request status = .completes reached [] ∧
      Accounted
        { stream with
          reading := none
          history := { stream.history with returned := stream.history.returned ++ [] } }
        ended current := by
  have filled := (accounted.reading read found).unwritten unwritten
  have bytes := accounted.bytes_of_reading found
  rw [filled] at bytes
  have kept := accounted.completes found bytes accounted.isPartial (by simp [nothingDequeued])
    accounted.leftover accounted.cancelled
  cases status with
  | timeout => exact ⟨_, rfl, kept⟩
  | cancelled => exact ⟨_, rfl, kept⟩
  | _ => exact ⟨.endOfFile, congrArg (ReadOutcome.completes .endOfFile) filled, kept⟩

theorem Accounted.load (accounted : stream.Accounted ended current) {request : ReadRequest}
    (found : stream.reading = some { request := request, point := .load })
    (removal : Option QueueStatus) :
    ∃ after, (stream.advance removal).Accounted ended after := by
  have sound := accounted.reading _ found
  have filled : request.filled = [] := sound.unwritten trivial
  have bytes := accounted.bytes_of_reading found
  simp only [filled, List.append_nil] at bytes
  cases lost : current.lost with
  | cut record taken =>
      have data : stream.readStream.data = some (record.asBytes.drop taken) := by
        rw [accounted.leftover, lost]
        rfl
      have before : taken < record.asBytes.length := by
        have isPartial := accounted.isPartial
        rw [lost] at isPartial
        exact isPartial
      have whole : current.whole.flatMap Info.asBytes ++ record.asBytes.take taken =
          stream.history.returned := by
        rw [← bytes, Account.bytes, lost]
        rfl
      simp only [advance, found, Read.step, ArrayHolder.load, data]
      refine ⟨Account.upTo current.whole record
        (taken + (request.write (record.asBytes.drop taken)).1), accounted.continues found ?_
        (Account.upTo_partial _ _ _) ?_ ?_ ?_ ⟨?_, ?_, ?_, ?_⟩⟩
      · rw [Account.upTo_bytes, List.take_add, ← List.append_assoc, whole,
          ReadRequest.write_filled, filled, List.nil_append]
      · rw [Account.upTo_records, Account.records, lost]
        rfl
      · rw [Account.upTo_leftover, List.length_drop]
        simp only [Nat.lt_sub_iff_add_lt']
        split
        · simp [ArrayHolder.save]
        · rfl
      · rw [Account.upTo_isDropped]
        intro dropped
        cases dropped
      · exact fun never => never.elim
      · exact fun never => never.elim
      · intro _
        rw [Account.upTo_leftover]
        split
        · rename_i rest
          refine .inr (ReadRequest.write_full ?_)
          rw [List.length_drop]
          omega
        · exact .inl rfl
      · rw [Account.upTo_isDropped]
        intro dropped
        cases dropped
  | _ =>
      have data : stream.readStream.data = none := by
        rw [accounted.leftover, lost]
        rfl
      simp only [advance, found, Read.step, ArrayHolder.load, data]
      refine ⟨current, accounted.continues found ?_ accounted.isPartial rfl ?_ accounted.cancelled
        ⟨fun _ => filled, fun _ => .inr ?_, ?_, fun _ => trivial⟩⟩
      · rw [filled, List.append_nil]
        exact bytes
      · rw [lost]
        rfl
      · rw [lost]
        rfl
      · exact fun never => by cases never

theorem Accounted.waitCheck (accounted : stream.Accounted ended current) {request : ReadRequest}
    (found : stream.reading = some { request := request, point := .waitCheck })
    (removal : Option QueueStatus) : (stream.advance removal).Accounted ended current := by
  by_cases cancelled : stream.eventQueue.cancelled = true
  · simp only [EventStream.advance, found, Read.step, cancelled, ↓reduceIte]
    obtain ⟨reached, failed, kept⟩ := accounted.waitFails found trivial rfl .cancelled
    rw [failed]
    exact kept
  · by_cases initialized : stream.eventQueue.initialized = true
    · simp only [EventStream.advance, found, Read.step, cancelled, initialized]
      refine accounted.waits found trivial (fun same => by cases same) rfl (.inr ⟨rfl, ?_⟩)
      -- A session with a dropped record is cancelled, so its waits end here.
      cases dropped : current.lost.isDropped with
      | false => rfl
      | true => exact absurd (accounted.cancelled dropped) cancelled
    · simp only [EventStream.advance, found, Read.step, cancelled, initialized]
      obtain ⟨reached, failed, kept⟩ := accounted.waitFails found trivial rfl .uninitialized
      simp only [Bool.false_eq_true, ↓reduceIte, Bool.not_false]
      rw [failed]
      exact kept

theorem Accounted.waitPop (accounted : stream.Accounted ended current) {request : ReadRequest}
    (found : stream.reading = some { request := request, point := .waitPop })
    (removal : Option QueueStatus) : (stream.advance removal).Accounted ended current := by
  have sound := accounted.reading _ found
  have nothingLeft := (sound.waits trivial).resolve_left fun same => by cases same
  have filled : request.filled = [] := sound.unwritten trivial
  have bytes := accounted.bytes_of_reading found
  rcases popInternal_cases stream.eventQueue removal with
    ⟨status, failed⟩ | ⟨info, rest, entries, popped⟩
  · cases status with
    | timeout =>
        simp only [EventStream.advance, found, Read.step, failed]
        exact accounted.waits found trivial (fun same => by cases same) rfl (.inl rfl)
    | _ =>
        obtain ⟨reached, returned, kept⟩ := accounted.waitFails found trivial rfl _
        simp only [EventStream.advance, found, Read.step, failed]
        rw [returned]
        exact kept
  · simp only [EventStream.advance, found, Read.step, popped]
    refine accounted.continues found bytes accounted.isPartial ?_ accounted.leftover
      accounted.cancelled
      ⟨fun _ => filled, fun _ => .inr nothingLeft, (fun same => by cases same), ?_⟩
    · rw [entries]
      simp [ReadPoint.dequeued]
    · exact fun dropped => (sound.stopped dropped).elim

theorem Accounted.waitRecheck (accounted : stream.Accounted ended current) {request : ReadRequest}
    {info : Info} (found : stream.reading = some { request := request, point := .waitRecheck info })
    (removal : Option QueueStatus) :
    ∃ after, (stream.advance removal).Accounted ended after := by
  have sound := accounted.reading _ found
  have filled : request.filled = [] := sound.unwritten trivial
  have nothing : current.lost = .nothing := by
    refine Lost.eq_nothing ((sound.waits trivial).resolve_left fun same => by cases same) ?_
    cases dropped : current.lost.isDropped with
    | false => rfl
    | true => exact (sound.stopped dropped).elim
  have plain := Accounted.records_of_nothing current nothing
  have bytes := accounted.bytes_of_reading found
  rw [plain.2] at bytes
  by_cases cancelled : stream.eventQueue.cancelled = true
  · simp only [EventStream.advance, found, Read.step, cancelled, ↓reduceIte, waitFailed]
    refine ⟨{ whole := current.whole, lost := .dropped info }, accounted.completes found ?_ ?_ ?_ ?_
      fun _ => cancelled⟩
    · simp only [filled, List.append_nil] at bytes
      simp [Account.bytes, Lost.bytes, bytes]
    · trivial
    · rw [plain.1]
      rfl
    · rw [accounted.leftover, nothing]
      rfl
  · simp only [EventStream.advance, found, Read.step, cancelled]
    exact ⟨_, accounted.writeBuffer found nothing bytes.symm rfl⟩

theorem Accounted.fill (accounted : stream.Accounted ended current) {request : ReadRequest}
    (found : stream.reading = some { request := request, point := .fill })
    (removal : Option QueueStatus) :
    ∃ after, (stream.advance removal).Accounted ended after := by
  have sound := accounted.reading _ found
  have bytes := accounted.bytes_of_reading found
  have completed : Accounted
      { stream with
        reading := none
        history := { stream.history with
          returned := stream.history.returned ++ request.filled } } ended current :=
    accounted.completes found bytes accounted.isPartial (by simp [ReadPoint.dequeued])
      accounted.leftover accounted.cancelled
  by_cases space : 5 < request.freeSpace
  · rcases popInternal_cases stream.eventQueue removal with
      ⟨status, failed⟩ | ⟨info, rest, entries, popped⟩
    · simp only [EventStream.advance, found, Read.step, space, ↓reduceIte, failed]
      exact ⟨current, completed⟩
    · have nothing : current.lost = .nothing := by
        refine Lost.eq_nothing ((sound.full rfl).resolve_right fun full => ?_) ?_
        · simp only [full] at space
          omega
        · cases dropped : current.lost.isDropped with
          | false => rfl
          | true => exact (sound.stopped dropped).elim
      rw [(Accounted.records_of_nothing current nothing).2] at bytes
      simp only [EventStream.advance, found, Read.step, space, ↓reduceIte, popped]
      exact ⟨_, accounted.writeBuffer found nothing bytes.symm (by rw [entries]; rfl)⟩
  · simp only [EventStream.advance, found, Read.step, space, ↓reduceIte]
    exact ⟨current, completed⟩

theorem Accounted.advance (accounted : stream.Accounted ended current)
    (removal : Option QueueStatus) : ∃ after, (stream.advance removal).Accounted ended after := by
  cases found : stream.reading with
  | none =>
      simp only [EventStream.advance, found]
      exact ⟨current, accounted⟩
  | some read =>
      obtain ⟨request, point⟩ := read
      cases point with
      | load => exact accounted.load found removal
      | waitCheck => exact ⟨current, accounted.waitCheck found removal⟩
      | waitPop => exact ⟨current, accounted.waitPop found removal⟩
      | waitRecheck info => exact accounted.waitRecheck found removal
      | fill => exact accounted.fill found removal

end Advance

section Steps

variable {stream : EventStream} {ended : List Account} {current : Account}

theorem Accounted.push (accounted : stream.Accounted ended current) (info : Info) :
    (stream.next (.push info)).Accounted ended current := by
  by_cases initialized : stream.eventQueue.initialized = true
  · simp only [EventStream.next, IOQueue.push, initialized, ↓reduceIte]
    refine { accounted with pushed := ?_ }
    have pushed := accounted.pushed
    simp only [dequeued] at pushed ⊢
    rw [pushed]
    simp [List.append_assoc]
  · simp only [EventStream.next, IOQueue.push, initialized]
    exact accounted

theorem Accounted.create (accounted : stream.Accounted ended current) :
    (stream.next .create).Accounted ended current := by
  simp only [next]
  split
  · rename_i unowned
    have idle := accounted.unowned fun owned => by simp [owned] at unowned
    refine { accounted with cancelled := ?_, unowned := fun _ => idle }
    rw [idle.1]
    exact fun dropped => by cases dropped
  · exact accounted

theorem Accounted.openReads (accounted : stream.Accounted ended current) :
    (stream.next .openReads).Accounted ended current := by
  simp only [next]
  split
  · exact { accounted with unowned := fun elsewhere => absurd rfl elsewhere }
  · exact accounted

theorem Accounted.enterRead (accounted : stream.Accounted ended current) (bufferLen : Nat) :
    (stream.next (.enterRead bufferLen)).Accounted ended current := by
  simp only [next]
  split
  · rename_i admitted
    refine { accounted with unowned := fun elsewhere => ?_ }
    simp only [Bool.and_eq_true, beq_iff_eq] at admitted
    exact absurd admitted.1 elsewhere
  · exact accounted

theorem Accounted.lockStream (accounted : stream.Accounted ended current) (index : Nat) :
    (stream.next (.lockStream index)).Accounted ended current := by
  simp only [next, EventStream.lockStream]
  split
  · rename_i bufferLen idle admitted
    refine { accounted with bytes := ?_, pushed := ?_, reading := ?_, unowned := ?_ }
    · rw [accounted.bytes, inBuffer, inBuffer, idle]
      rfl
    · have pushed := accounted.pushed
      simp only [dequeued, idle] at pushed ⊢
      exact pushed
    · intro read started
      cases started
      exact ⟨fun _ => rfl, fun _ => .inl rfl, (fun same => by cases same), fun _ => trivial⟩
    · intro elsewhere
      rw [(accounted.unowned elsewhere).2.2] at admitted
      cases admitted
  · exact accounted

theorem Accounted.clearReadLeftover (accounted : stream.Accounted ended current) :
    ∃ sessions after, (stream.next .clearReadLeftover).Accounted sessions after := by
  simp only [next, EventStream.clearReadLeftover]
  split
  · rename_i drained
    simp only [Bool.and_eq_true, beq_iff_eq, List.isEmpty_iff, Option.isNone_iff_eq_none] at drained
    obtain ⟨⟨-, waiting⟩, reading⟩ := drained
    have bytes := accounted.bytes
    simp only [inBuffer, reading, List.append_nil] at bytes
    have pushed := accounted.pushed
    simp only [dequeued, reading, List.append_nil] at pushed
    refine ⟨ended ++ [current], Account.empty, ?_, ?_, ?_, trivial, ?_, rfl, ?_, ?_, ?_⟩
    · simp [accounted.endedBytes, bytes]
    · intro account member
      rcases List.mem_append.mp member with earlier | last
      · exact accounted.endedPartial account earlier
      · rw [List.mem_singleton.mp last]
        exact accounted.isPartial
    · simp [inBuffer, reading, Account.empty, Account.bytes, Lost.bytes]
    · simp [dequeued, reading, pushed, Account.empty, Account.records, Lost.records]
    · exact fun dropped => by cases dropped
    · intro read running
      rw [reading] at running
      cases running
    · exact fun _ => ⟨rfl, reading, waiting⟩
  · exact ⟨ended, current, accounted⟩

theorem Accounted.next (accounted : stream.Accounted ended current) (step : StreamStep) :
    ∃ sessions after, (stream.next step).Accounted sessions after := by
  cases step with
  | push info => exact ⟨_, _, accounted.push info⟩
  | create => exact ⟨_, _, accounted.create⟩
  | openReads => exact ⟨_, _, accounted.openReads⟩
  | enterRead bufferLen => exact ⟨_, _, accounted.enterRead bufferLen⟩
  | lockStream index => exact ⟨_, _, accounted.lockStream index⟩
  | lockFails index =>
      refine ⟨ended, current, { accounted with unowned := fun elsewhere => ?_ }⟩
      have idle := accounted.unowned elsewhere
      refine ⟨idle.1, idle.2.1, ?_⟩
      simp [EventStream.next, idle.2.2]
  | advance removal =>
      obtain ⟨after, kept⟩ := accounted.advance removal
      exact ⟨ended, after, kept⟩
  | closeReads => exact ⟨ended, current, { accounted with }⟩
  | cancelWaiters => exact ⟨ended, current, { accounted with cancelled := fun _ => rfl }⟩
  | clearReadLeftover => exact accounted.clearReadLeftover

theorem accounted_new : EventStream.new.Accounted [] Account.empty where
  endedBytes := rfl
  endedPartial := fun _ member => by cases member
  bytes := rfl
  isPartial := trivial
  pushed := rfl
  leftover := rfl
  cancelled := fun dropped => by cases dropped
  reading := fun _ reading => by cases reading
  unowned := fun _ => ⟨rfl, rfl, rfl⟩

theorem accounted_run (steps : List StreamStep) :
    ∃ ended current, (run steps).Accounted ended current := by
  suffices held : ∀ stream : EventStream, (∃ ended current, stream.Accounted ended current) →
      ∃ ended current, (steps.foldl EventStream.next stream).Accounted ended current from
    held new ⟨[], Account.empty, accounted_new⟩
  induction steps with
  | nil => exact fun stream held => held
  | cons step rest ih =>
      rintro stream ⟨ended, current, accounted⟩
      exact ih (stream.next step) (accounted.next step)

end Steps

end EventStream

def StreamStep.endsSession : StreamStep → Bool
  | .cancelWaiters => true
  | .clearReadLeftover => true
  | _ => false

theorem Read.step_cancelled (removal : Option QueueStatus) (queue : IOQueue Info)
    (readStream : ArrayHolder) (read : Read) :
    (read.step removal queue readStream).2.1.cancelled = queue.cancelled := by
  have popped : (queue.popInternal removal).2.cancelled = queue.cancelled := by
    rcases EventStream.popInternal_cases queue removal with
      ⟨status, failed⟩ | ⟨info, rest, -, popped⟩
    · rw [failed]
    · rw [popped]
  obtain ⟨request, point⟩ := read
  cases point with
  | load => cases data : readStream.data <;> simp [step, ArrayHolder.load, data]
  | waitCheck => simp only [step]; split <;> [rfl; split <;> rfl]
  | waitPop =>
      simp only [step]
      split <;> rename_i outcome <;> rw [outcome] at popped <;> exact popped
  | waitRecheck info => simp only [step]; split <;> rfl
  | fill =>
      simp only [step]
      split
      · split <;> rename_i outcome <;> rw [outcome] at popped <;> exact popped
      · rfl

namespace EventStream

theorem next_uncancelled {stream : EventStream} {step : StreamStep}
    (continues : step.endsSession = false)
    (before : stream.eventQueue.cancelled = false ∧ stream.history.ended = []) :
    (stream.next step).eventQueue.cancelled = false ∧ (stream.next step).history.ended = [] := by
  cases step with
  | push info =>
      by_cases initialized : stream.eventQueue.initialized = true
      · simpa only [next, IOQueue.push, initialized, ↓reduceIte] using before
      · simpa [next, IOQueue.push, initialized] using before
  | create => simp only [next]; split <;> simp_all
  | openReads => simp only [next]; split <;> exact before
  | enterRead bufferLen => simp only [next]; split <;> exact before
  | lockStream index => simp only [next, lockStream]; split <;> exact before
  | lockFails index => exact before
  | advance removal =>
      simp only [next, EventStream.advance]
      split
      · exact before
      · rename_i read _
        have kept := read.step_cancelled removal stream.eventQueue stream.readStream
        split <;> rename_i outcome <;> rw [outcome] at kept <;>
          exact ⟨kept.trans before.1, before.2⟩
  | closeReads => exact before
  | cancelWaiters => cases continues
  | clearReadLeftover => cases continues

theorem run_uncancelled {steps : List StreamStep}
    (continues : ∀ step ∈ steps, step.endsSession = false) :
    (run steps).eventQueue.cancelled = false ∧ (run steps).history.ended = [] := by
  suffices held : ∀ stream : EventStream,
      stream.eventQueue.cancelled = false ∧ stream.history.ended = [] →
        (steps.foldl next stream).eventQueue.cancelled = false ∧
          (steps.foldl next stream).history.ended = [] from held new ⟨rfl, rfl⟩
  induction steps with
  | nil => exact fun stream held => held
  | cons step rest ih =>
      intro stream held
      exact ih (fun later member => continues later (List.mem_cons_of_mem _ member)) _
        (next_uncancelled (continues step List.mem_cons_self) held)

def bytesOf (records : List Info) : Bytes := records.flatMap Info.asBytes

theorem Accounted.session_bytes {stream : EventStream} {ended : List Account} {current : Account}
    (accounted : stream.Accounted ended current) (running : stream.eventQueue.cancelled = false) :
    stream.history.returned ++ stream.inBuffer ++ stream.leftover ++
        bytesOf (stream.dequeued ++ stream.eventQueue.entries) =
      bytesOf (stream.history.pushed.drop (ended.flatMap Account.records).length) := by
  have kept : current.lost.isDropped = false := by
    cases dropped : current.lost.isDropped with
    | false => rfl
    | true => simp [accounted.cancelled dropped] at running
  have unread : stream.history.pushed.drop (ended.flatMap Account.records).length =
      current.records ++ (stream.dequeued ++ stream.eventQueue.entries) := by
    rw [accounted.pushed]
    simp [List.append_assoc]
  have split : bytesOf (current.records ++ (stream.dequeued ++ stream.eventQueue.entries)) =
      current.records.flatMap Info.asBytes ++
        bytesOf (stream.dequeued ++ stream.eventQueue.entries) := List.flatMap_append
  rw [unread, split, ← Account.bytes_append_leftover kept, accounted.bytes, EventStream.leftover,
    accounted.leftover]

end EventStream

/-- A session whose first read has room for four bytes of a record of six. -/
def shortRead : List StreamStep :=
  [.create, .openReads, .push (logLine .error 0), .push (logLine .warning 0), .enterRead 4,
    .lockStream 0, .advance none, .advance none, .advance none, .advance none, .advance none]

end WindowsKext
