import WindowsKext.InfoCore

/-! The event stream: `Device::read` over the kernel queue of `ioqueue.rs`, with the leftover of
a record that did not fit, and the sessions of `entry.rs` that clear it. -/

namespace WindowsKext

open ByteString

/-- `array_holder.rs`. -/
structure ArrayHolder where
  data : Option Bytes

namespace ArrayHolder

def save (_holder : ArrayHolder) (data : Bytes) : ArrayHolder := ⟨some data⟩
def load (holder : ArrayHolder) : Option Bytes × ArrayHolder := (holder.data, ⟨none⟩)
def clear (_holder : ArrayHolder) : ArrayHolder := ⟨none⟩

end ArrayHolder

/-- A buffered read. `filled` is the buffer up to `fill_index`. -/
structure ReadRequest where
  bufferLen : Nat
  filled : Bytes

namespace ReadRequest

def freeSpace (request : ReadRequest) : Nat := request.bufferLen - request.filled.length

def write (request : ReadRequest) (bytes : Bytes) : Nat × ReadRequest :=
  let bytesToWrite := min bytes.length request.freeSpace
  if bytesToWrite == 0 then (0, request)
  else (bytesToWrite, { request with filled := request.filled ++ bytes.take bytesToWrite })

end ReadRequest

/-- `ioqueue::Status`. -/
inductive QueueStatus where
  | uninitialized
  | timeout
  | userApc
  | abandoned
  | cancelled
  | invalidResult
deriving DecidableEq

structure IOQueue (T : Type) where
  entries : List T
  cancelled : Bool
  initialized : Bool

namespace IOQueue

variable {T : Type}

def new : IOQueue T where
  entries := []
  cancelled := false
  initialized := true

def push (queue : IOQueue T) (entry : T) : Except QueueStatus Unit × IOQueue T :=
  if queue.initialized then (.ok (), { queue with entries := queue.entries ++ [entry] })
  else (.error .uninitialized, queue)

/-- `removal` is the status with which `KeRemoveQueue` returns. Without one it takes the oldest
entry, or times out when there is none. -/
def popInternal (queue : IOQueue T) (removal : Option QueueStatus) :
    Except QueueStatus T × IOQueue T :=
  if queue.initialized then
    match removal, queue.entries with
    | some status, _ => (.error status, queue)
    | none, [] => (.error .timeout, queue)
    | none, entry :: rest => (.ok entry, { queue with entries := rest })
  else (.error .uninitialized, queue)

end IOQueue

/-- Where a read that holds the stream lock stands. The wait is `wait_and_pop_cancellable`, whose
flag checks and dequeue are steps of their own. -/
inductive ReadPoint where
  | load
  | waitCheck
  | waitPop
  | waitRecheck (info : Info)
  | fill

def ReadPoint.dequeued : ReadPoint → List Info
  | .waitRecheck info => [info]
  | _ => []

structure Read where
  request : ReadRequest
  point : ReadPoint

inductive ReadStatus where
  | success
  | endOfFile
  | timeout
  | cancelled
deriving DecidableEq

/-- A completed read hands on the bytes that its `Information` counts. -/
inductive ReadOutcome where
  | continues (read : Read)
  | completes (status : ReadStatus) (information : Bytes)

def writeBuffer (request : ReadRequest) (info : Info) (readStream : ArrayHolder) :
    ReadRequest × ArrayHolder :=
  let bytes := info.asBytes
  let (count, request) := request.write bytes
  (request, if count < bytes.length then readStream.save (bytes.drop count) else readStream)

def waitFailed (request : ReadRequest) : QueueStatus → ReadOutcome
  | .timeout => .completes .timeout []
  | .cancelled => .completes .cancelled []
  | _ => .completes .endOfFile request.filled

namespace Read

def start (bufferLen : Nat) : Read where
  request := { bufferLen := bufferLen, filled := [] }
  point := .load

def step (removal : Option QueueStatus) (queue : IOQueue Info) (readStream : ArrayHolder)
    (read : Read) : ReadOutcome × IOQueue Info × ArrayHolder :=
  match read.point with
  | .load =>
      match readStream.load with
      | (some data, readStream) =>
          let (count, request) := read.request.write data
          (.continues { request := request, point := .fill }, queue,
            if count < data.length then readStream.save (data.drop count) else readStream)
      | (none, readStream) => (.continues { read with point := .waitCheck }, queue, readStream)
  | .waitCheck =>
      if queue.cancelled then (waitFailed read.request .cancelled, queue, readStream)
      else if !queue.initialized then (waitFailed read.request .uninitialized, queue, readStream)
      else (.continues { read with point := .waitPop }, queue, readStream)
  | .waitPop =>
      match queue.popInternal removal with
      | (.ok info, queue) => (.continues { read with point := .waitRecheck info }, queue, readStream)
      | (.error .timeout, queue) => (.continues { read with point := .waitCheck }, queue, readStream)
      | (.error status, queue) => (waitFailed read.request status, queue, readStream)
  | .waitRecheck info =>
      -- The dequeued record is dropped with the wait.
      if queue.cancelled then (waitFailed read.request .cancelled, queue, readStream)
      else
        let (request, readStream) := writeBuffer read.request info readStream
        (.continues { request := request, point := .fill }, queue, readStream)
  | .fill =>
      if 5 < read.request.freeSpace then
        match queue.popInternal removal with
        | (.ok info, queue) =>
            let (request, readStream) := writeBuffer read.request info readStream
            (.continues { request := request, point := .fill }, queue, readStream)
        | (.error _, queue) => (.completes .success read.request.filled, queue, readStream)
      else (.completes .success read.request.filled, queue, readStream)

end Read

/-- The owner of the device. CREATE installs it before it opens read admission. -/
inductive SessionOwner where
  | nobody
  | opening
  | owned
deriving DecidableEq

/-- What has happened: the records that the queue accepted, the bytes that the reads of the
current session returned, and those of each session that was cleaned up. -/
structure StreamHistory where
  pushed : List Info
  returned : Bytes
  ended : List Bytes

structure EventStream where
  eventQueue : IOQueue Info
  readStream : ArrayHolder
  owner : SessionOwner
  readsClosed : Bool
  /-- Admitted reads that wait for the stream lock. -/
  waiting : List Nat
  /-- The read that holds the stream lock. -/
  reading : Option Read
  history : StreamHistory

/-- An atomic step of a producer, of a read or of a session transition. `closeReads` and
`cancelWaiters` may also come from the Shutdown command of another dispatch. -/
inductive StreamStep where
  | push (info : Info)
  | create
  | openReads
  | enterRead (bufferLen : Nat)
  | lockStream (index : Nat)
  | lockFails (index : Nat)
  | advance (removal : Option QueueStatus)
  | closeReads
  | cancelWaiters
  | clearReadLeftover

namespace EventStream

def new : EventStream where
  eventQueue := IOQueue.new
  readStream := ⟨none⟩
  owner := .nobody
  readsClosed := false
  waiting := []
  reading := none
  history := { pushed := [], returned := [], ended := [] }

def advance (stream : EventStream) (removal : Option QueueStatus) : EventStream :=
  match stream.reading with
  | none => stream
  | some read =>
      match read.step removal stream.eventQueue stream.readStream with
      | (.continues read, queue, readStream) =>
          { stream with eventQueue := queue, readStream := readStream, reading := some read }
      | (.completes _ information, queue, readStream) =>
          { stream with
            eventQueue := queue
            readStream := readStream
            reading := none
            history := { stream.history with
              returned := stream.history.returned ++ information } }

def lockStream (stream : EventStream) (index : Nat) : EventStream :=
  match stream.reading, stream.waiting[index]? with
  | none, some bufferLen =>
      { stream with
        waiting := stream.waiting.eraseIdx index
        reading := some (Read.start bufferLen) }
  | _, _ => stream

/-- CLEANUP of the owner, after every admitted read has returned. -/
def clearReadLeftover (stream : EventStream) : EventStream :=
  if stream.owner == .owned && stream.readsClosed && stream.waiting.isEmpty &&
      stream.reading.isNone then
    { stream with
      readStream := stream.readStream.clear
      owner := .nobody
      history := { stream.history with
        returned := []
        ended := stream.history.ended ++ [stream.history.returned] } }
  else stream

def next (stream : EventStream) : StreamStep → EventStream
  | .push info =>
      match stream.eventQueue.push info with
      | (.ok (), queue) =>
          { stream with
            eventQueue := queue
            history := { stream.history with pushed := stream.history.pushed ++ [info] } }
      | (.error _, _) => stream
  | .create =>
      if stream.owner == .nobody then
        { stream with
          owner := .opening
          eventQueue := { stream.eventQueue with cancelled := false } }
      else stream
  | .openReads =>
      if stream.owner == .opening then { stream with owner := .owned, readsClosed := false }
      else stream
  | .enterRead bufferLen =>
      if stream.owner == .owned && !stream.readsClosed then
        { stream with waiting := stream.waiting ++ [bufferLen] }
      else stream
  | .lockStream index => stream.lockStream index
  | .lockFails index => { stream with waiting := stream.waiting.eraseIdx index }
  | .advance removal => stream.advance removal
  | .closeReads => { stream with readsClosed := true }
  | .cancelWaiters => { stream with eventQueue := { stream.eventQueue with cancelled := true } }
  | .clearReadLeftover => stream.clearReadLeftover

def run (steps : List StreamStep) : EventStream := steps.foldl next new

/-- The bytes that the next read starts with. -/
def leftover (stream : EventStream) : Bytes := stream.readStream.data.getD []

def inBuffer (stream : EventStream) : Bytes :=
  match stream.reading with
  | some read => read.request.filled
  | none => []

/-- The record that the read in progress has dequeued and not yet written. -/
def dequeued (stream : EventStream) : List Info :=
  match stream.reading with
  | some read => read.point.dequeued
  | none => []

end EventStream

end WindowsKext
