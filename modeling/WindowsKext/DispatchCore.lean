import WindowsKext.InfoCore

/-! The C++ client's record parser, `Dispatch` and `ReaderLoop` of `PortmasterKext.cpp`. A read
through a pointer is checked against the record: one that leaves it has no result. -/

namespace WindowsKext

open ByteString

/-- The bytes of `buffer_` that a pointer may read. -/
structure Window where
  buffer : Bytes
  start : Nat
  length : Nat

namespace Window

def byte (window : Window) (offset : Nat) : Option UInt8 :=
  if offset < window.length then window.buffer[window.start + offset]? else none

def copy (window : Window) (offset count : Nat) : Option Bytes :=
  if offset + count ≤ window.length ∧ window.start + offset + count ≤ window.buffer.length then
    some ((window.buffer.drop (window.start + offset)).take count)
  else none

def readU16 (window : Window) (offset : Nat) : Option UInt16 := do
  let first ← window.byte offset
  let second ← window.byte (offset + 1)
  return first.toUInt16 ||| (second.toUInt16 <<< 8)

def readU32 (window : Window) (offset : Nat) : Option UInt32 := do
  let first ← window.byte offset
  let second ← window.byte (offset + 1)
  let third ← window.byte (offset + 2)
  let fourth ← window.byte (offset + 3)
  return first.toUInt32 ||| (second.toUInt32 <<< 8) ||| (third.toUInt32 <<< 16) |||
    (fourth.toUInt32 <<< 24)

def readU64 (window : Window) (offset : Nat) : Option UInt64 :=
  [7, 6, 5, 4, 3, 2, 1, 0].foldlM
    (fun value index => do
      let byte ← window.byte (offset + index)
      return (value <<< 8) ||| byte.toUInt64) 0

end Window

/-- A 16-byte address field whose first bytes were copied. -/
def paddedAddress (address : Bytes) : Bytes := address ++ List.replicate (16 - address.length) 0

structure ClientConnection where
  ipv6 : Bool
  id : UInt64
  processId : UInt64
  direction : UInt8
  protocol : UInt8
  localIp : Bytes
  remoteIp : Bytes
  localPort : UInt16
  remotePort : UInt16
  payloadLayer : UInt8
  payloadSize : UInt32
  payload : Bytes
deriving DecidableEq

structure ClientConnectionEnd where
  ipv6 : Bool
  processId : UInt64
  direction : UInt8
  protocol : UInt8
  localIp : Bytes
  remoteIp : Bytes
  localPort : UInt16
  remotePort : UInt16
deriving DecidableEq

structure BandwidthEntry where
  ipv6 : Bool
  localIp : Bytes
  localPort : UInt16
  remoteIp : Bytes
  remotePort : UInt16
  transmittedBytes : UInt64
  receivedBytes : UInt64
deriving DecidableEq

structure BandwidthStats where
  protocol : UInt8
  entries : List BandwidthEntry
deriving DecidableEq

/-- A call of a handler, or of `Server::Send`. -/
inductive DispatchCall where
  | onConnection (connection : ClientConnection)
  | onConnectionEnd (connectionEnd : ClientConnectionEnd)
  | onLog (severity : UInt8) (message : Bytes)
  | onBandwidth (stats : BandwidthStats)
  | onWarning (text : String)
  | send (record : Bytes)
deriving DecidableEq

structure Handlers where
  onConnection : Bool
  onConnectionEnd : Bool
  onLog : Bool
  onBandwidth : Bool
  onWarning : Bool

namespace Handlers

variable (handlers : Handlers)

def all : Handlers := ⟨true, true, true, true, true⟩

def warning (text : String) : List DispatchCall :=
  if handlers.onWarning then [.onWarning text] else []

def connection (connection : ClientConnection) : List DispatchCall :=
  if handlers.onConnection then [.onConnection connection] else []

def connectionEnd (connectionEnd : ClientConnectionEnd) : List DispatchCall :=
  if handlers.onConnectionEnd then [.onConnectionEnd connectionEnd] else []

def log (severity : UInt8) (message : Bytes) : List DispatchCall :=
  if handlers.onLog then [.onLog severity message] else []

def bandwidth (stats : BandwidthStats) : List DispatchCall :=
  if handlers.onBandwidth then [.onBandwidth stats] else []

end Handlers

section Records

variable (handlers : Handlers) (p : Window)

def addrLen (v6 : Bool) : Nat := if v6 then 16 else 4

def dispatchLogLine : Option (List DispatchCall) :=
  if p.length < 1 then some (handlers.warning "LogLine record too short")
  else do
    let severity ← p.byte 0
    let message ← p.copy 1 (p.length - 1)
    return handlers.log severity message

/-- The captured bytes that the record holds, and the warning when they are not all. -/
def connectionPayload (payloadSize : UInt32) (o : Nat) : Option (Bytes × List DispatchCall) :=
  if o < p.length then do
    let inRecord := p.length - o
    let take := if payloadSize.toNat < inRecord then payloadSize.toNat else inRecord
    let payload ← p.copy o take
    return (payload,
      if take < payloadSize.toNat then
        handlers.warning ("Connection payload truncated: record holds " ++ toString inRecord ++
          " of " ++ toString payloadSize.toNat ++ " bytes")
      else [])
  else some ([], [])

def dispatchConnection (v6 : Bool) : Option (List DispatchCall) :=
  let fixed := 8 + 8 + 1 + 1 + addrLen v6 * 2 + 2 + 2 + 1 + 4
  if p.length < fixed then some (handlers.warning "Connection record too short")
  else do
    let o := 0
    let id ← p.readU64 o
    let o := o + 8
    let processId ← p.readU64 o
    let o := o + 8
    let direction ← p.byte o
    let o := o + 1
    let protocol ← p.byte o
    let o := o + 1
    let localIp ← p.copy o (addrLen v6)
    let o := o + addrLen v6
    let remoteIp ← p.copy o (addrLen v6)
    let o := o + addrLen v6
    let localPort ← p.readU16 o
    let o := o + 2
    let remotePort ← p.readU16 o
    let o := o + 2
    let payloadLayer ← p.byte o
    let o := o + 1
    let payloadSize ← p.readU32 o
    let o := o + 4
    let (payload, truncated) ← connectionPayload handlers p payloadSize o
    return truncated ++ handlers.connection
      { ipv6 := v6
        id := id
        processId := processId
        direction := direction
        protocol := protocol
        localIp := paddedAddress localIp
        remoteIp := paddedAddress remoteIp
        localPort := localPort
        remotePort := remotePort
        payloadLayer := payloadLayer
        payloadSize := payloadSize
        payload := payload }

def dispatchConnectionEnd (v6 : Bool) : Option (List DispatchCall) :=
  let fixed := 8 + 1 + 1 + addrLen v6 * 2 + 2 + 2
  if p.length < fixed then some (handlers.warning "ConnectionEnd record too short")
  else do
    let o := 0
    let processId ← p.readU64 o
    let o := o + 8
    let direction ← p.byte o
    let o := o + 1
    let protocol ← p.byte o
    let o := o + 1
    let localIp ← p.copy o (addrLen v6)
    let o := o + addrLen v6
    let remoteIp ← p.copy o (addrLen v6)
    let o := o + addrLen v6
    let localPort ← p.readU16 o
    let o := o + 2
    let remotePort ← p.readU16 o
    return handlers.connectionEnd
      { ipv6 := v6
        processId := processId
        direction := direction
        protocol := protocol
        localIp := paddedAddress localIp
        remoteIp := paddedAddress remoteIp
        localPort := localPort
        remotePort := remotePort }

def bandwidthEntrySize (v6 : Bool) : Nat := addrLen v6 * 2 + 2 + 2 + 8 + 8

def readBandwidthEntry (v6 : Bool) (o : Nat) : Option BandwidthEntry := do
  let localIp ← p.copy o (addrLen v6)
  let o := o + addrLen v6
  let localPort ← p.readU16 o
  let o := o + 2
  let remoteIp ← p.copy o (addrLen v6)
  let o := o + addrLen v6
  let remotePort ← p.readU16 o
  let o := o + 2
  let transmittedBytes ← p.readU64 o
  let o := o + 8
  let receivedBytes ← p.readU64 o
  return { ipv6 := v6
           localIp := paddedAddress localIp
           localPort := localPort
           remoteIp := paddedAddress remoteIp
           remotePort := remotePort
           transmittedBytes := transmittedBytes
           receivedBytes := receivedBytes }

def readBandwidthEntries (v6 : Bool) : Nat → Nat → Option (List BandwidthEntry)
  | 0, _ => some []
  | count + 1, o => do
      let entry ← readBandwidthEntry p v6 o
      let entries ← readBandwidthEntries v6 count (o + bandwidthEntrySize v6)
      return entry :: entries

def dispatchBandwidth (v6 : Bool) : Option (List DispatchCall) :=
  if p.length < 5 then some (handlers.warning "Bandwidth record too short")
  else do
    let protocol ← p.byte 0
    let count ← p.readU32 1
    if p.length < 5 + bandwidthEntrySize v6 * count.toNat then
      some (handlers.warning "Bandwidth record truncated: count exceeds payload")
    else do
      let entries ← readBandwidthEntries p v6 count.toNat 5
      return handlers.bandwidth { protocol := protocol, entries := entries }

def dispatchRecord (infoType : UInt8) (size : UInt32) : Option (List DispatchCall) :=
  match infoType with
  | 0 => dispatchLogLine handlers p
  | 1 => dispatchConnection handlers p false
  | 2 => dispatchConnection handlers p true
  | 3 => dispatchConnectionEnd handlers p false
  | 4 => dispatchConnectionEnd handlers p true
  | 5 => dispatchBandwidth handlers p false
  | 6 => dispatchBandwidth handlers p true
  | _ =>
      some (handlers.warning ("unknown InfoType " ++ toString infoType.toNat ++ ", skipping " ++
        toString size.toNat ++ " bytes"))

end Records

def recordHeaderSize : Nat := 5

/-- `kMaxNoteSize`. -/
def maxNoteSize : Nat := 64 * 1024 * 1024

/-- What the forwarding of one record sees: the client flag before it, whether `Send` succeeds,
and the flag after a failure. -/
structure ClientLink where
  connected : Bool
  sendSucceeds : Bool
  stillConnected : Bool

def noClient : ClientLink := ⟨false, false, false⟩

/-- Whether a record is left to the client, with the call that forwards it. -/
def forwardRecord (link : ClientLink) (record : Bytes) : Bool × List DispatchCall :=
  if link.connected then
    let sends := decide (record.length ≤ maxNoteSize)
    (sends && link.sendSucceeds || link.stillConnected, if sends then [.send record] else [])
  else (false, [])

/-- The loop of `Dispatch` from an offset: the calls it makes and where it stops. Every
iteration moves on by a record, so the bytes of the buffer are enough fuel. -/
def dispatchLoop (handlers : Handlers) (client : Nat → ClientLink) (buffer : Bytes) :
    Nat → Nat → Option (List DispatchCall × Nat)
  | 0, offset => some ([], offset)
  | fuel + 1, offset =>
      let available := buffer.length - offset
      let record : Window := { buffer := buffer, start := offset, length := available }
      if available < recordHeaderSize then some ([], offset)
      else do
        let size ← record.readU32 1
        let n := size.toNat
        -- A partial record waits for more data.
        if n > available - recordHeaderSize then some ([], offset)
        else do
          let recordSize := recordHeaderSize + n
          let forwarded := forwardRecord (client offset)
            ((buffer.drop offset).take recordSize)
          let calls ←
            if forwarded.1 then some []
            else do
              let infoType ← record.byte 0
              dispatchRecord handlers
                { buffer := buffer, start := offset + recordHeaderSize, length := n } infoType size
          let (rest, reached) ← dispatchLoop handlers client buffer fuel (offset + recordSize)
          return (forwarded.2 ++ calls ++ rest, reached)

def dispatch (handlers : Handlers) (client : Nat → ClientLink) (buffer : Bytes) :
    Option (List DispatchCall × Nat) :=
  dispatchLoop handlers client buffer buffer.length 0

/-- One read of the device, with the client flags that its dispatch sees. The loop ends with the
stop event, an error or the end of the stream, of which some are reported. -/
inductive DeviceRead where
  | data (bytes : Bytes) (client : Nat → ClientLink)
  | ends (warning : Option String)

/-- `ReaderLoop`: the calls it makes and what is left in `buffer_`. -/
def readerLoop (handlers : Handlers) : List DeviceRead → Bytes → Option (List DispatchCall × Bytes)
  | [], buffer => some ([], buffer)
  | .ends none :: _, buffer => some ([], buffer)
  | .ends (some text) :: _, buffer => some (handlers.warning text, buffer)
  | .data bytes client :: rest, buffer =>
      if bytes.isEmpty then some ([], buffer)
      else do
        let buffer := buffer ++ bytes
        let (calls, consumed) ← dispatch handlers client buffer
        let (more, buffer) ← readerLoop handlers rest (buffer.drop consumed)
        return (calls ++ more, buffer)

end WindowsKext
