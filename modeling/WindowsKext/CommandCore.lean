import WindowsKext.DeviceCore
import WindowsKext.Library.Layout

/-! The commands of `protocol/src/command.rs`, `Device::write` with the arms of `apply_command`,
and the bytes that the Go and C++ clients send. Log lines are left out. -/

namespace WindowsKext

open ByteString LittleEndian FieldLayout

inductive CommandType where
  | shutdown
  | verdict
  | updateV4
  | updateV6
  | clearCache
  | getLogs
  | getBandwidthStats
  | printMemoryStats
  | cleanEndedConnections
deriving DecidableEq

namespace CommandType

def toU8 : CommandType → UInt8
  | .shutdown => 0
  | .verdict => 1
  | .updateV4 => 2
  | .updateV6 => 3
  | .clearCache => 4
  | .getLogs => 5
  | .getBandwidthStats => 6
  | .printMemoryStats => 7
  | .cleanEndedConnections => 8

def fromU8 (value : UInt8) : Option CommandType :=
  match value.toNat with
  | 0 => some .shutdown
  | 1 => some .verdict
  | 2 => some .updateV4
  | 3 => some .updateV6
  | 4 => some .clearCache
  | 5 => some .getLogs
  | 6 => some .getBandwidthStats
  | 7 => some .printMemoryStats
  | 8 => some .cleanEndedConnections
  | _ => none

end CommandType

def verdictPayloadSize : Nat := 8 + 1
def updateV4PayloadSize : Nat := 1 + 4 + 2 + 4 + 2 + 1
def updateV6PayloadSize : Nat := 1 + 16 + 2 + 16 + 2 + 1

def CommandType.payloadSize : CommandType → Nat
  | .shutdown | .clearCache | .getLogs | .getBandwidthStats | .printMemoryStats
  | .cleanEndedConnections => 0
  | .verdict => verdictPayloadSize
  | .updateV4 => updateV4PayloadSize
  | .updateV6 => updateV6PayloadSize

structure VerdictCommand where
  id : UInt64
  verdict : UInt8
deriving DecidableEq

/-- `UpdateV4` and `UpdateV6`. -/
structure Update (n : Nat) where
  protocol : UInt8
  localAddress : Vector UInt8 n
  localPort : UInt16
  remoteAddress : Vector UInt8 n
  remotePort : UInt16
  verdict : UInt8
deriving DecidableEq

inductive CommandParseError where
  | empty
  | unknownType (value : UInt8)
  | truncatedPayload (command : CommandType) (expected actual : Nat)
deriving DecidableEq

/-- Splits the first complete command from a buffer of concatenated commands. -/
def splitFirstCommand (bytes : Bytes) : Except CommandParseError (CommandType × Bytes × Bytes) :=
  match bytes with
  | [] => .error .empty
  | value :: _ =>
      match CommandType.fromU8 value with
      | none => .error (.unknownType value)
      | some command =>
          let expected := command.payloadSize
          let payloadEnd := 1 + expected
          if bytes.length < payloadEnd then
            .error (.truncatedPayload command expected (bytes.length - 1))
          else .ok (command, slice bytes 1 payloadEnd, bytes.drop payloadEnd)

section Decoders

def exactPayload (bytes : Bytes) (expected : Nat) : Option Bytes :=
  if bytes.length = expected then some bytes else none

/-- `bytes.get(offset..offset + count)`. -/
def getRange (bytes : Bytes) (offset count : Nat) : Option Bytes :=
  if offset + count ≤ bytes.length then some ((bytes.drop offset).take count) else none

def readU16Le (bytes : Bytes) (offset : Nat) : Option UInt16 :=
  (getRange bytes offset 2).map u16OfBytes

def readU64Le (bytes : Bytes) (offset : Nat) : Option UInt64 :=
  (getRange bytes offset 8).map u64OfBytes

def readArray (n : Nat) (bytes : Bytes) (offset : Nat) : Option (Vector UInt8 n) :=
  (getRange bytes offset n).map fun bytes => Layout.arrayAt bytes 0 n

def parseVerdict (bytes : Bytes) : Option VerdictCommand := do
  let bytes ← exactPayload bytes verdictPayloadSize
  return { id := ← readU64Le bytes 0, verdict := byteAt bytes 8 }

def parseUpdate (n size localPort remoteAddress remotePort verdict : Nat) (bytes : Bytes) :
    Option (Update n) := do
  let bytes ← exactPayload bytes size
  return { protocol := byteAt bytes 0
           localAddress := ← readArray n bytes 1
           localPort := ← readU16Le bytes localPort
           remoteAddress := ← readArray n bytes remoteAddress
           remotePort := ← readU16Le bytes remotePort
           verdict := byteAt bytes verdict }

def parseUpdateV4 (bytes : Bytes) : Option (Update 4) :=
  parseUpdate 4 updateV4PayloadSize 5 7 11 13 bytes

def parseUpdateV6 (bytes : Bytes) : Option (Update 16) :=
  parseUpdate 16 updateV6PayloadSize 17 19 35 37 bytes

end Decoders

abbrev NtStatus := UInt32

def statusInvalidParameter : NtStatus := 0xC000000D

structure CommandWriteError where
  status : NtStatus
  bytesProcessed : Nat
deriving DecidableEq

/-- What the commands act on: the device, the calls into WFP so far, the number of commands
applied so far, and the rest of the driver (endpoint caches, flow contexts, bandwidth counters,
the barriers). -/
structure CommandState (Rest : Type) where
  device : Device
  effects : List Effect
  applied : Nat
  rest : Rest

/-- What the arms of `apply_command` take from elsewhere: what WFP and the clock supply to each
command, and the operations that reach beyond the device's modelled caches. -/
structure CommandContext (Rest : Type) where
  environment : Nat → Environment
  now : Nat → Nat
  shutdown : CommandState Rest → CommandState Rest
  completeReadyTcpEndpointClosure : TcpEndpointConnection → CommandState Rest → CommandState Rest
  clearTcpEndpointCache : CommandState Rest → CommandState Rest
  clearUdpEndpointCache : CommandState Rest → CommandState Rest
  cleanUdpLifecycleState : CommandState Rest → CommandState Rest
  flushLogs : CommandState Rest → CommandState Rest
  pushBandwidthUpdates : CommandState Rest → CommandState Rest
  expireInactiveUntrackedConnections : CommandState Rest → CommandState Rest
  expireUnestablishedTcpConnections : CommandState Rest → CommandState Rest

namespace ConnectionCache

def updateConnection (cache : ConnectionCache) (now : Nat) (key : Key) (verdict : Verdict) :
    Option RedirectInfo × ConnectionCache :=
  if key.isIpv6 then
    let (updated, map) := cache.connectionsV6.getMut now key (setVerdict verdict)
    (updated.bind Connection.redirectInfo, { cache with connectionsV6 := map })
  else
    let (updated, map) := cache.connectionsV4.getMut now key (setVerdict verdict)
    (updated.bind Connection.redirectInfo, { cache with connectionsV4 := map })

def cleanEndedConnections (cache : ConnectionCache) (now : Nat) : ConnectionCache where
  connectionsV4 := cache.connectionsV4.cleanEndedConnections now
  connectionsV6 := cache.connectionsV6.cleanEndedConnections now

end ConnectionCache

namespace CommandState

variable {Rest : Type} (context : CommandContext Rest)

def resetFilters (state : CommandState Rest) : CommandState Rest :=
  { state with effects := state.effects ++ [.resetFilters] }

/-- The Verdict command once its action is known. A request that is not queued is only logged. -/
def verdictCommand (state : CommandState Rest) (id : UInt64) (action : Verdict) : CommandState Rest :=
  match state.device.packetCache.popId id.toNat with
  | (none, packetCache) =>
      { state with device := { state.device with packetCache := packetCache } }
  | (some pending, packetCache) =>
      let device := { state.device with packetCache := packetCache }
      let (effects, device) := device.applyVerdict (context.environment state.applied)
        (context.now state.applied) pending action
      let (ready, device) := device.finishPendingRequest id.toNat
      ready.foldl (fun state endpoint => context.completeReadyTcpEndpointClosure endpoint state)
        { state with device := device, effects := state.effects ++ effects }

def updateCommand (state : CommandState Rest) (key : Key) (verdict : Verdict) :
    CommandState Rest :=
  let (_, connectionCache) :=
    state.device.connectionCache.updateConnection (context.now state.applied) key verdict
  resetFilters { state with device := { state.device with connectionCache := connectionCache } }

def clearCache (state : CommandState Rest) : CommandState Rest :=
  let state := { state with device := state.device.clearCache }
  resetFilters (context.cleanUdpLifecycleState (context.clearUdpEndpointCache
    (context.clearTcpEndpointCache state)))

/-- The cleanup reads the clock again for the echo table. -/
def cleanEndedConnections (state : CommandState Rest) : CommandState Rest :=
  let now := context.now state.applied
  let connectionCache := state.device.connectionCache.cleanEndedConnections now
  let state := { state with device := { state.device with connectionCache := connectionCache } }
  let state := context.expireInactiveUntrackedConnections state
  let state := context.expireUnestablishedTcpConnections state
  let state := context.cleanUdpLifecycleState state
  { state with
    device := { state.device with
      icmpEchoCache := state.device.icmpEchoCache.cleanExpiredEntries now } }

def countCommand (state : CommandState Rest) : CommandState Rest :=
  { state with applied := state.applied + 1 }

def applyCommand (state : CommandState Rest) (command : CommandType) (payload : Bytes) :
    Except NtStatus Unit × CommandState Rest :=
  match command with
  | .shutdown => (.ok (), (context.shutdown state).countCommand)
  | .verdict =>
      match parseVerdict payload with
      | none => (.error statusInvalidParameter, state)
      | some verdict =>
          -- The action is validated before the pending packet is consumed.
          match Verdict.fromU8 verdict.verdict with
          | none => (.error statusInvalidParameter, state)
          | some action => (.ok (), (state.verdictCommand context verdict.id action).countCommand)
  | .updateV4 =>
      match parseUpdateV4 payload with
      | none => (.error statusInvalidParameter, state)
      | some update =>
          match Verdict.fromU8 update.verdict with
          | none => (.error statusInvalidParameter, state)
          | some verdict =>
              let key : Key :=
                { protocol := IpProtocol.ofNumber update.protocol
                  localAddress := .ipv4 ⟨update.localAddress⟩
                  localPort := update.localPort
                  remoteAddress := .ipv4 ⟨update.remoteAddress⟩
                  remotePort := update.remotePort }
              (.ok (), (state.updateCommand context key verdict).countCommand)
  | .updateV6 =>
      match parseUpdateV6 payload with
      | none => (.error statusInvalidParameter, state)
      | some update =>
          match Verdict.fromU8 update.verdict with
          | none => (.error statusInvalidParameter, state)
          | some verdict =>
              let key : Key :=
                { protocol := IpProtocol.ofNumber update.protocol
                  localAddress := .ipv6 ⟨update.localAddress⟩
                  localPort := update.localPort
                  remoteAddress := .ipv6 ⟨update.remoteAddress⟩
                  remotePort := update.remotePort }
              (.ok (), (state.updateCommand context key verdict).countCommand)
  | .clearCache => (.ok (), (state.clearCache context).countCommand)
  | .getLogs => (.ok (), (context.flushLogs state).countCommand)
  | .getBandwidthStats => (.ok (), (context.pushBandwidthUpdates state).countCommand)
  -- The counts go into the log.
  | .printMemoryStats => (.ok (), (context.expireUnestablishedTcpConnections state).countCommand)
  | .cleanEndedConnections => (.ok (), (state.cleanEndedConnections context).countCommand)

/-- The loop of `Device::write`. Every command takes at least its type byte, so the length of the
buffer is enough fuel. -/
def writeLoop : Nat → Nat → Bytes → CommandState Rest →
    Except CommandWriteError Unit × CommandState Rest
  | 0, _, _, state => (.ok (), state)
  | fuel + 1, offset, remaining, state =>
      if remaining.isEmpty then (.ok (), state)
      else
        match splitFirstCommand remaining with
        | .error _ => (.error ⟨statusInvalidParameter, offset⟩, state)
        | .ok (command, payload, next) =>
            match state.applyCommand context command payload with
            | (.error status, state) => (.error ⟨status, offset⟩, state)
            | (.ok (), state) => writeLoop fuel (offset + (1 + payload.length)) next state

def write (state : CommandState Rest) (buffer : Bytes) :
    Except CommandWriteError Unit × CommandState Rest :=
  if buffer.isEmpty then (.error ⟨statusInvalidParameter, 0⟩, state)
  else writeLoop context buffer.length 0 buffer state

end CommandState

section Clients

/-- `binary.Write` of the Go structures, whose first field is the command byte. -/
def sendVerdictCommand (verdict : VerdictCommand) : Bytes :=
  (Layout.u8.pair (Layout.u64.pair Layout.u8)).write (1, verdict.id, verdict.verdict)

def sendUpdateCommand {n : Nat} (command : UInt8) (update : Update n) : Bytes :=
  (Layout.u8.pair (Layout.u8.pair ((Layout.array n).pair (Layout.u16.pair ((Layout.array n).pair
    (Layout.u16.pair Layout.u8)))))).write
    (command, update.protocol, update.localAddress, update.localPort, update.remoteAddress,
      update.remotePort, update.verdict)

def sendUpdateV4Command (update : Update 4) : Bytes := sendUpdateCommand 2 update
def sendUpdateV6Command (update : Update 16) : Bytes := sendUpdateCommand 3 update

def sendShutdownCommand : Bytes := [0]
def sendClearCacheCommand : Bytes := [4]
def sendGetLogsCommand : Bytes := [5]
def sendGetBandwidthStatsCommand : Bytes := [6]
def sendPrintMemoryStatsCommand : Bytes := [7]
def sendCleanEndedConnectionsCommand : Bytes := [8]

/-- The C++ `SendVerdict`, which shifts the id into its buffer byte by byte. -/
def sendVerdict (id : UInt64) (verdict : UInt8) : Bytes :=
  1 :: (List.range 8).map (fun i => ((id >>> UInt64.ofNat (i * 8)) &&& 0xFF).toUInt8) ++ [verdict]

end Clients

end WindowsKext
