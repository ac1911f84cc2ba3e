import WindowsKext.Library.LittleEndian

/-! The records of `protocol/src/info.rs` and the log lines of `logger.rs`, as the bytes that
the driver builds. -/

namespace WindowsKext

open ByteString LittleEndian

/-- `Vec<u8>`: its bytes and its capacity, with the amortized growth of the standard library. -/
structure ByteVec where
  bytes : Bytes
  capacity : Nat

namespace ByteVec

def withCapacity (capacity : Nat) : ByteVec where
  bytes := []
  capacity := capacity

def reserve (vec : ByteVec) (additional : Nat) : ByteVec :=
  if vec.capacity - vec.bytes.length < additional then
    { vec with
      capacity := max 8 (max (2 * vec.capacity) (vec.bytes.length + additional)) }
  else vec

def extendFromSlice (vec : ByteVec) (slice : Bytes) : ByteVec :=
  let vec := vec.reserve slice.length
  { vec with bytes := vec.bytes ++ slice }

def pushU8 (vec : ByteVec) (value : UInt8) : ByteVec := vec.extendFromSlice [value]
def pushU16 (vec : ByteVec) (value : UInt16) : ByteVec := vec.extendFromSlice (bytesOfU16 value)
def pushU32 (vec : ByteVec) (value : UInt32) : ByteVec := vec.extendFromSlice (bytesOfU32 value)
def pushU64 (vec : ByteVec) (value : UInt64) : ByteVec := vec.extendFromSlice (bytesOfU64 value)

def pushArray {n : Nat} (vec : ByteVec) (value : Vector UInt8 n) : ByteVec :=
  vec.extendFromSlice value.toList

@[simp] theorem reserve_bytes (vec : ByteVec) (additional : Nat) :
    (vec.reserve additional).bytes = vec.bytes := by
  unfold reserve
  split <;> rfl

@[simp] theorem extendFromSlice_bytes (vec : ByteVec) (slice : Bytes) :
    (vec.extendFromSlice slice).bytes = vec.bytes ++ slice := by
  simp [extendFromSlice]

@[simp] theorem pushU8_bytes (vec : ByteVec) (value : UInt8) :
    (vec.pushU8 value).bytes = vec.bytes ++ [value] := extendFromSlice_bytes vec _

@[simp] theorem pushU16_bytes (vec : ByteVec) (value : UInt16) :
    (vec.pushU16 value).bytes = vec.bytes ++ bytesOfU16 value := extendFromSlice_bytes vec _

@[simp] theorem pushU32_bytes (vec : ByteVec) (value : UInt32) :
    (vec.pushU32 value).bytes = vec.bytes ++ bytesOfU32 value := extendFromSlice_bytes vec _

@[simp] theorem pushU64_bytes (vec : ByteVec) (value : UInt64) :
    (vec.pushU64 value).bytes = vec.bytes ++ bytesOfU64 value := extendFromSlice_bytes vec _

@[simp] theorem pushArray_bytes {n : Nat} (vec : ByteVec) (value : Vector UInt8 n) :
    (vec.pushArray value).bytes = vec.bytes ++ value.toList := extendFromSlice_bytes vec _

end ByteVec

inductive InfoType where
  | logLine
  | connectionIpv4
  | connectionIpv6
  | connectionEndEventV4
  | connectionEndEventV6
  | bandwidthStatsV4
  | bandwidthStatsV6
deriving DecidableEq

def InfoType.toU8 : InfoType → UInt8
  | .logLine => 0
  | .connectionIpv4 => 1
  | .connectionIpv6 => 2
  | .connectionEndEventV4 => 3
  | .connectionEndEventV6 => 4
  | .bandwidthStatsV4 => 5
  | .bandwidthStatsV6 => 6

inductive Severity where
  | trace
  | debug
  | info
  | warning
  | error
  | critical
  | disabled
deriving DecidableEq

def Severity.toU8 : Severity → UInt8
  | .trace => 1
  | .debug => 2
  | .info => 3
  | .warning => 4
  | .error => 5
  | .critical => 6
  | .disabled => 7

/-- One record: `[InfoType: u8, data_size_in_bytes: u32, data: ...]`. -/
structure Info where
  vec : ByteVec

namespace Info

def new (infoType : InfoType) (size : Nat) : Info where
  vec := ((ByteVec.withCapacity (size + 5)).pushU8 infoType.toU8).pushU32 (UInt32.ofNat size)

def withCapacity (infoType : InfoType) (capacity : Nat) : Info where
  vec := ((ByteVec.withCapacity (capacity + 5)).pushU8 infoType.toU8).pushU32 0

def asBytes (info : Info) : Bytes := info.vec.bytes

def updateSize (info : Info) : Info :=
  let size := info.vec.bytes.length - 5
  let bytes := info.vec.bytes
  let bytes := bytes.set 1 (UInt8.ofNat size)
  let bytes := bytes.set 2 (UInt8.ofNat (size >>> 8))
  let bytes := bytes.set 3 (UInt8.ofNat (size >>> 16))
  let bytes := bytes.set 4 (UInt8.ofNat (size >>> 24))
  { vec := { info.vec with bytes := bytes } }

def maxCapacity : Nat := 500

/-- `write_str`. A fragment that does not fit into a vector that has already grown is dropped
without an error. -/
def writeStr (info : Info) (fragment : Bytes) : Info :=
  let spaceLeft := info.vec.capacity - info.vec.bytes.length
  if fragment.length > spaceLeft then
    if info.vec.capacity < maxCapacity then
      updateSize { vec := (info.vec.reserve maxCapacity).extendFromSlice fragment }
    else info
  else updateSize { vec := info.vec.extendFromSlice fragment }

/-- `write!` hands the fragments of a formatted text to `write_str`. -/
def writeFmt (info : Info) (fragments : List Bytes) : Info := fragments.foldl writeStr info

end Info

/-- The fixed fields of a connection request. The address length is 4 or 16. -/
structure ConnectionFields (n : Nat) where
  id : UInt64
  processId : UInt64
  direction : UInt8
  protocol : UInt8
  localIp : Vector UInt8 n
  remoteIp : Vector UInt8 n
  localPort : UInt16
  remotePort : UInt16
  payloadLayer : UInt8
deriving DecidableEq

structure ConnectionEndFields (n : Nat) where
  processId : UInt64
  direction : UInt8
  protocol : UInt8
  localIp : Vector UInt8 n
  remoteIp : Vector UInt8 n
  localPort : UInt16
  remotePort : UInt16
deriving DecidableEq

structure BandwidthValue (n : Nat) where
  localIp : Vector UInt8 n
  localPort : UInt16
  remoteIp : Vector UInt8 n
  remotePort : UInt16
  transmittedBytes : UInt64
  receivedBytes : UInt64
deriving DecidableEq

/-- `get_combined_size!` of the request fields and the payload length. -/
def connectionFieldsSize (n : Nat) : Nat := 8 + 8 + 1 + 1 + n + n + 2 + 2 + 1 + 4

def ConnectionFields.push {n : Nat} (fields : ConnectionFields n) (vec : ByteVec) : ByteVec :=
  ((((((((vec.pushU64 fields.id).pushU64 fields.processId).pushU8 fields.direction).pushU8
    fields.protocol).pushArray fields.localIp).pushArray fields.remoteIp).pushU16
    fields.localPort).pushU16 fields.remotePort).pushU8 fields.payloadLayer

def connectionInfoV4 (fields : ConnectionFields 4) (payload : Bytes) : Info :=
  let size := connectionFieldsSize 4 + payload.length
  let info := Info.new .connectionIpv4 size
  { vec := ((fields.push info.vec).pushU32 (UInt32.ofNat payload.length)).extendFromSlice payload }

def connectionInfoV6 (fields : ConnectionFields 16) (payload : Bytes) : Info :=
  let size := connectionFieldsSize 16 + payload.length
  let info := Info.new .connectionIpv6 size
  let vec := (fields.push info.vec).pushU32 (UInt32.ofNat payload.length)
  { vec := if !payload.isEmpty then vec.extendFromSlice payload else vec }

def connectionEndFieldsSize (n : Nat) : Nat := 8 + 1 + 1 + n + n + 2 + 2

def ConnectionEndFields.push {n : Nat} (fields : ConnectionEndFields n) (vec : ByteVec) :
    ByteVec :=
  ((((((vec.pushU64 fields.processId).pushU8 fields.direction).pushU8 fields.protocol).pushArray
    fields.localIp).pushArray fields.remoteIp).pushU16 fields.localPort).pushU16 fields.remotePort

def connectionEndEventInfo {n : Nat} (infoType : InfoType) (fields : ConnectionEndFields n) :
    Info where
  vec := fields.push (Info.new infoType (connectionEndFieldsSize n)).vec

def connectionEndEventV4Info (fields : ConnectionEndFields 4) : Info :=
  connectionEndEventInfo .connectionEndEventV4 fields

def connectionEndEventV6Info (fields : ConnectionEndFields 16) : Info :=
  connectionEndEventInfo .connectionEndEventV6 fields

/-- `SERIALIZED_SIZE`. -/
def bandwidthValueSize (n : Nat) : Nat := 2 * n + 2 * 2 + 2 * 8

def BandwidthValue.push {n : Nat} (vec : ByteVec) (value : BandwidthValue n) : ByteVec :=
  (((((vec.pushArray value.localIp).pushU16 value.localPort).pushArray value.remoteIp).pushU16
    value.remotePort).pushU64 value.transmittedBytes).pushU64 value.receivedBytes

def bandwidthStatsArray {n : Nat} (infoType : InfoType) (protocol : UInt8)
    (values : List (BandwidthValue n)) : Info :=
  let count := values.length
  let size := 1 + 4 + bandwidthValueSize n * count
  let info := Info.new infoType size
  { vec := values.foldl BandwidthValue.push
      ((info.vec.pushU8 protocol).pushU32 (UInt32.ofNat count)) }

def bandwidthStatsArrayV4 (protocol : UInt8) (values : List (BandwidthValue 4)) : Info :=
  bandwidthStatsArray .bandwidthStatsV4 protocol values

def bandwidthStatsArrayV6 (protocol : UInt8) (values : List (BandwidthValue 16)) : Info :=
  bandwidthStatsArray .bandwidthStatsV6 protocol values

def logLine (severity : Severity) (capacity : Nat) : Info where
  vec := (Info.withCapacity .logLine capacity).vec.pushU8 severity.toU8

def maxLogLineSize : Nat := 150

/-- One use of a log macro. `location` is `file!()`, a colon, `line!()` and a blank, in the
pieces in which the formatter hands them over, and `message` the pieces of the message. -/
structure LogCall where
  severity : Severity
  location : List Bytes
  located : location.flatten ≠ []
  message : List Bytes

/-- `log_internal!` up to `add_line`. -/
def LogCall.info (call : LogCall) : Info :=
  ((logLine call.severity maxLogLineSize).writeFmt call.location).writeFmt call.message

inductive Record where
  | connectionV4 (fields : ConnectionFields 4) (payload : Bytes)
  | connectionV6 (fields : ConnectionFields 16) (payload : Bytes)
  | connectionEndV4 (fields : ConnectionEndFields 4)
  | connectionEndV6 (fields : ConnectionEndFields 16)
  | bandwidthV4 (protocol : UInt8) (values : List (BandwidthValue 4))
  | bandwidthV6 (protocol : UInt8) (values : List (BandwidthValue 16))
  | logLine (call : LogCall)

def Record.info : Record → Info
  | .connectionV4 fields payload => connectionInfoV4 fields payload
  | .connectionV6 fields payload => connectionInfoV6 fields payload
  | .connectionEndV4 fields => connectionEndEventV4Info fields
  | .connectionEndV6 fields => connectionEndEventV6Info fields
  | .bandwidthV4 protocol values => bandwidthStatsArrayV4 protocol values
  | .bandwidthV6 protocol values => bandwidthStatsArrayV6 protocol values
  | .logLine call => call.info

end WindowsKext
