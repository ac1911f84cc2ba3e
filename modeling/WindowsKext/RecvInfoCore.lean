import WindowsKext.InfoCore
import WindowsKext.Library.Layout

/-! The Go client's decoder, `kextinterface/info.go`. `binary.Read` reads the fields of a value
in order, little-endian, through `io.ReadFull`. -/

namespace WindowsKext

open ByteString LittleEndian FieldLayout

/-- An `io.Reader` over the bytes that arrive. `exhausted` says that a read asked for more. -/
structure Reader where
  bytes : Bytes
  exhausted : Bool

inductive GoError where
  | eof
  | unexpectedEof
  | unknownInfoType
  | unexpectedInfoSize
  | unexpectedReadError
  | cannotReadMoreBytes (readSize : Nat) (commandSize : UInt32)
  | text (message : String)
deriving DecidableEq

abbrev GoErrors := List GoError

def Reader.readFull (reader : Reader) (size : Nat) : Except GoError Bytes × Reader :=
  if size ≤ reader.bytes.length then
    (.ok (reader.bytes.take size), { reader with bytes := reader.bytes.drop size })
  else (.error (if reader.bytes.isEmpty then .eof else .unexpectedEof), ⟨[], true⟩)

def Reader.readValue {Value : Type} (reader : Reader) (layout : Layout Value) :
    Except GoError Value × Reader :=
  match reader.readFull layout.size with
  | (.ok bytes, reader) => (.ok (layout.read bytes), reader)
  | (.error error, reader) => (.error error, reader)

structure ReadHelper where
  infoType : UInt8
  commandSize : UInt32
  readSize : Nat
  reader : Reader

abbrev Recv (Value : Type) := ReadHelper → Except GoErrors Value × ReadHelper

namespace Recv

variable {Value Next : Type}

def pure (value : Value) : Recv Value := fun helper => (.ok value, helper)

def fail (errors : GoErrors) : Recv Value := fun helper => (.error errors, helper)

/-- An error is returned joined with the texts of its context. -/
def andThen (first : Recv Value) (before after : GoErrors) (next : Value → Recv Next) : Recv Next :=
  fun helper =>
    match first helper with
    | (.ok value, helper) => next value helper
    | (.error errors, helper) => (.error (before ++ errors ++ after), helper)

end Recv

namespace ReadHelper

variable {Value : Type}

/-- `io.ReadFull` on the helper, whose `Read` counts the bytes. -/
def readFull (size : Nat) : Recv Bytes := fun helper =>
  match helper.reader.readFull size with
  | (.ok bytes, reader) =>
      (.ok bytes, { helper with reader := reader, readSize := helper.readSize + size })
  | (.error error, reader) =>
      (.error [.unexpectedReadError, error],
        { helper with
          reader := reader
          readSize := helper.readSize + helper.reader.bytes.length })

def checkOverRead : Recv Unit := fun helper =>
  if UInt32.ofNat helper.readSize > helper.commandSize then (.error [.unexpectedInfoSize], helper)
  else (.ok (), helper)

def readData (layout : Layout Value) : Recv Value :=
  (readFull layout.size).andThen [] [] fun bytes =>
    checkOverRead.andThen [] [] fun () => .pure (layout.read bytes)

/-- `size = 0` reads the rest of the command. The sum of the bounds test is a `uint32`. -/
def readBytes (size : UInt32) : Recv Bytes := fun helper =>
  let readSize := UInt32.ofNat helper.readSize
  if readSize ≥ helper.commandSize then
    (.error [.cannotReadMoreBytes helper.readSize helper.commandSize, .unexpectedReadError], helper)
  else
    let size := if size == 0 then helper.commandSize - readSize else size
    if helper.commandSize < readSize + size then (.error [.unexpectedInfoSize], helper)
    else readFull size.toNat helper

def readUntilTheEnd (helper : ReadHelper) : ReadHelper := (readBytes 0 helper).2

end ReadHelper

/-- The Go structures, with their fields in the order of declaration. -/
def connectionInternal (n : Nat) : Layout (ConnectionFields n) :=
  (Layout.u64.pair (Layout.u64.pair (Layout.u8.pair (Layout.u8.pair ((Layout.array n).pair
    ((Layout.array n).pair (Layout.u16.pair (Layout.u16.pair Layout.u8)))))))).struct
    (fun (id, processId, direction, protocol, localIp, remoteIp, localPort, remotePort,
        payloadLayer) =>
      { id := id
        processId := processId
        direction := direction
        protocol := protocol
        localIp := localIp
        remoteIp := remoteIp
        localPort := localPort
        remotePort := remotePort
        payloadLayer := payloadLayer })
    (fun fields => (fields.id, fields.processId, fields.direction, fields.protocol, fields.localIp,
      fields.remoteIp, fields.localPort, fields.remotePort, fields.payloadLayer))
    fun _ => rfl

def connectionEnd (n : Nat) : Layout (ConnectionEndFields n) :=
  (Layout.u64.pair (Layout.u8.pair (Layout.u8.pair ((Layout.array n).pair
    ((Layout.array n).pair (Layout.u16.pair Layout.u16)))))).struct
    (fun (processId, direction, protocol, localIp, remoteIp, localPort, remotePort) =>
      { processId := processId
        direction := direction
        protocol := protocol
        localIp := localIp
        remoteIp := remoteIp
        localPort := localPort
        remotePort := remotePort })
    (fun fields => (fields.processId, fields.direction, fields.protocol, fields.localIp,
      fields.remoteIp, fields.localPort, fields.remotePort))
    fun _ => rfl

def bandwidthValue (n : Nat) : Layout (BandwidthValue n) :=
  ((Layout.array n).pair (Layout.u16.pair ((Layout.array n).pair (Layout.u16.pair
    (Layout.u64.pair Layout.u64))))).struct
    (fun (localIp, localPort, remoteIp, remotePort, transmittedBytes, receivedBytes) =>
      { localIp := localIp
        localPort := localPort
        remoteIp := remoteIp
        remotePort := remotePort
        transmittedBytes := transmittedBytes
        receivedBytes := receivedBytes })
    (fun value => (value.localIp, value.localPort, value.remoteIp, value.remotePort,
      value.transmittedBytes, value.receivedBytes))
    fun _ => rfl

/-- The Go `Info`: one of its pointers is set. -/
inductive GoInfo where
  | connectionV4 (fields : ConnectionFields 4) (payload : Bytes)
  | connectionV6 (fields : ConnectionFields 16) (payload : Bytes)
  | connectionEndV4 (fields : ConnectionEndFields 4)
  | connectionEndV6 (fields : ConnectionEndFields 16)
  | logLine (severity : UInt8) (line : Bytes)
  | bandwidthStatsV4 (protocol : UInt8) (values : List (BandwidthValue 4))
  | bandwidthStatsV6 (protocol : UInt8) (values : List (BandwidthValue 16))
deriving DecidableEq

/-- A connection request. The V4 case adds a text to each error. -/
def recvConnection {n : Nat} (parseError : GoError) (fixed payloadSize payload : GoErrors)
    (make : ConnectionFields n → Bytes → GoInfo) : Recv GoInfo :=
  (ReadHelper.readData (connectionInternal n)).andThen [parseError] fixed fun fields =>
    (ReadHelper.readData Layout.u32).andThen [parseError] payloadSize fun size =>
      if size > 0 then
        (ReadHelper.readBytes size).andThen [parseError] payload fun bytes =>
          .pure (make fields bytes)
      else .pure (make fields [])

def recvConnectionEnd {n : Nat} (parseError : GoError)
    (make : ConnectionEndFields n → GoInfo) : Recv GoInfo :=
  (ReadHelper.readData (connectionEnd n)).andThen [parseError] [] fun fields => .pure (make fields)

def recvLogLine (parseError : GoError) : Recv GoInfo :=
  (ReadHelper.readData Layout.u8).andThen [parseError] [] fun severity =>
    (ReadHelper.readBytes 0).andThen [parseError] [] fun line => .pure (.logLine severity line)

def recvBandwidthValues {n : Nat} (parseError : GoError) : Nat → Recv (List (BandwidthValue n))
  | 0 => .pure []
  | count + 1 =>
      (ReadHelper.readData (bandwidthValue n)).andThen [parseError] [] fun value =>
        (recvBandwidthValues parseError count).andThen [] [] fun values => .pure (value :: values)

def recvBandwidth {n : Nat} (parseError : GoError)
    (make : UInt8 → List (BandwidthValue n) → GoInfo) : Recv GoInfo :=
  (ReadHelper.readData Layout.u8).andThen [parseError] [] fun protocol =>
    (ReadHelper.readData Layout.u32).andThen [parseError] [] fun size =>
      (recvBandwidthValues parseError size.toNat).andThen [] [] fun values =>
        .pure (make protocol values)

/-- The switch of `RecvInfo`. -/
def recvBody (infoType : UInt8) : Recv GoInfo :=
  match infoType with
  | 1 =>
      recvConnection (.text "failed to parse InfoConnectionIpv4") [.text "fixed"]
        [.text "payloadsize"] [.text "payload"] .connectionV4
  | 2 =>
      recvConnection (.text "failed to parse InfoConnectionIpv6") [] [] [] .connectionV6
  | 3 => recvConnectionEnd (.text "failed to parse InfoConnectionEndEventV4") .connectionEndV4
  | 4 => recvConnectionEnd (.text "failed to parse InfoConnectionEndEventV6") .connectionEndV6
  | 0 => recvLogLine (.text "failed to parse InfoLogLine")
  | 5 => recvBandwidth (.text "failed to parse InfoBandwidthStatsV4") .bandwidthStatsV4
  | 6 => recvBandwidth (.text "failed to parse InfoBandwidthStatsV6") .bandwidthStatsV6
  | _ => .fail [.unknownInfoType]

/-- `RecvInfo`. Every return after the header runs `ReadUntilTheEnd`. -/
def recvInfo (reader : Reader) : Except GoErrors GoInfo × Reader :=
  match reader.readValue Layout.u8 with
  | (.error error, reader) => (.error [error], reader)
  | (.ok infoType, reader) =>
      match reader.readValue Layout.u32 with
      | (.error error, reader) => (.error [error], reader)
      | (.ok commandSize, reader) =>
          let helper : ReadHelper :=
            { infoType := infoType, commandSize := commandSize, readSize := 0, reader := reader }
          let (result, helper) := recvBody infoType helper
          (result, helper.readUntilTheEnd.reader)

end WindowsKext
