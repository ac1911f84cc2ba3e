import WindowsKext.Library.ExitLoop
import WindowsKext.AlePolicyCore
import WindowsKext.DeviceCore
import WindowsKext.PacketMetadataCore

/-! The classify output of `callout_data.rs` and the packet layers of `packet_callouts.rs`. One
call processes a chain of NBLs and writes one output for all of them. -/

namespace WindowsKext

open ByteString ExitLoop

inductive FwpAction where
  | none
  | continueAction
  | permit
  | block
deriving DecidableEq

/-- The output of a callout. `actionWrite` is the right of later filters to change the action. -/
structure ClassifyOut where
  actionType : FwpAction
  actionWrite : Bool
  absorb : Bool
deriving DecidableEq

namespace ClassifyOut

def actionBlock (out : ClassifyOut) : ClassifyOut := { out with actionType := .block }

def actionPermit (out : ClassifyOut) : ClassifyOut := { out with actionType := .permit }

def setAbsorb (out : ClassifyOut) : ClassifyOut := { out with absorb := true }

def clearAbsorbFlag (out : ClassifyOut) : ClassifyOut := { out with absorb := false }

def clearWriteFlag (out : ClassifyOut) : ClassifyOut := { out with actionWrite := false }

end ClassifyOut

/-- The output, and the values of one indication that the packet layers read. -/
structure CalloutData where
  classifyOut : ClassifyOut
  provisionalBlock : Bool
  ipHeaderSize : Option Nat
  compartmentId : Option Nat
  interfaceIndex : Nat
  subInterfaceIndex : Nat
  flags : Nat

def fwpConditionFlagIsReassembled : Nat := 0x400

namespace CalloutData

def actionPermit (data : CalloutData) : CalloutData :=
  { data with
    provisionalBlock := false
    classifyOut := data.classifyOut.actionPermit.clearAbsorbFlag }

def actionBlockHard (data : CalloutData) : CalloutData :=
  { data with
    provisionalBlock := false
    classifyOut := data.classifyOut.actionBlock.clearAbsorbFlag.clearWriteFlag }

/-- A fail-closed action that a later one may still replace. -/
def setDefaultBlockAndAbsorb (data : CalloutData) : CalloutData :=
  { data with
    provisionalBlock := true
    classifyOut := data.classifyOut.actionBlock.setAbsorb }

def blockAndAbsorb (data : CalloutData) : CalloutData :=
  { data with
    provisionalBlock := false
    classifyOut := data.classifyOut.actionBlock.setAbsorb.clearWriteFlag }

def isReassembled (data : CalloutData) : Bool :=
  data.flags &&& fwpConditionFlagIsReassembled != 0

/-- `Drop for CalloutData`: a provisional block becomes a hard one. -/
def drop (data : CalloutData) : CalloutData :=
  if data.provisionalBlock then { data with classifyOut := data.classifyOut.clearWriteFlag }
  else data

end CalloutData

/-- One packet of an NBL at its current data offset. `copied` is the result of copying it into an
NBL of its own. -/
structure NetBuffer where
  data : Bytes
  copied : Except String Unit

/-- An NBL at one data offset: the reader over its first packet, and all its packets. -/
structure NblView (S : Type) where
  reader : S
  netBuffers : List NetBuffer

/-- One NBL of an indicated chain. Retreating is an NDIS call that may fail, and may be tried
twice. `now` and `instanceId` are the clock value and the fresh instance id of its iteration. -/
structure IndicatedNbl (S : Type) where
  current : NblView S
  retreat : Nat → Except String (NblView S)
  retryRetreat : Nat → Except String (NblView S)
  now : Nat
  instanceId : Nat

inductive NetBufferListClones where
  | single (clone : NetBufferList)
  | batch (clones : List NetBufferList)

def NetBuffer.clone (netBuffer : NetBuffer) : Except String NetBufferList :=
  if netBuffer.data.isEmpty then .error "can't clone empty packet"
  else netBuffer.copied.map fun _ => { data := some netBuffer.data }

def clonePackets : List NetBuffer → Except String NetBufferListClones
  | [] => .error "net buffer list has no packets"
  | [netBuffer] => netBuffer.clone.map .single
  | netBuffers => (netBuffers.mapM NetBuffer.clone).map .batch

inductive CloneChecksum where
  | recalculate
  | redirectWillRecalculate

def recalculateCloneChecksum (smoltcp : Smoltcp) (ipv6 : Bool) (clone : NetBufferList) :
    Except String NetBufferList :=
  match clone.data with
  | none => .error "failed to access cloned packet data"
  | some data =>
      match recalcHeaderChecksums smoltcp data ipv6 with
      | (.error error, _) => .error error
      | (.ok (), data) => .ok { data := some data }

def clonePacket (smoltcp : Smoltcp) (netBuffers : List NetBuffer) (injectInfo : InjectInfo)
    (checksum : CloneChecksum) : Except String Packet :=
  match clonePackets netBuffers with
  | .error error => .error error
  | .ok (.single clone) =>
      match checksum with
      | .recalculate =>
          (recalculateCloneChecksum smoltcp injectInfo.ipv6 clone).map fun clone =>
            .network clone injectInfo
      | .redirectWillRecalculate => .ok (.network clone injectInfo)
  | .ok (.batch clones) =>
      match checksum with
      | .recalculate =>
          (clones.mapM (recalculateCloneChecksum smoltcp injectInfo.ipv6)).map fun clones =>
            .networkBatch clones injectInfo
      | .redirectWillRecalculate => .ok (.networkBatch clones injectInfo)

structure ConnectionInfo where
  verdict : Verdict
  processId : Nat
  direction : Direction
  instanceId : Nat
  redirectInfo : Option RedirectInfo

def ConnectionInfo.fromConnection {A : Type} [AddressFamily A] (connection : Connection A) :
    ConnectionInfo where
  verdict := connection.verdict
  processId := connection.processId
  direction := connection.extra.direction
  instanceId := connection.instanceId
  redirectInfo := if connection.verdict.isRedirect then connection.redirectInfo else none

/-- The cached state of the connection that a packet belongs to. A packet of another injector must
not find the retained history of the application whose tuple it copied. -/
def getConnectionInfo (ignoreSpecialPorts : Bool) (cache : ConnectionCache) (now : Nat) (key : Key)
    (ipv6 : Bool) (packetDirection : Direction) (useEndedFallback : Bool) :
    Option ConnectionInfo × ConnectionCache :=
  if ipv6 then
    let (info, map) :=
      if useEndedFallback then
        cache.connectionsV6.readForPacket ignoreSpecialPorts now key packetDirection
          fun connection => some (ConnectionInfo.fromConnection connection)
      else
        cache.connectionsV6.read ignoreSpecialPorts now key
          fun connection => some (ConnectionInfo.fromConnection connection)
    (info, { cache with connectionsV6 := map })
  else
    let (info, map) :=
      if useEndedFallback then
        cache.connectionsV4.readForPacket ignoreSpecialPorts now key packetDirection
          fun connection => some (ConnectionInfo.fromConnection connection)
      else
        cache.connectionsV4.read ignoreSpecialPorts now key
          fun connection => some (ConnectionInfo.fromConnection connection)
    (info, { cache with connectionsV4 := map })

section QuotedIdentity

variable {A : Type} [AddressFamily A] [DecidableEq A]

/-- Process and thread of a quoted connection, also after its endpoint closed. -/
def readQuotedIdentity (ignoreSpecialPorts : Bool) (map : ConnectionMap A) (now : Nat) (key : Key) :
    Option (Nat × Nat) × ConnectionMap A :=
  let identity (connection : Connection A) : Option (Nat × Nat) :=
    some (connection.processId, connection.threadId)
  match map.read ignoreSpecialPorts now key identity with
  | (some found, map) => (some found, map)
  | (none, map) => (map.readEndedExact key identity, map)

end QuotedIdentity

def maxIpHeaderRetreat : Nat := 128

/-- A header size below the base header or above the limit is treated as missing. -/
def ipHeaderRetreat (ipv6 : Bool) (wfpIpHeaderSize : Option Nat) : Nat :=
  let base := if ipv6 then ipv6BaseLen else ipv4BaseLen
  match wfpIpHeaderSize with
  | some size => if base ≤ size ∧ size ≤ maxIpHeaderRetreat then size else base
  | none => base

structure PacketRoutingInfo where
  compartmentId : Option Nat
  interfaceIndex : Nat
  subInterfaceIndex : Nat

structure PacketLayer where
  environment : Environment
  ipv6 : Bool
  direction : Direction
  injectedByOther : Bool
  wfpIpHeaderSize : Option Nat
  reassembled : Bool

structure PacketLayerState where
  data : CalloutData
  device : Device
  routingInfo : Option PacketRoutingInfo
  otherInjectorProcessId : Option Nat
  first : Bool
  effects : List Effect

structure PacketAttribution where
  key : Key
  processId : Nat
  threadId : Nat
  connectionInstanceId : Option Nat
  effectiveDirection : Direction
  isLocalError : Bool

namespace PacketLayerState

variable (state : PacketLayerState)

def permitAndReturn : Exit × PacketLayerState :=
  (.leave, { state with data := state.data.actionPermit })

def withConnectionCache (connectionCache : ConnectionCache) : PacketLayerState :=
  { state with device := { state.device with connectionCache := connectionCache } }

/-- Routing values are taken from the indication once, for all clones of the call. -/
def packetInjectInfo (direction : Direction) (ipv6 loopback : Bool) :
    InjectInfo × PacketLayerState :=
  let routingInfo := state.routingInfo.getD
    { compartmentId := state.data.compartmentId
      interfaceIndex := state.data.interfaceIndex
      subInterfaceIndex := state.data.subInterfaceIndex }
  ({ ipv6 := ipv6
     inbound := direction == .inbound
     loopback := loopback
     compartmentId := routingInfo.compartmentId
     interfaceIndex := routingInfo.interfaceIndex
     subInterfaceIndex := routingInfo.subInterfaceIndex },
    { state with routingInfo := some routingInfo })

end PacketLayerState

namespace PacketLayer

variable {S : Type} [PacketData S] (layer : PacketLayer)

/-- The view from the IP header on. Inbound packets start past it. -/
def viewFromIpHeader (permitFragments : Bool) (nbl : IndicatedNbl S) :
    Except String (NblView S) :=
  if layer.direction == .inbound then
    let size := ipHeaderRetreat layer.ipv6 layer.wfpIpHeaderSize
    match nbl.retreat size with
    | .ok view => .ok view
    | .error error => if !permitFragments then .error error else nbl.retryRetreat size
  else .ok nbl.current

/-- The key of a packet, after one retry of the first probe. `none` stands for a fragment that
is permitted as it is. -/
def readKey (permitFragments : Bool) (inspector : PacketInspector S) :
    Option (Except PacketMetadataError Key × PacketInspector S) :=
  match inspector.key with
  | (.ok key, inspector) => some (.ok key, inspector)
  | (.error error, inspector) =>
      if permitFragments then
        if error == .fragmentRequiresReassembly then none else some inspector.retryKey
      else some (.error error, inspector)

def attributeOutbound (device : Device) (now : Nat) (key : Key) (echo : Option IcmpEcho) :
    PacketAttribution × Device :=
  let kernel : PacketAttribution :=
    { key := key
      processId := 0
      threadId := 0
      connectionInstanceId := none
      effectiveDirection := .outbound
      isLocalError := false }
  match echo with
  | none => (kernel, device)
  | some echo =>
      if !echo.isRequest then
        -- A loopback reply is indicated as outbound. Only its own request may be consumed.
        match echo.loopbackReplyKey key with
        | none => (kernel, device)
        | some replyKey =>
            match device.icmpEchoCache.takeRequestIdentity now replyKey.remoteAddress
                echo.identifier echo.sequence with
            | (none, icmpEchoCache) => (kernel, { device with icmpEchoCache := icmpEchoCache })
            | (some (processId, threadId), icmpEchoCache) =>
                ({ kernel with
                    key := replyKey
                    processId := processId
                    threadId := threadId
                    effectiveDirection := .inbound },
                  { device with icmpEchoCache := icmpEchoCache })
      else
        let processId := layer.environment.currentProcessId
        let threadId := layer.environment.currentThreadId
        ({ kernel with
            processId := processId
            threadId := threadId },
          { device with
            icmpEchoCache := device.icmpEchoCache.insertRequest now key.remoteAddress
              echo.identifier echo.sequence processId threadId })

def attributeEcho (device : Device) (now : Nat) (remoteAddress : IpAddress)
    (identifier sequence : UInt16) : (Nat × Nat) × Device :=
  let (identity, icmpEchoCache) :=
    device.icmpEchoCache.takeRequestIdentity now remoteAddress identifier sequence
  (identity.getD (0, 0), { device with icmpEchoCache := icmpEchoCache })

def attributeInbound (device : Device) (now : Nat) (key : Key) (metadata : IcmpMetadata) :
    (Nat × Nat) × Device :=
  match metadata.error with
  | some (.transport protocol remoteAddress localPort remotePort) =>
      let quotedKey : Key :=
        { protocol := protocol
          localAddress := key.localAddress
          localPort := localPort
          remoteAddress := remoteAddress
          remotePort := remotePort }
      let cache := device.connectionCache
      let ignoreSpecialPorts := layer.environment.ignoreSpecialPorts
      if layer.ipv6 then
        let (identity, map) :=
          readQuotedIdentity ignoreSpecialPorts cache.connectionsV6 now quotedKey
        (identity.getD (0, 0),
          { device with connectionCache := { cache with connectionsV6 := map } })
      else
        let (identity, map) :=
          readQuotedIdentity ignoreSpecialPorts cache.connectionsV4 now quotedKey
        (identity.getD (0, 0),
          { device with connectionCache := { cache with connectionsV4 := map } })
  | some (.echo address identifier sequence) =>
      attributeEcho device now address identifier sequence
  | none =>
      match metadata.echo with
      | none => ((0, 0), device)
      | some echo =>
          if !echo.isRequest then
            attributeEcho device now key.remoteAddress echo.identifier echo.sequence
          else ((0, 0), device)

def attributePacket (device : Device) (now : Nat) (key : Key) (metadata : IcmpMetadata) :
    PacketAttribution × Device :=
  if layer.direction == .outbound && !metadata.isLocalError then
    layer.attributeOutbound device now key metadata.echo
  else
    let ((processId, threadId), device) := layer.attributeInbound device now key metadata
    ({ key := key
       processId := processId
       threadId := threadId
       connectionInstanceId := none
       effectiveDirection := layer.direction
       isLocalError := metadata.isLocalError }, device)

/-- Only temporary and stateless decisions reach the pending-packet path. -/
def queuePacket (state : PacketLayerState) (netBuffers : List NetBuffer)
    (attribution : PacketAttribution) : Exit × PacketLayerState :=
  let (injectInfo, state) := state.packetInjectInfo attribution.effectiveDirection layer.ipv6
    attribution.key.isLoopback
  match clonePacket layer.environment.smoltcp netBuffers injectInfo .recalculate with
  | .error _ => (.leave, state)
  | .ok packet =>
      -- Reinjection stays outbound. Only userspace sees a local error as inbound.
      let direction :=
        if attribution.isLocalError then .inbound else attribution.effectiveDirection
      match state.device.publishPendingPacket layer.environment attribution.key packet
          attribution.connectionInstanceId attribution.processId attribution.threadId direction
          false with
      | (none, _, device) =>
          (.next, { state with
            data := state.data.blockAndAbsorb
            device := device })
      | (some pending, _, device) =>
          (.next, { state with
            data := state.data.blockAndAbsorb
            device := device
            effects := state.effects ++
              (injectPacket layer.environment.wfp pending.packet true).2 })

/-- A redirected clone is injected only when the rewrite succeeded. The original is absorbed in
every case. -/
def redirectPacket (state : PacketLayerState) (netBuffers : List NetBuffer) (key : Key)
    (redirectInfo : RedirectInfo) : PacketLayerState :=
  let (injectInfo, state) :=
    state.packetInjectInfo layer.direction layer.ipv6 key.isLoopback
  match clonePacket layer.environment.smoltcp netBuffers injectInfo .redirectWillRecalculate with
  | .error _ => state
  | .ok packet =>
      match packet.redirect layer.environment.smoltcp redirectInfo with
      | (.error _, _) => state
      | (.ok (), packet) =>
          { state with
            effects := state.effects ++ (injectPacket layer.environment.wfp packet false).2 }

def enforceConnection (state : PacketLayerState) (netBuffers : List NetBuffer) (key : Key)
    (info : ConnectionInfo) : Exit × PacketLayerState :=
  -- A new inbound connection must reach its ALE authorization first.
  if info.direction == .inbound && info.verdict == .undecided &&
      (info.processId == 0 || info.processId == 4) then state.permitAndReturn
  else
    match info.verdict with
    | .undecided | .accept | .block | .drop =>
        layer.queuePacket state netBuffers
          { key := key
            processId := info.processId
            threadId := 0
            connectionInstanceId := some info.instanceId
            effectiveDirection := layer.direction
            isLocalError := false }
    | .permanentAccept => (.next, { state with data := state.data.actionPermit })
    | .permanentBlock => (.next, { state with data := state.data.actionBlockHard })
    | .undeterminable | .permanentDrop | .failed =>
        (.next, { state with data := state.data.blockAndAbsorb })
    | .redirectNameServer | .redirectTunnel | .redirectSplitTunnel =>
        let state :=
          match info.redirectInfo with
          | some redirectInfo => layer.redirectPacket state netBuffers key redirectInfo
          | none => state
        (.next, { state with data := state.data.blockAndAbsorb })

def registerUnmatched (state : PacketLayerState) (netBuffers : List NetBuffer) (key : Key)
    (now instanceId : Nat) : Exit × PacketLayerState :=
  let attribution (processId : Nat) (connectionInstanceId : Option Nat) : PacketAttribution :=
    { key := key
      processId := processId
      threadId := 0
      connectionInstanceId := connectionInstanceId
      effectiveDirection := layer.direction
      isLocalError := false }
  let cache := state.device.connectionCache
  if layer.direction == .inbound then
    match inboundUdpFallbackPid key.protocol layer.environment.inboundUdpPidFallbackEnabled
        fun _ => cache.findActiveUdpPid key with
    | none => state.permitAndReturn
    | some processId =>
        match cache.registerInboundUdpFallbackConnection now instanceId key processId with
        | (.error _, cache) => (state.withConnectionCache cache).permitAndReturn
        | (.ok registration, cache) =>
            layer.queuePacket (state.withConnectionCache cache) netBuffers
              (attribution processId (some registration.instanceId))
  else if layer.injectedByOther then
    let processId := state.otherInjectorProcessId.getD layer.environment.currentProcessId
    layer.queuePacket { state with otherInjectorProcessId := some processId } netBuffers
      (attribution processId none)
  else
    match cache.registerUntrackedConnection now instanceId key 0 layer.direction with
    | (.error _, cache) => (.leave, state.withConnectionCache cache)
    | (.ok registration, cache) =>
        layer.queuePacket (state.withConnectionCache cache) netBuffers
          (attribution 0 (some registration.instanceId))

def processKey (state : PacketLayerState) (nbl : IndicatedNbl S) (netBuffers : List NetBuffer)
    (inspector : PacketInspector S) (key : Key) : Exit × PacketLayerState :=
  let ignoreSpecialPorts := layer.environment.ignoreSpecialPorts
  if fastTrackPmPackets ignoreSpecialPorts key then state.permitAndReturn
  else if key.protocol == .tcp || key.protocol == .udp then
    let (connectionInfo, cache) := getConnectionInfo ignoreSpecialPorts
      state.device.connectionCache nbl.now key layer.ipv6 layer.direction (!layer.injectedByOther)
    let state := state.withConnectionCache cache
    -- Resets need no verdict, but a cached redirect must still rewrite them.
    if key.protocol == .tcp && inspector.isTcpReset.1 &&
        (connectionInfo.bind ConnectionInfo.redirectInfo).isNone then state.permitAndReturn
    else
      match connectionInfo with
      | some info => layer.enforceConnection state netBuffers key info
      | none => layer.registerUnmatched state netBuffers key nbl.now nbl.instanceId
  else
    let metadata := (inspector.icmpMetadata key).1
    let (attribution, device) := layer.attributePacket state.device nbl.now key metadata
    layer.queuePacket { state with device := device } netBuffers attribution

def step (state : PacketLayerState) (nbl : IndicatedNbl S) : Exit × PacketLayerState :=
  let permitFragments := state.first && !layer.reassembled
  match layer.viewFromIpHeader permitFragments nbl with
  | .error _ => (.leave, state)
  | .ok view =>
      match readKey permitFragments
          (PacketInspector.new view.reader layer.ipv6 layer.direction permitFragments) with
      | none => state.permitAndReturn
      | some (.error _, _) => (.leave, state)
      | some (.ok key, inspector) =>
          layer.processKey { state with first := false } nbl view.netBuffers inspector key

end PacketLayer

section IpPacketLayer

variable {S : Type} [PacketData S]

/-- The loop's constants, for an indication that the driver did not inject itself. -/
def packetLayer (environment : Environment) (data : CalloutData) (ipv6 : Bool)
    (direction : Direction) (injectedByOther : Bool) : PacketLayer where
  environment := environment
  ipv6 := ipv6
  direction := direction
  injectedByOther := injectedByOther
  wfpIpHeaderSize := if direction == .inbound then data.ipHeaderSize else none
  reassembled := data.isReassembled

def PacketLayerState.initial (data : CalloutData) (device : Device) : PacketLayerState where
  data := data.setDefaultBlockAndAbsorb
  device := device
  routingInfo := none
  otherInjectorProcessId := none
  first := true
  effects := []

/-- `ip_packet_layer`, with the origins that WFP reports for the chain. -/
def ipPacketLayer (environment : Environment) (device : Option Device) (data : CalloutData)
    (ipv6 : Bool) (direction : Direction) (origins : InjectionOrigins)
    (chain : List (IndicatedNbl S)) : CalloutData × List Effect × Option Device :=
  let blocked := data.setDefaultBlockAndAbsorb
  match chain, device with
  | [], device => (blocked.drop, [], device)
  | _ :: _, none => (blocked.drop, [], none)
  | chain, some device =>
      match origins.action with
      | .permitSelfInjected => (blocked.actionPermit.drop, [], some device)
      | .process injectedByOther =>
          let state := run (packetLayer environment data ipv6 direction injectedByOther).step
            (PacketLayerState.initial data device) chain
          (state.data.drop, state.effects, some state.device)

end IpPacketLayer

end WindowsKext
