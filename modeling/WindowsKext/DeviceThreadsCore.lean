import WindowsKext.Library.Interleaving
import WindowsKext.ConnectionMapLifecycle
import WindowsKext.VerdictRuns

/-! The callouts and commands of the driver as threads. A task is one section of the source under
the locks that it holds: the write guard of a connection map, its read guard around a publication,
or the closure lock with the packet lock inside it. Between two sections of a thread the sections
of other threads may run. -/

namespace WindowsKext

open Interleaving

/-- A map operation with the time at which it runs. The system clock never reads zero. -/
structure TimedOp (A : Type) [AddressFamily A] where
  op : MapOp A
  clock : op.ClockPositive

/-- The connections that an operation ends. -/
def MapOp.endedConnections {A : Type} [AddressFamily A] [DecidableEq A] (map : ConnectionMap A) :
    MapOp A → List (Connection A)
  | .endInstance now key instanceId => (map.endInstance now key instanceId).1.toList
  | .endInstances now instances => (map.endInstances now instances).1
  | .endAllOnEndpoint now group localAddress processId =>
      (map.endAllOnEndpoint now group localAddress processId).1.getD []
  | .endUntrackedOnEndpoint now group localAddress processId =>
      (map.endUntrackedOnEndpoint now group localAddress processId).1.getD []
  | .endInactiveUntrackedConnections now => (map.endInactiveUntrackedConnections now).1
  | _ => []

/-- An endpoint of the TCP endpoint cache, which associates TCP tuples only. -/
structure TcpEndpoint where
  connection : TcpEndpointConnection
  tcp : connection.key.protocol = .tcp

/-- The completion context of a pended ALE operation. -/
def Packet.contexts : Packet → List Nat
  | .aleLayer { kind := .initial context, packetList := _ } => [context]
  | _ => []

/-- A packet of the packet layers, or of a reauthorization. -/
structure UnpendedPacket where
  packet : Packet
  unpended : packet.contexts = []

structure AleRequest where
  key : Key
  packetList : Option TransportPacketList
  processId : Nat
  threadId : Nat
  connectionDirection : Direction
  packetDirection : Direction
  reauthorize : Bool

inductive Task where
  | mapV4 (op : TimedOp Ipv4Address) (processId : Nat)
  | mapV6 (op : TimedOp Ipv6Address) (processId : Nat)
  /-- The first section of an end that covers both families, and the second one. -/
  | endFamilies (opV4 : TimedOp Ipv4Address) (opV6 : TimedOp Ipv6Address) (processId : Nat)
  | endFamilyV6 (endedV4 : List EndedConnection) (opV6 : TimedOp Ipv6Address) (processId : Nat)
  | retire (instanceIds : List Nat)
  | emitConnectionEnd (connection : EndedConnection) (processId : Nat)
  | savePacket (request : AleRequest)
  | registerAleConnection (request : AleRequest) (packet : Packet)
  | publish (key : Key) (packet : Packet) (connectionInstanceId : Option Nat)
      (processId threadId : Nat) (direction : Direction) (aleLayer : Bool)
  | discard (packet : Packet)
  | claimVerdict (id : Nat) (value : UInt8)
  | applyVerdict (pending : PendingPacket) (action : Verdict)
  | block (key : Key) (instanceId : Nat)
  /-- The thread still knows the key and the instance of the request that it finishes. -/
  | finish (id : Nat) (key : Key) (connectionInstanceId : Option Nat)
  | deferTcpEndpointClosure (endpoint : TcpEndpoint) (processId : Nat)
  | endTcpConnection (endpoint : TcpEndpointConnection) (processId : Nat)
  | completeReadyTcpEndpointClosure (endpoint : TcpEndpointConnection)
  | completeClassify (classify : Nat)
  | popAll
  | drainTcpEndpointClosures

/-- The callouts and commands. The operations of one family cover registrations by the packet
layers, lookups, policy updates, cleanup and the ends of endpoints and flows. -/
inductive Call where
  | connectionsV4 (op : TimedOp Ipv4Address) (processId : Nat)
  | connectionsV6 (op : TimedOp Ipv6Address) (processId : Nat)
  | endFamilies (opV4 : TimedOp Ipv4Address) (opV6 : TimedOp Ipv6Address) (processId : Nat)
  | clearCache
  | aleAuthorize (request : AleRequest)
  | publish (key : Key) (packet : UnpendedPacket) (connectionInstanceId : Option Nat)
      (processId threadId : Nat) (direction : Direction) (aleLayer : Bool)
  | verdict (id : Nat) (value : UInt8)
  | closeTcpEndpoint (endpoint : TcpEndpoint) (processId : Nat)
  | endTcpConnection (endpoint : TcpEndpoint) (processId : Nat)
  | shutdown

def Call.tasks : Call → List Task
  | .connectionsV4 op processId => [.mapV4 op processId]
  | .connectionsV6 op processId => [.mapV6 op processId]
  | .endFamilies opV4 opV6 processId => [.endFamilies opV4 opV6 processId]
  | .clearCache => [.mapV4 ⟨.clear, trivial⟩ 0, .mapV6 ⟨.clear, trivial⟩ 0]
  | .aleAuthorize request => [.savePacket request]
  | .publish key packet connectionInstanceId processId threadId direction aleLayer =>
      [.publish key packet.packet connectionInstanceId processId threadId direction aleLayer]
  | .verdict id value => [.claimVerdict id value]
  | .closeTcpEndpoint endpoint processId => [.deferTcpEndpointClosure endpoint processId]
  | .endTcpConnection endpoint processId => [.endTcpConnection endpoint.connection processId]
  | .shutdown => [.popAll]

/-- The driver with the history of its run: the calls into WFP, the generations that were inserted
and ended, and the number of request ids issued. -/
structure System where
  device : Device
  effects : List Effect
  insertedV4 : List Nat
  insertedV6 : List Nat
  endedV4 : List Nat
  endedV6 : List Nat
  issued : Nat

/-- What the surroundings supply to one task: the results of WFP, the clock, and a new connection
instance id. -/
structure Input where
  environment : Environment
  now : Nat
  clock : 1 ≤ now
  instanceId : Nat
  pendOperation : Except String Unit
  pendClassify : Except String Unit

/-- The completion contexts that `FwpsPendOperation0` returned. -/
def pendedOperations (effects : List Effect) : List Nat :=
  effects.filterMap fun effect =>
    match effect with
    | .pendOperation context => some context
    | _ => none

/-- The completion contexts that were passed to `FwpsCompleteOperation0`. -/
def completedOperations (effects : List Effect) : List Nat :=
  effects.filterMap fun effect =>
    match effect with
    | .completeOperation context _ => some context
    | _ => none

def pendedClassifications (effects : List Effect) : List Nat :=
  effects.filterMap fun effect =>
    match effect with
    | .pendClassify classify => some classify
    | _ => none

def completedClassifications (effects : List Effect) : List Nat :=
  effects.filterMap fun effect =>
    match effect with
    | .completeClassify classify => some classify
    | _ => none

namespace System

def new : System where
  device := Device.new
  effects := []
  insertedV4 := []
  insertedV6 := []
  endedV4 := []
  endedV6 := []
  issued := 0

def perform (system : System) (effects : List Effect) : System :=
  { system with effects := system.effects ++ effects }

/-- Runs an operation under the write guard of the IPv4 map. -/
def stepV4 (system : System) (ignoreSpecialPorts : Bool) (op : MapOp Ipv4Address) :
    List EndedConnection × System :=
  let cache := system.device.connectionCache
  let after := op.stepWith ignoreSpecialPorts
    { state := cache.connectionsV4, inserted := system.insertedV4, ended := system.endedV4 }
  ((op.endedConnections cache.connectionsV4).map Connection.toEnded,
    { system with
      device := { system.device with
        connectionCache := { cache with connectionsV4 := after.state } }
      insertedV4 := after.inserted
      endedV4 := after.ended })

def stepV6 (system : System) (ignoreSpecialPorts : Bool) (op : MapOp Ipv6Address) :
    List EndedConnection × System :=
  let cache := system.device.connectionCache
  let after := op.stepWith ignoreSpecialPorts
    { state := cache.connectionsV6, inserted := system.insertedV6, ended := system.endedV6 }
  ((op.endedConnections cache.connectionsV6).map Connection.toEnded,
    { system with
      device := { system.device with
        connectionCache := { cache with connectionsV6 := after.state } }
      insertedV6 := after.inserted
      endedV6 := after.ended })

/-- Records the end of a generation in the family of the key. -/
def recordEnd (system : System) (key : Key) (ended : Option EndedConnection) : System :=
  if key.isIpv6 then
    { system with
      endedV6 := system.endedV6 ++ ended.toList.map EndedConnection.instanceId }
  else
    { system with
      endedV4 := system.endedV4 ++ ended.toList.map EndedConnection.instanceId }

def recordRegistration (system : System) (key : Key) (registration : ConnectionRegistration) :
    System :=
  let inserted := if registration.inserted then [registration.instanceId] else []
  if key.isIpv6 then { system with insertedV6 := system.insertedV6 ++ inserted }
  else { system with insertedV4 := system.insertedV4 ++ inserted }

end System

/-- What follows an end: the requests of the generations are retired, and then their end records
are pushed. -/
def endTasks (ended : List EndedConnection) (processId : Nat) : List Task :=
  .retire (ended.map EndedConnection.instanceId) ::
    ended.map fun connection => .emitConnectionEnd connection processId

/-- The resolution of a request that was removed from the queue. -/
def resolveTasks (entry : Entry) : List Task :=
  [.discard entry.value.packet,
    .finish entry.id entry.value.key entry.value.connectionInstanceId]

/-- A request that shutdown resolves blocks its generation first. -/
def blockTasks (entry : Entry) : List Task :=
  entry.value.connectionInstanceId.toList.map fun instanceId =>
    .block entry.value.key instanceId

def Task.step (input : Input) (system : System) : Task → List Task × System
  | .mapV4 op processId =>
      let (ended, system) := system.stepV4 input.environment.ignoreSpecialPorts op.op
      (endTasks ended processId, system)
  | .mapV6 op processId =>
      let (ended, system) := system.stepV6 input.environment.ignoreSpecialPorts op.op
      (endTasks ended processId, system)
  | .endFamilies opV4 opV6 processId =>
      let (ended, system) := system.stepV4 input.environment.ignoreSpecialPorts opV4.op
      ([.endFamilyV6 ended opV6 processId], system)
  | .endFamilyV6 endedV4 opV6 processId =>
      let (endedV6, system) := system.stepV6 input.environment.ignoreSpecialPorts opV6.op
      ([.retire (endedV4.map EndedConnection.instanceId),
          .retire (endedV6.map EndedConnection.instanceId)] ++
        (endedV4 ++ endedV6).map fun connection => .emitConnectionEnd connection processId, system)
  | .retire instanceIds =>
      let (removed, _, device) :=
        system.device.retirePendingConnectionInstances input.environment instanceIds
      (removed.flatMap resolveTasks, { system with device := device })
  | .emitConnectionEnd connection processId =>
      ([], { system with device := system.device.emitConnectionEnd connection processId })
  | .savePacket request =>
      -- Only the first indication of a connection can be pended.
      if !request.reauthorize &&
          (request.key.protocol == .tcp || request.key.protocol == .udp) then
        match input.pendOperation with
        | .error _ => ([], system)
        | .ok () =>
            let context := (pendedOperations system.effects).length
            ([.registerAleConnection request (.aleLayer ⟨.initial context, request.packetList⟩)],
              system.perform [.pendOperation context])
      else
        ([.registerAleConnection request (.aleLayer ⟨.reauthorization, request.packetList⟩)],
          system)
  | .registerAleConnection request packet =>
      match system.device.connectionCache.registerAleConnection input.now input.instanceId
          request.key request.processId request.threadId request.connectionDirection with
      | (.error _, _) => ([.discard packet], system)
      | (.ok registration, cache) =>
          ([.publish request.key packet (some registration.instanceId) request.processId 0
              request.packetDirection true],
            { system with
              device := { system.device with
                connectionCache := cache } }.recordRegistration request.key registration)
  | .publish key packet connectionInstanceId processId threadId direction aleLayer =>
      let (rejected, queued, device) := system.device.publishPendingPacket input.environment key
        packet connectionInstanceId processId threadId direction aleLayer
      (rejected.toList.map fun pending => .discard pending.packet,
        { system with
          device := device
          issued := system.issued + queued.length })
  | .discard packet => ([], system.perform (injectPacket input.environment.wfp packet true).2)
  | .claimVerdict id value =>
      let (claimed, device) := system.device.claimVerdict id value
      (claimed.toList.flatMap fun request =>
          [.applyVerdict request.1 request.2,
            .finish id request.1.key request.1.connectionInstanceId],
        { system with device := device })
  | .applyVerdict pending action =>
      let (effects, device) :=
        system.device.applyVerdict input.environment input.now pending action
      ([], { system with device := device }.perform effects)
  | .block key instanceId =>
      let (_, cache) := system.device.connectionCache.updateConnectionInstance
        input.environment.ignoreSpecialPorts input.now key instanceId .permanentBlock
      ([], { system with device := { system.device with connectionCache := cache } })
  | .finish id _ _ =>
      let (ready, device) := system.device.finishPendingRequest id
      (ready.map .completeReadyTcpEndpointClosure, { system with device := device })
  | .deferTcpEndpointClosure endpoint processId =>
      let (result, effects, device) := system.device.deferTcpEndpointClosure input.now
        endpoint.connection processId
        (input.pendClassify.map fun _ => (pendedClassifications system.effects).length)
      let system := { system with device := device }.perform effects
      match result with
      | .ok ended =>
          (endTasks ended.toList processId, system.recordEnd endpoint.connection.key ended)
      -- Without a pended classification the generation ends at once.
      | .error _ => ([.endTcpConnection endpoint.connection processId], system)
  | .endTcpConnection endpoint processId =>
      let (ended, device) := system.device.endTcpInstance input.now endpoint
      (endTasks ended.toList processId,
        { system with device := device }.recordEnd endpoint.key ended)
  | .completeReadyTcpEndpointClosure endpoint =>
      match system.device.completeReadyTcpEndpointClosure input.now endpoint with
      | (none, device) => ([], { system with device := device })
      | (some (ended, closure), device) =>
          (endTasks ended.toList closure.processId ++ [.completeClassify closure.classify],
            { system with device := device }.recordEnd endpoint.key ended)
  | .completeClassify classify => ([], system.perform [.completeClassify classify])
  | .popAll =>
      let (removed, packetCache) := system.device.packetCache.popAll
      (removed.flatMap (fun entry => blockTasks entry ++ resolveTasks entry) ++
          [.drainTcpEndpointClosures],
        { system with device := { system.device with packetCache := packetCache } })
  | .drainTcpEndpointClosures =>
      let (closures, tcpClosureCache) := system.device.tcpClosureCache.drain
      (closures.flatMap fun closure =>
          [.endTcpConnection closure.endpoint closure.processId,
            .completeClassify closure.classify],
        { system with device := { system.device with tcpClosureCache := tcpClosureCache } })

def driver : Machine System Task Call Input where
  tasks := Call.tasks
  step := Task.step

def runDriver (choices : List (Choice Call Input)) : State System Task :=
  driver.run System.new choices

end WindowsKext
