import WindowsKext.DeviceThreadsChecks
import WindowsKext.UdpEndpointCore
import WindowsKext.UdpFlowRuns

/-! `Device::clean_udp_lifecycle_state`, one atomic step after the other, among the other steps of
the driver on the connection maps, the UDP endpoint cache and the UDP flow cache. -/

namespace WindowsKext

/-- What `FwpsFlowRemoveContext0` says when it does not fail. -/
inductive RemoveContextResult where
  | removed
  | pending
  | alreadyGone

inductive CleanPhase where
  | idle
  | endpointsRead (now : Nat) (endpointInstances : List Nat)
  | flowsRead (now : Nat) (endpointInstances : List Nat) (flowCandidates : List (Nat × Nat))
  | v4Read (now : Nat) (endpointInstances : List Nat) (flowCandidates : List (Nat × Nat))
      (liveInstances : List Nat)
  | v6Read (now : Nat) (endpointInstances : List Nat) (flowCandidates : List (Nat × Nat))
      (liveInstances : List Nat)
  | claiming (liveInstances : List Nat) (flowCandidates : List (Nat × Nat))
  | removing (registration : UdpFlowRegistration) (liveInstances : List Nat)
      (flowCandidates : List (Nat × Nat))

/-- `failedRemovals` are the contexts, with their instances, whose removal WFP refused in the
current pass. The code does not keep them. -/
structure UdpSystem where
  generations : Generations
  endpoints : UdpEndpointCache
  flows : UdpFlowCache
  phase : CleanPhase
  failedRemovals : List (Nat × Nat)

inductive UdpStep where
  | startClean (now : Nat)
  | clean (answer : Except String RemoveContextResult)
  | mapV4 (ignoreSpecialPorts : Bool) (op : TimedOp Ipv4Address)
  | mapV6 (ignoreSpecialPorts : Bool) (op : TimedOp Ipv6Address)
  | endpoint (op : EndpointOp)
  | flow (op : FlowOp)

namespace UdpSystem

def new : UdpSystem where
  generations := {
    v4 := ⟨ConnectionMap.new, [], []⟩
    v6 := ⟨ConnectionMap.new, [], []⟩ }
  endpoints := .new
  flows := .new
  phase := .idle
  failedRemovals := []

/-- The end of `remove_udp_flow_context`, once WFP has answered. The deletion callback that WFP
runs for a removed context is a step of the flow cache. -/
def removeUdpFlowContext (system : UdpSystem) (registration : UdpFlowRegistration) :
    Except String RemoveContextResult → UdpSystem
  | .ok .removed => system
  | .ok .pending => system
  | .ok .alreadyGone =>
      { system with
        flows := (system.flows.cancelRegistration registration.flowContext
          registration.connectionInstanceId).2 }
  | .error _ =>
      { system with
        flows := system.flows.retryRemoval registration.flowContext
          registration.connectionInstanceId
        failedRemovals := (registration.flowContext, registration.connectionInstanceId) ::
          system.failedRemovals }

def claimNext (system : UdpSystem) (liveInstances : List Nat) :
    List (Nat × Nat) → UdpSystem
  | [] => { system with phase := .idle }
  | (flowContext, connectionInstanceId) :: rest =>
      if liveInstances.contains connectionInstanceId then
        { system with phase := .claiming liveInstances rest }
      else
        match system.flows.claimRemoval flowContext connectionInstanceId with
        | (some registration, flows) =>
            { system with
              flows := flows
              phase := .removing registration liveInstances rest }
        | (none, flows) =>
            { system with
              flows := flows
              phase := .claiming liveInstances rest }

/-- One step of a pass. `live_udp_instance_ids` locks the two maps one after the other, and sorts
the ids for a binary search, which finds exactly the ids of the list. -/
def clean (system : UdpSystem) (answer : Except String RemoveContextResult) : UdpSystem :=
  match system.phase with
  | .idle => system
  | .endpointsRead now endpointInstances =>
      { system with
        phase := .flowsRead now endpointInstances system.flows.removalCandidates }
  | .flowsRead now endpointInstances flowCandidates =>
      { system with
        phase := .v4Read now endpointInstances flowCandidates
          (system.generations.v4.state.appendLiveUdpInstanceIds []) }
  | .v4Read now endpointInstances flowCandidates liveInstances =>
      { system with
        phase := .v6Read now endpointInstances flowCandidates
          (system.generations.v6.state.appendLiveUdpInstanceIds liveInstances) }
  | .v6Read now endpointInstances flowCandidates liveInstances =>
      let staleEndpointInstances := endpointInstances.filter fun instanceId =>
        !liveInstances.contains instanceId
      { system with
        endpoints := (system.endpoints.removeInstances staleEndpointInstances now).2
        phase := .claiming liveInstances flowCandidates }
  | .claiming liveInstances flowCandidates => system.claimNext liveInstances flowCandidates
  | .removing registration liveInstances flowCandidates =>
      { system.removeUdpFlowContext registration answer with
        phase := .claiming liveInstances flowCandidates }

/-- A pass starts with the time and the ids of the endpoint cache. -/
def startClean (system : UdpSystem) (now : Nat) : UdpSystem :=
  match system.phase with
  | .idle =>
      { system with
        phase := .endpointsRead now system.endpoints.instanceIds
        failedRemovals := [] }
  | _ => system

def step (system : UdpSystem) : UdpStep → UdpSystem
  | .startClean now => system.startClean now
  | .clean answer => system.clean answer
  | .mapV4 ignoreSpecialPorts op =>
      { system with
        generations := { system.generations with
          v4 := op.op.stepWith ignoreSpecialPorts system.generations.v4 } }
  | .mapV6 ignoreSpecialPorts op =>
      { system with
        generations := { system.generations with
          v6 := op.op.stepWith ignoreSpecialPorts system.generations.v6 } }
  | .endpoint op => { system with endpoints := op.step system.endpoints }
  | .flow op => { system with flows := (system.flows.step op).2 }

end UdpSystem

/-- The UDP callouts choose the instance of an association or a flow context by a lookup of a UDP
tuple in the connection cache, so it has been inserted there. -/
def UdpStep.Allowed (generations : Generations) : UdpStep → Prop
  | .endpoint (.associateInstanceAt _ _ instanceId _) => generations.OfProtocol instanceId .udp
  | .flow (.register _ registration) =>
      generations.OfProtocol registration.connectionInstanceId .udp
  | _ => True

inductive UdpSystem.Reachable : UdpSystem → Prop where
  | new : Reachable UdpSystem.new
  | step {system : UdpSystem} (reachable : Reachable system) (step : UdpStep)
      (allowed : step.Allowed system.generations) : Reachable (system.step step)

def Generations.LiveInstance (generations : Generations) (instanceId : Nat) : Prop :=
  (∃ entry ∈ generations.v4.state.entries, entry.instanceId = instanceId ∧
      entry.hasEnded = false) ∨
    ∃ entry ∈ generations.v6.state.entries, entry.instanceId = instanceId ∧
      entry.hasEnded = false

/-- The steps of a pass, and the deletion callbacks with which WFP answers its removals. -/
def UdpStep.OfPass : UdpStep → Prop
  | .clean _ => True
  | .flow (.beginCallback _ _ _) => True
  | .flow .finishCallback => True
  | _ => False

def UdpStep.isClean : UdpStep → Bool
  | .clean _ => true
  | _ => false

end WindowsKext
