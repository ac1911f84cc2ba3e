import WindowsKext.Library.Rundown

/-! The dispatch gate and the session owner of `entry.rs`, one atomic operation after the other: any
number of dispatches, and `DriverEntry` and `DriverUnload`, which are serialized. A section under the
admission lock is one operation. -/

namespace WindowsKext

open Rundown

/-- A dispatch that is counted occupies a thread, so the 32-bit counters do not wrap. -/
structure DispatchGate where
  dispatchLifetime : Ref
  lifetimeInitialized : Bool
  unloading : Bool
  active : Nat
  nonRead : Nat
  readsClosed : Bool
  reads : Nat
  sessionBusy : Bool

namespace DispatchGate

def new : DispatchGate where
  dispatchLifetime := .empty
  lifetimeInitialized := false
  unloading := false
  active := 0
  nonRead := 0
  readsClosed := false
  reads := 0
  sessionBusy := false

/-- The locked part of `enter`. -/
def admits (gate : DispatchGate) (isRead : Bool) : Bool :=
  !gate.unloading && !(isRead && gate.readsClosed)

def enter (gate : DispatchGate) (isRead : Bool) : DispatchGate :=
  let gate := { gate with active := gate.active + 1 }
  if isRead then { gate with reads := gate.reads + 1 } else { gate with nonRead := gate.nonRead + 1 }

/-- The first half of the drop of an admitted guard. -/
def uncount (gate : DispatchGate) (isRead : Bool) : DispatchGate :=
  if isRead then { gate with reads := gate.reads - 1 } else { gate with nonRead := gate.nonRead - 1 }

def deactivate (gate : DispatchGate) : DispatchGate := { gate with active := gate.active - 1 }

def close (gate : DispatchGate) : DispatchGate := { gate with readsClosed := true, unloading := true }

def closeReads (gate : DispatchGate) : DispatchGate := { gate with readsClosed := true }

def openReads (gate : DispatchGate) : DispatchGate := { gate with readsClosed := false }

/-- The section of `reopen` that keeps callbacks out. -/
def beginReopen (gate : DispatchGate) : DispatchGate :=
  { gate with lifetimeInitialized := false, readsClosed := true, unloading := true }

/-- The section of `reopen` that publishes the usable rundown. -/
def endReopen (gate : DispatchGate) : DispatchGate :=
  { gate with readsClosed := false, unloading := false, lifetimeInitialized := true }

end DispatchGate

/-- The fields of Device that belong to the session. File objects are pointers, and 0 is null. -/
structure DeviceSession where
  ownerFileObject : Nat
  ownerPid : Nat
  readsCancelled : Bool
  leftover : Option (List UInt8)

def DeviceSession.new : DeviceSession where
  ownerFileObject := 0
  ownerPid := 0
  readsCancelled := false
  leftover := none

/-- `command` is a write or a device control. -/
inductive DispatchRequest where
  | create (fileObject pid : Nat)
  | cleanup (fileObject : Nat)
  | close
  | read (fileObject : Nat)
  | command
deriving DecidableEq

def DispatchRequest.isRead : DispatchRequest → Bool
  | .read _ => true
  | _ => false

def DispatchRequest.fileObject : DispatchRequest → Nat
  | .create fileObject _ | .cleanup fileObject | .read fileObject => fileObject
  | _ => 0

def DispatchRequest.pid : DispatchRequest → Nat
  | .create _ pid => pid
  | _ => 0

/-- `close_and_wait_for_reads` is called by CLEANUP of the owner and by `Device::shutdown`. -/
inductive DrainCaller where
  | cleanup
  | shutdown
deriving DecidableEq

inductive DispatchWork where
  | checks
  | acquireSession
  | checkUnloading
  | claimOwner
  | storePid
  | resetCancellation
  | openReads
  | complete
  | checkOwner
  | closeReads (caller : DrainCaller)
  | cancelWaiters (caller : DrainCaller)
  | waitForReads (caller : DrainCaller)
  | clearLeftover
  | releaseOwner
  | clearPid
  | releaseSession
  | serve
  | finished
deriving DecidableEq

def DispatchRequest.afterChecks : DispatchRequest → DispatchWork
  | .create _ _ | .cleanup _ => .acquireSession
  | .read _ | .command => .serve
  | .close => .finished

def DispatchRequest.afterSession : DispatchRequest → DispatchWork
  | .create _ _ => .checkUnloading
  | _ => .checkOwner

def DrainCaller.afterDrain : DrainCaller → DispatchWork
  | .cleanup => .clearLeftover
  | .shutdown => .serve

/-- What the gate does not decide: a check of the request that fails, the leftover that a read saves
or takes, and a command that shuts the device down. -/
inductive DispatchInput where
  | proceed
  | fail
  | stream (leftover : Option (List UInt8))
  | shutdown

structure GateShared where
  gate : DispatchGate
  device : DeviceSession
  /-- `DEVICE` is not null. -/
  published : Bool
  /-- The file objects whose CREATE succeeded in this driver instance. -/
  created : List Nat
  /-- The file objects that became owner of this Device and that no CLEANUP has removed. -/
  sessions : List Nat

def GateShared.new : GateShared where
  gate := .new
  device := .new
  published := false
  created := []
  sessions := []

/-- One operation. A wait whose condition does not hold looks again. -/
def DispatchWork.step (request : DispatchRequest) (input : DispatchInput) (shared : GateShared) :
    DispatchWork → DispatchWork × GateShared
  | .checks =>
      match input with
      | .fail => (.finished, shared)
      | _ => (if shared.published then request.afterChecks else .finished, shared)
  | .acquireSession =>
      if shared.gate.sessionBusy then (.acquireSession, shared)
      else (request.afterSession, { shared with gate := { shared.gate with sessionBusy := true } })
  | .checkUnloading => (if shared.gate.unloading then .releaseSession else .claimOwner, shared)
  | .claimOwner =>
      if request.fileObject = 0 ∨ shared.device.ownerFileObject ≠ 0 then (.releaseSession, shared)
      else
        (.storePid,
          { shared with
            device := { shared.device with ownerFileObject := request.fileObject }
            sessions := shared.sessions ++ [request.fileObject] })
  | .storePid =>
      (.resetCancellation, { shared with device := { shared.device with ownerPid := request.pid } })
  | .resetCancellation =>
      (.openReads, { shared with device := { shared.device with readsCancelled := false } })
  | .openReads => (.complete, { shared with gate := shared.gate.openReads })
  | .complete =>
      (.releaseSession, { shared with created := shared.created ++ [request.fileObject] })
  | .checkOwner =>
      (if request.fileObject ≠ 0 ∧ shared.device.ownerFileObject = request.fileObject then
        .closeReads .cleanup
      else .releaseSession, shared)
  | .closeReads caller => (.cancelWaiters caller, { shared with gate := shared.gate.closeReads })
  | .cancelWaiters caller =>
      (.waitForReads caller, { shared with device := { shared.device with readsCancelled := true } })
  | .waitForReads caller =>
      (if shared.gate.reads = 0 then caller.afterDrain else .waitForReads caller, shared)
  | .clearLeftover =>
      (.releaseOwner, { shared with device := { shared.device with leftover := none } })
  | .releaseOwner =>
      if shared.device.ownerFileObject = request.fileObject then
        (.clearPid,
          { shared with
            device := { shared.device with ownerFileObject := 0 }
            sessions := shared.sessions.erase request.fileObject })
      else (.releaseSession, shared)
  | .clearPid => (.releaseSession, { shared with device := { shared.device with ownerPid := 0 } })
  | .releaseSession =>
      (.finished, { shared with gate := { shared.gate with sessionBusy := false } })
  | .serve =>
      match request, input with
      | .read _, .stream leftover =>
          (.serve, { shared with device := { shared.device with leftover := leftover } })
      | .command, .shutdown => (.closeReads .shutdown, shared)
      | _, _ => (.finished, shared)
  | .finished => (.finished, shared)

/-- Where a dispatch stands. A guard that was not admitted only releases the rundown. -/
inductive DispatchStage where
  | arrived
  | initialized
  | pinned
  | working (work : DispatchWork)
  | uncounted
  | unpinning
  | returned
deriving DecidableEq

structure Dispatch where
  request : DispatchRequest
  stage : DispatchStage
deriving DecidableEq

def DispatchStage.step (request : DispatchRequest) (input : DispatchInput) (shared : GateShared) :
    DispatchStage → DispatchStage × GateShared
  | .arrived => (if shared.gate.lifetimeInitialized then .initialized else .returned, shared)
  | .initialized =>
      let (reference, ref) := shared.gate.dispatchLifetime.acquire
      (if reference.isSome then .pinned else .returned,
        { shared with gate := { shared.gate with dispatchLifetime := ref } })
  | .pinned =>
      if shared.gate.admits request.isRead then
        (.working .checks, { shared with gate := shared.gate.enter request.isRead })
      else (.unpinning, shared)
  | .working .finished => (.uncounted, { shared with gate := shared.gate.uncount request.isRead })
  | .working work =>
      let (work, shared) := work.step request input shared
      (.working work, shared)
  | .uncounted => (.unpinning, { shared with gate := shared.gate.deactivate })
  | .unpinning =>
      (.returned, { shared with gate :=
        { shared.gate with dispatchLifetime := shared.gate.dispatchLifetime.release } })
  | .returned => (.returned, shared)

def Dispatch.step (dispatch : Dispatch) (input : DispatchInput) (shared : GateShared) :
    Dispatch × GateShared :=
  let (stage, shared) := dispatch.stage.step dispatch.request input shared
  ({ dispatch with stage := stage }, shared)

/-- The operations of `DriverUnload`, and of `DriverEntry` when it fails. -/
inductive TeardownTask where
  | close
  | cancelWaiters
  | waitForNonRead
  | waitForReads
  | closeReads
  | waitForAll
  | closeLifetime
  | waitForLifetime
  | reclaim
deriving DecidableEq

inductive DriverPhase where
  | neverLoaded
  | reopening
  | reinitialized
  | opened
  | started
  | tearingDown (tasks : List TeardownTask)
  | unloaded
deriving DecidableEq

inductive DriverCall where
  | proceed
  | failInitialization
  | failFiltering
  | failActivation
  | unload

def DriverCall.teardown : DriverCall → List TeardownTask
  | .failInitialization => [.close, .waitForAll, .closeLifetime, .waitForLifetime]
  | .failFiltering => [.close, .waitForAll, .closeLifetime, .waitForLifetime, .reclaim]
  | .failActivation =>
      [.close, .closeReads, .cancelWaiters, .waitForReads, .waitForAll, .closeLifetime,
        .waitForLifetime, .reclaim]
  -- `shutdown` closes, cancels and drains the reads once more.
  | .unload =>
      [.close, .cancelWaiters, .waitForNonRead, .waitForReads, .closeReads, .cancelWaiters,
        .waitForReads, .waitForAll, .closeLifetime, .waitForLifetime, .reclaim]
  | .proceed => []

/-- The operation, and whether it is over. -/
def TeardownTask.step (shared : GateShared) : TeardownTask → Bool × GateShared
  | .close => (true, { shared with gate := shared.gate.close })
  | .cancelWaiters => (true, { shared with device := { shared.device with readsCancelled := true } })
  | .waitForNonRead => (shared.gate.nonRead == 0, shared)
  | .waitForReads => (shared.gate.reads == 0, shared)
  | .closeReads => (true, { shared with gate := shared.gate.closeReads })
  | .waitForAll => (shared.gate.active == 0, shared)
  | .closeLifetime =>
      (true, { shared with gate :=
        { shared.gate with dispatchLifetime := shared.gate.dispatchLifetime.beginWait } })
  | .waitForLifetime => (shared.gate.dispatchLifetime.references == 0, shared)
  | .reclaim => (true, { shared with published := false })

def DriverPhase.step (call : DriverCall) (shared : GateShared) :
    DriverPhase → DriverPhase × GateShared
  | .neverLoaded | .unloaded =>
      -- A file object of the last instance is not opened in this one.
      (.reopening, { shared with gate := shared.gate.beginReopen, created := [] })
  | .reopening =>
      (.reinitialized, { shared with gate :=
        { shared.gate with dispatchLifetime := shared.gate.dispatchLifetime.restart } })
  | .reinitialized => (.opened, { shared with gate := shared.gate.endReopen })
  | .opened =>
      match call with
      | .failInitialization => (.tearingDown call.teardown, shared)
      | _ => (.started, { shared with device := .new, published := true, sessions := [] })
  | .started =>
      match call with
      | .failFiltering | .failActivation | .unload => (.tearingDown call.teardown, shared)
      | _ => (.started, shared)
  | .tearingDown [] => (.unloaded, shared)
  | .tearingDown (task :: tasks) =>
      let (ended, shared) := task.step shared
      (.tearingDown (if ended then tasks else task :: tasks), shared)

structure GateSystem where
  shared : GateShared
  dispatches : List Dispatch
  driver : DriverPhase

inductive GateStep where
  | arrive (request : DispatchRequest)
  | advance (dispatch : Nat) (input : DispatchInput)
  | driver (call : DriverCall)

namespace GateSystem

def new : GateSystem where
  shared := .new
  dispatches := []
  driver := .neverLoaded

def step (system : GateSystem) : GateStep → GateSystem
  | .arrive request =>
      { system with dispatches := system.dispatches ++ [{ request := request, stage := .arrived }] }
  | .advance index input =>
      match system.dispatches[index]? with
      | some dispatch =>
          let (dispatch, shared) := dispatch.step input system.shared
          { system with
            shared := shared
            dispatches := system.dispatches.set index dispatch }
      | none => system
  | .driver call =>
      let (driver, shared) := system.driver.step call system.shared
      { system with
        shared := shared
        driver := driver }

def run (steps : List GateStep) : GateSystem := steps.foldl step new

end GateSystem

end WindowsKext
