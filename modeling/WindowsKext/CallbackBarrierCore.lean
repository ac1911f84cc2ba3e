import Mathlib.Algebra.GroupWithZero.Nat
import WindowsKext.Library.Rundown

/-! `callback_barrier.rs`, one atomic operation after the other: any number of callbacks that
enter and leave, and the lifecycle calls of `DriverEntry` and `DriverUnload`, which are
serialized. -/

namespace WindowsKext

open Rundown

inductive BarrierPhase where
  | neverStarted
  | prepared
  | opened
  | classifyClosing
  | classifyClosed
  | draining
  | closed
  | starting
deriving DecidableEq

def BarrierPhase.code : BarrierPhase → Nat
  | neverStarted => 0
  | prepared => 1
  | opened => 2
  | classifyClosing => 3
  | classifyClosed => 4
  | draining => 5
  | closed => 6
  | starting => 7

def BarrierPhase.ofCode : Nat → Option BarrierPhase
  | 0 => some neverStarted
  | 1 => some prepared
  | 2 => some opened
  | 3 => some classifyClosing
  | 4 => some classifyClosed
  | 5 => some draining
  | 6 => some closed
  | 7 => some starting
  | _ => none

def generationMask : Nat := (2 ^ 64 - 1) >>> 8

def stateToken (generation : Nat) (phase : BarrierPhase) : Nat :=
  (generation &&& generationMask) <<< 8 ||| phase.code

def stateGeneration (token : Nat) : Nat := token >>> 8

/-- The low byte. -/
def statePhase (token : Nat) : Option BarrierPhase := BarrierPhase.ofCode (token &&& 0xff)

inductive RundownObject where
  | callbackLifetime
  | classify
  | flowDelete
deriving DecidableEq

structure CallbackBarrier where
  callbackLifetime : Ref
  classify : Ref
  flowDelete : Ref
  state : Nat

namespace CallbackBarrier

def new : CallbackBarrier where
  callbackLifetime := .empty
  classify := .empty
  flowDelete := .empty
  state := stateToken 0 .neverStarted

def rundown (barrier : CallbackBarrier) : RundownObject → Ref
  | .callbackLifetime => barrier.callbackLifetime
  | .classify => barrier.classify
  | .flowDelete => barrier.flowDelete

def setRundown (barrier : CallbackBarrier) (object : RundownObject) (ref : Ref) :
    CallbackBarrier :=
  match object with
  | .callbackLifetime => { barrier with callbackLifetime := ref }
  | .classify => { barrier with classify := ref }
  | .flowDelete => { barrier with flowDelete := ref }

def store (barrier : CallbackBarrier) (token : Nat) : CallbackBarrier :=
  { barrier with state := token }

end CallbackBarrier

inductive DeviceEntry where
  | classify
  | flowDelete
deriving DecidableEq

def DeviceEntry.object : DeviceEntry → RundownObject
  | .classify => .classify
  | .flowDelete => .flowDelete

/-- The phases in which the callback asks for Device access, and may use it. -/
def DeviceEntry.grants : DeviceEntry → Option BarrierPhase → Bool
  | .classify, some .opened => true
  | .flowDelete, some .opened => true
  | .flowDelete, some .classifyClosing => true
  | .flowDelete, some .classifyClosed => true
  | _, _ => false

/-- The phases in which the callback is admitted without Device access. -/
def DeviceEntry.bypasses : DeviceEntry → Option BarrierPhase → Bool
  | _, some .prepared => true
  | .classify, some .classifyClosing => true
  | .classify, some .classifyClosed => true
  | _, _ => false

/-- `PREPARED | OPEN | CLASSIFY_CLOSING | CLASSIFY_CLOSED`. -/
def admitsCallback : Option BarrierPhase → Bool
  | some .prepared => true
  | some .opened => true
  | some .classifyClosing => true
  | some .classifyClosed => true
  | _ => false

/-- `enter_callback`, or one of the two entries that may touch Device. -/
inductive CallbackEntry where
  | callback
  | device (entry : DeviceEntry)
deriving DecidableEq

/-- Where a call stands. A guard is represented by the epoch of its reference. Guards drop in the
order of their fields, so the lifetime goes before the Device access. -/
inductive Caller where
  | entering (entry : CallbackEntry)
  | observed (entry : CallbackEntry) (generation : Nat)
  | pinned (entry : CallbackEntry) (generation lifetime : Nat)
  | passed (entry : DeviceEntry) (generation lifetime : Nat)
  | deciding (entry : DeviceEntry) (generation lifetime : Nat) (deviceAccess : Option Nat)
  | callbackAdmission (generation lifetime : Nat)
  | admission (entry : DeviceEntry) (generation lifetime : Nat) (active : Bool)
      (deviceAccess : Option Nat)
  | leaving (entry : DeviceEntry) (generation : Nat) (active : Bool) (deviceAccess : Nat)
  | rejected (lifetime : Nat)
  | returned
deriving DecidableEq

def Caller.step (barrier : CallbackBarrier) : Caller → Caller × CallbackBarrier
  | .entering entry =>
      if admitsCallback (statePhase barrier.state) then
        (.observed entry (stateGeneration barrier.state), barrier)
      else (.returned, barrier)
  | .observed entry generation =>
      match barrier.callbackLifetime.acquire with
      | (some lifetime, ref) =>
          (.pinned entry generation lifetime, barrier.setRundown .callbackLifetime ref)
      | (none, ref) => (.returned, barrier.setRundown .callbackLifetime ref)
  | .pinned .callback generation lifetime =>
      if stateGeneration barrier.state != generation then (.rejected lifetime, barrier)
      else if admitsCallback (statePhase barrier.state) then
        (.callbackAdmission generation lifetime, barrier)
      else (.rejected lifetime, barrier)
  | .pinned (.device entry) generation lifetime =>
      if stateGeneration barrier.state != generation then (.rejected lifetime, barrier)
      else if entry.grants (statePhase barrier.state) then
        (.passed entry generation lifetime, barrier)
      else if entry.bypasses (statePhase barrier.state) then
        (.admission entry generation lifetime false none, barrier)
      else (.rejected lifetime, barrier)
  | .passed entry generation lifetime =>
      let (deviceAccess, ref) := (barrier.rundown entry.object).acquire
      (.deciding entry generation lifetime deviceAccess, barrier.setRundown entry.object ref)
  | .deciding entry generation lifetime deviceAccess =>
      (.admission entry generation lifetime
        (deviceAccess.isSome && entry.grants (statePhase barrier.state)) deviceAccess, barrier)
  | .callbackAdmission _ _ =>
      (.returned, barrier.setRundown .callbackLifetime barrier.callbackLifetime.release)
  | .admission entry generation _ active deviceAccess =>
      (match deviceAccess with
        | some deviceAccess => .leaving entry generation active deviceAccess
        | none => .returned,
        barrier.setRundown .callbackLifetime barrier.callbackLifetime.release)
  | .leaving entry _ _ _ =>
      (.returned, barrier.setRundown entry.object (barrier.rundown entry.object).release)
  | .rejected _ =>
      (.returned, barrier.setRundown .callbackLifetime barrier.callbackLifetime.release)
  | .returned => (.returned, barrier)

inductive LifecycleCall where
  | prepare
  | activate
  | closeClassifyAndWait
  | closeAllAndWait
deriving DecidableEq

/-- Where the lifecycle thread stands. A `load` is followed by the exchange of the loaded token.
A wait closes its object first and returns when all references are released, after which
`ExRundownCompleted` keeps the object closed. -/
inductive LifecycleThread where
  | idle
  | load (call : LifecycleCall)
  | exchange (call : LifecycleCall) (token : Nat)
  | restart (generation : Nat) (objects : List RundownObject)
  | wait (call : LifecycleCall) (generation : Nat) (objects : List RundownObject)
  | drain (call : LifecycleCall) (generation : Nat) (object : RundownObject)
      (objects : List RundownObject)

structure BarrierSystem where
  barrier : CallbackBarrier
  callers : List Caller
  lifecycle : LifecycleThread
  /-- The generations whose `activate` succeeded. -/
  activated : List Nat

namespace BarrierSystem

def new : BarrierSystem where
  barrier := .new
  callers := []
  lifecycle := .idle
  activated := []

/-- What a lifecycle call does with the token that it has loaded: exchange it, look again, or
return. -/
def afterLoad (call : LifecycleCall) (token : Nat) : LifecycleThread :=
  match call, statePhase token with
  | .prepare, some .neverStarted | .prepare, some .closed => .exchange call token
  | .prepare, some .starting => .load call
  | .activate, some .prepared => .exchange call token
  | .closeClassifyAndWait, some .prepared | .closeClassifyAndWait, some .opened =>
      .exchange call token
  | .closeClassifyAndWait, some .starting | .closeClassifyAndWait, some .classifyClosing
  | .closeClassifyAndWait, some .draining => .load call
  | .closeAllAndWait, some .prepared | .closeAllAndWait, some .opened
  | .closeAllAndWait, some .classifyClosed => .exchange call token
  | .closeAllAndWait, some .starting | .closeAllAndWait, some .classifyClosing
  | .closeAllAndWait, some .draining => .load call
  | _, _ => .idle

/-- The objects for which `close_all_and_wait` waits. -/
def objectsToDrain (previousPhase : Option BarrierPhase) : List RundownObject :=
  if previousPhase = some .prepared ∨ previousPhase = some .opened then
    [.classify, .flowDelete, .callbackLifetime]
  else [.flowDelete, .callbackLifetime]

def exchanged (system : BarrierSystem) (token : Nat) : LifecycleCall → BarrierSystem
  | .prepare =>
      { system with
        barrier := system.barrier.store (stateToken (stateGeneration token) .starting)
        lifecycle := .restart (stateGeneration token) [.callbackLifetime, .classify, .flowDelete] }
  | .activate =>
      { system with
        barrier := system.barrier.store (stateToken (stateGeneration token) .opened)
        lifecycle := .idle
        activated := system.activated ++ [stateGeneration token] }
  | .closeClassifyAndWait =>
      { system with
        barrier := system.barrier.store (stateToken (stateGeneration token) .classifyClosing)
        lifecycle := .wait .closeClassifyAndWait (stateGeneration token) [.classify] }
  | .closeAllAndWait =>
      { system with
        barrier := system.barrier.store (stateToken (stateGeneration token) .draining)
        lifecycle := .wait .closeAllAndWait (stateGeneration token)
          (objectsToDrain (statePhase token)) }

/-- A failed exchange looks again, except that `activate` gives up. -/
def retried : LifecycleCall → LifecycleThread
  | .activate => .idle
  | call => .load call

def finalPhase : LifecycleCall → BarrierPhase
  | .closeClassifyAndWait => .classifyClosed
  | _ => .closed

def lifecycleStep (system : BarrierSystem) : BarrierSystem :=
  match system.lifecycle with
  | .idle => system
  | .load call => { system with lifecycle := afterLoad call system.barrier.state }
  | .exchange call token =>
      if system.barrier.state = token then system.exchanged token call
      else { system with lifecycle := retried call }
  | .restart generation (object :: objects) =>
      { system with
        barrier := system.barrier.setRundown object (system.barrier.rundown object).restart
        lifecycle := .restart generation objects }
  | .restart generation [] =>
      -- `generation.wrapping_add(1) & GENERATION_MASK`
      { system with
        barrier := system.barrier.store (stateToken ((generation + 1) % 2 ^ 64) .prepared)
        lifecycle := .idle }
  | .wait call generation (object :: objects) =>
      { system with
        barrier := system.barrier.setRundown object (system.barrier.rundown object).beginWait
        lifecycle := .drain call generation object objects }
  | .wait call generation [] =>
      { system with
        barrier := system.barrier.store (stateToken generation (finalPhase call))
        lifecycle := .idle }
  | .drain call generation object objects =>
      if (system.barrier.rundown object).references = 0 then
        { system with lifecycle := .wait call generation objects }
      else system

end BarrierSystem

inductive BarrierStep where
  | enter (entry : CallbackEntry)
  | advance (caller : Nat)
  | call (call : LifecycleCall)
  | lifecycle

namespace BarrierSystem

/-- A lifecycle call starts when the one before has returned. -/
def step (system : BarrierSystem) : BarrierStep → BarrierSystem
  | .enter entry => { system with callers := system.callers ++ [.entering entry] }
  | .advance index =>
      match system.callers[index]? with
      | some caller =>
          let (caller, barrier) := caller.step system.barrier
          { system with
            barrier := barrier
            callers := system.callers.set index caller }
      | none => system
  | .call call =>
      match system.lifecycle with
      | .idle => { system with lifecycle := .load call }
      | _ => system
  | .lifecycle => system.lifecycleStep

def run (steps : List BarrierStep) : BarrierSystem := steps.foldl step new

def phase (system : BarrierSystem) : Option BarrierPhase := statePhase system.barrier.state

def generations (system : BarrierSystem) : Nat := system.barrier.callbackLifetime.epoch

end BarrierSystem

end WindowsKext
