import Std

/-! `filter_engine/mod.rs`, `transaction.rs` and `callout.rs`: the callouts and filters of the driver
beside what WFP holds of them. An operation is given the answers of WFP to its calls. Management
callouts and the sublayer belong to the session, and nothing reads them back. -/

namespace WindowsKext

inductive FilterType where
  | resettable
  | nonResettable
deriving DecidableEq

structure Callout where
  id : Nat
  name : String
  guid : Nat
  registered : Bool
  filterType : FilterType
  filterId : Nat
deriving DecidableEq

def Callout.new (name : String) (guid : Nat) (filterType : FilterType) : Callout where
  id := 0
  name := name
  guid := guid
  registered := false
  filterType := filterType
  filterId := 0

/-- A callout for `commit`. Outside the crate, callouts only come from `Callout::new`. -/
structure CalloutSpec where
  name : String
  guid : Nat
  filterType : FilterType

def CalloutSpec.callout (spec : CalloutSpec) : Callout :=
  Callout.new spec.name spec.guid spec.filterType

/-- A runtime callout of WFP, and the Box for which it was registered. A Box is named by its position in
the vector, which it never leaves. -/
structure RuntimeRegistration where
  box : Nat
  id : Nat
  key : Nat
deriving DecidableEq

/-- The calls that end something, with what they found: whether the session was still open, the
registration that they name, and whether WFP still had a registration of the freed Box. -/
inductive WfpCall where
  | close (sessionOpen closed : Bool)
  | unregister (sessionOpen : Bool) (target : Option RuntimeRegistration) (removed : Bool)
  | free (box : Nat) (held : Bool)
deriving DecidableEq

/-- Filters by id, with the Box in their context. -/
abbrev Filters := Nat → Option Nat

def Filters.set (filters : Filters) (id : Nat) (box : Option Nat) : Filters :=
  fun other => if other = id then box else filters other

/-- An open transaction has its own view of the filters. -/
structure WfpState where
  sessionOpen : Bool
  filters : Filters
  transaction : Option Filters
  runtime : List RuntimeRegistration
  calls : List WfpCall

inductive UnregisterAnswer where
  | removed
  | busy
  | failed (error : String)

/-- How WFP answers the calls of one operation. Each is made at most once for a Box. -/
structure WfpAnswers where
  begin : Except String Unit
  commit : Except String Unit
  sublayer : Except String Unit
  registerCallout : Nat → Except String Nat
  addCallout : Nat → Except String Unit
  addFilter : Nat → Except String Nat
  deleteFilter : Nat → Except String Unit
  close : Except String Unit
  unregisterCallout : Nat → UnregisterAnswer

namespace WfpState

/-- After `create_filter_engine`. -/
def new : WfpState where
  sessionOpen := true
  filters := fun _ => none
  transaction := none
  runtime := []
  calls := []

def record (wfp : WfpState) (call : WfpCall) : WfpState := { wfp with calls := wfp.calls ++ [call] }

def transactionBegin (answer : Except String Unit) (wfp : WfpState) : Except String Unit × WfpState :=
  if !wfp.sessionOpen then (.error "STATUS_INVALID_HANDLE", wfp)
  else if wfp.transaction.isSome then (.error "STATUS_FWP_TXN_IN_PROGRESS", wfp)
  else
    match answer with
    | .error error => (.error error, wfp)
    | .ok () => (.ok (), { wfp with transaction := some wfp.filters })

/-- `FwpmTransactionCommit0` applies the whole transaction. -/
def transactionCommit (answer : Except String Unit) (wfp : WfpState) : Except String Unit × WfpState :=
  match answer, wfp.transaction with
  | .error error, _ => (.error error, wfp)
  | .ok (), none => (.error "STATUS_FWP_NO_TXN_IN_PROGRESS", wfp)
  | .ok (), some filters => (.ok (), { wfp with filters := filters, transaction := none })

/-- `FwpmTransactionAbort0` applies nothing of it. -/
def transactionAbort (wfp : WfpState) : WfpState := { wfp with transaction := none }

def filterDelete (answer : Except String Unit) (id : Nat) (wfp : WfpState) :
    Except String Unit × WfpState :=
  match answer, wfp.transaction with
  | .error error, _ => (.error error, wfp)
  | .ok (), none => (.error "STATUS_FWP_NO_TXN_IN_PROGRESS", wfp)
  | .ok (), some filters =>
      if filters id = none then (.error "STATUS_FWP_FILTER_NOT_FOUND", wfp)
      else (.ok (), { wfp with transaction := some (filters.set id none) })

/-- `FwpmFilterAdd0`. The id of a filter that exists is not given to another one. -/
def filterAdd (answer : Except String Nat) (box : Nat) (wfp : WfpState) :
    Except String Nat × WfpState :=
  match answer, wfp.transaction with
  | .error error, _ => (.error error, wfp)
  | .ok _, none => (.error "STATUS_FWP_NO_TXN_IN_PROGRESS", wfp)
  | .ok id, some filters =>
      if filters id ≠ none then (.error "STATUS_FWP_ALREADY_EXISTS", wfp)
      else (.ok id, { wfp with transaction := some (filters.set id (some box)) })

/-- `FwpsCalloutRegister3`. A key is registered once, and a nonzero id belongs to one registration. -/
def calloutRegister (answer : Except String Nat) (box key : Nat) (wfp : WfpState) :
    Except String Nat × WfpState :=
  match answer with
  | .error error => (.error error, wfp)
  | .ok id =>
      if wfp.runtime.any fun registration =>
          registration.key == key || (id != 0 && registration.id == id) then
        (.error "STATUS_FWP_ALREADY_EXISTS", wfp)
      else (.ok id, { wfp with runtime := wfp.runtime ++ [{ box := box, id := id, key := key }] })

/-- The registration that `unregister_callout` names: by its id, or by its key when the id is 0. -/
def named (id key : Nat) (wfp : WfpState) : Option RuntimeRegistration :=
  wfp.runtime.find? fun registration =>
    if id != 0 then registration.id == id else registration.key == key

/-- `FwpmEngineClose0`. The end of a dynamic session removes its filters. -/
def engineClose (answer : Except String Unit) (wfp : WfpState) : Except String Unit × WfpState :=
  match answer with
  | .error error => (.error error, wfp.record (.close wfp.sessionOpen false))
  | .ok () =>
      (.ok (), { wfp.record (.close wfp.sessionOpen true) with
        sessionOpen := false
        filters := fun _ => none
        transaction := none })

/-- The end of the Boxes of a vector. -/
def freeBoxes (count : Nat) (wfp : WfpState) : WfpState :=
  let held (box : Nat) := wfp.runtime.any fun registration => registration.box == box
  { wfp with calls := wfp.calls ++ (List.range count).map (fun box => .free box (held box)) }

end WfpState

inductive UnregisterCalloutResult where
  | removed
  | busy
deriving DecidableEq

/-- `ffi::unregister_callout`: a registration that WFP does not know counts as removed. -/
def unregisterCallout (answer : UnregisterAnswer) (id key : Nat) (wfp : WfpState) :
    Except String UnregisterCalloutResult × WfpState :=
  match wfp.named id key, answer with
  | none, _ => (.ok .removed, wfp.record (.unregister wfp.sessionOpen none true))
  | some target, .removed =>
      (.ok .removed, { wfp.record (.unregister wfp.sessionOpen (some target) true) with
        runtime := wfp.runtime.filter fun other => other != target })
  | some target, .busy =>
      (.ok .busy, wfp.record (.unregister wfp.sessionOpen (some target) false))
  | some target, .failed error =>
      (.error error, wfp.record (.unregister wfp.sessionOpen (some target) false))

def registerFilter (answer : Except String Nat) (box : Nat) (wfp : WfpState) :
    Except String Nat × WfpState :=
  match wfp.filterAdd answer box with
  | (.error error, wfp) => (.error error, wfp)
  | (.ok 0, wfp) => (.error "WFP returned a zero filter ID", wfp)
  | (.ok id, wfp) => (.ok id, wfp)

namespace Callout

def registerFilter (callout : Callout) (answer : Except String Nat) (box : Nat) (wfp : WfpState) :
    Except String Unit × Callout × WfpState :=
  match WindowsKext.registerFilter answer box wfp with
  | (.ok id, wfp) => (.ok (), { callout with filterId := id }, wfp)
  | (.error error, wfp) => (.error ("failed to register filter: " ++ error), callout, wfp)

def registerRuntimeCallout (callout : Callout) (answer : Except String Nat) (box : Nat)
    (wfp : WfpState) : Except String Unit × Callout × WfpState :=
  match wfp.calloutRegister answer box callout.guid with
  | (.ok id, wfp) => (.ok (), { callout with registered := true, id := id }, wfp)
  | (.error error, wfp) => (.error ("failed to register callout: " ++ error), callout, wfp)

end Callout

/-- `handleValid` is false for a null or invalid session handle. -/
structure FilterEngine where
  handleValid : Bool
  committed : Bool
  callouts : Option (List Callout)

inductive UnregisterCalloutsResult where
  | complete
  | busy
deriving DecidableEq

namespace FilterEngine

def new : FilterEngine where
  handleValid := true
  committed := false
  callouts := none

def deleteOldFilter (answers : WfpAnswers) (box : Nat) (callout : Callout) (wfp : WfpState) :
    Except String Unit × WfpState :=
  if callout.filterId ≠ 0 then wfp.filterDelete (answers.deleteFilter box) callout.filterId
  else (.ok (), wfp)

def replaceFilter (answers : WfpAnswers) (box : Nat) (callout : Callout) (wfp : WfpState) :
    Except String Unit × Callout × WfpState :=
  match deleteOldFilter answers box callout wfp with
  | (.error error, wfp) => (.error ("filter_engine: " ++ error), callout, wfp)
  | (.ok (), wfp) =>
      match callout.registerFilter (answers.addFilter box) box wfp with
      | (.error error, callout, wfp) => (.error ("filter_engine: " ++ error), callout, wfp)
      | (.ok (), callout, wfp) => (.ok (), callout, wfp)

/-- One callout of the loop in `reset_all_filters`. -/
def resetFilter (answers : WfpAnswers) (box : Nat) (callout : Callout) (wfp : WfpState) :
    Except String Unit × Callout × WfpState :=
  match callout.filterType with
  | .nonResettable => (.ok (), callout, wfp)
  | .resettable => replaceFilter answers box callout wfp

/-- The loop of `reset_all_filters`, from the Box at a position on. -/
def resetFilters (answers : WfpAnswers) : Nat → List Callout → WfpState →
    Except String Unit × List Callout × WfpState
  | _, [], wfp => (.ok (), [], wfp)
  | box, callout :: rest, wfp =>
      match resetFilter answers box callout wfp with
      | (.error error, callout, wfp) => (.error error, callout :: rest, wfp)
      | (.ok (), callout, wfp) =>
          let (result, rest, wfp) := resetFilters answers (box + 1) rest wfp
          (result, callout :: rest, wfp)

def beginTransaction (answers : WfpAnswers) (wfp : WfpState) : Except String Unit × WfpState :=
  match wfp.transactionBegin answers.begin with
  | (.error error, wfp) => (.error ("filter-engine: failed to begin transaction: " ++ error), wfp)
  | (.ok (), wfp) => (.ok (), wfp)

def commitTransaction (answers : WfpAnswers) (wfp : WfpState) : Except String Unit × WfpState :=
  match wfp.transactionCommit answers.commit with
  | (.error error, wfp) => (.error ("filter-engine: failed to commit transaction: " ++ error), wfp)
  | (.ok (), wfp) => (.ok (), wfp)

/-- The loop and the commit of `reset_all_filters`. -/
def resetInTransaction (answers : WfpAnswers) (callouts : List Callout) (wfp : WfpState) :
    Except String Unit × List Callout × WfpState :=
  match resetFilters answers 0 callouts wfp with
  | (.error error, callouts, wfp) => (.error error, callouts, wfp)
  | (.ok (), callouts, wfp) =>
      let (result, wfp) := commitTransaction answers wfp
      (result, callouts, wfp)

def restoreFilterId (callout : Callout) (oldId : Nat) : Callout := { callout with filterId := oldId }

/-- Without callouts the loop has nothing to do. -/
def resetAllFilters (answers : WfpAnswers) (engine : FilterEngine) (wfp : WfpState) :
    Except String Unit × FilterEngine × WfpState :=
  match beginTransaction answers wfp with
  | (.error error, wfp) => (.error error, engine, wfp)
  | (.ok (), wfp) =>
      let oldFilterIds := (engine.callouts.getD []).map Callout.filterId
      match resetInTransaction answers (engine.callouts.getD []) wfp with
      | (.ok (), callouts, wfp) =>
          (.ok (), { engine with callouts := engine.callouts.map fun _ => callouts }, wfp)
      | (.error error, callouts, wfp) =>
          -- The IDs are restored before the guard's drop aborts the transaction.
          let restored := List.zipWith restoreFilterId callouts oldFilterIds
          (.error error, { engine with callouts := engine.callouts.map fun _ => restored },
            wfp.transactionAbort)

/-- The loop of `commit_inner`. A Box is in the vector before its first registration. -/
def registerCallouts (answers : WfpAnswers) : List CalloutSpec → List Callout → WfpState →
    Except String Unit × List Callout × WfpState
  | [], callouts, wfp => (.ok (), callouts, wfp)
  | spec :: rest, callouts, wfp =>
      let box := callouts.length
      match spec.callout.registerRuntimeCallout (answers.registerCallout box) box wfp with
      | (.error error, callout, wfp) => (.error error, callouts ++ [callout], wfp)
      | (.ok (), callout, wfp) =>
          match answers.addCallout box with
          | .error error =>
              (.error ("failed to register management callout: " ++ error), callouts ++ [callout], wfp)
          | .ok () =>
              match callout.registerFilter (answers.addFilter box) box wfp with
              | (.error error, callout, wfp) => (.error error, callouts ++ [callout], wfp)
              | (.ok (), callout, wfp) => registerCallouts answers rest (callouts ++ [callout]) wfp

/-- What `commit_inner` does inside its transaction. -/
def commitInTransaction (answers : WfpAnswers) (specs : List CalloutSpec) (wfp : WfpState) :
    Except String Unit × List Callout × WfpState :=
  match answers.sublayer with
  | .error error => (.error ("filter_engine: failed to register sublayer: " ++ error), [], wfp)
  | .ok () =>
      match registerCallouts answers specs [] wfp with
      | (.error error, callouts, wfp) => (.error error, callouts, wfp)
      | (.ok (), callouts, wfp) =>
          let (result, wfp) := commitTransaction answers wfp
          (result, callouts, wfp)

/-- The guard aborts what was not committed. -/
def commitInner (answers : WfpAnswers) (specs : List CalloutSpec) (wfp : WfpState) :
    Except String Unit × List Callout × WfpState :=
  match beginTransaction answers wfp with
  | (.error error, wfp) => (.error error, [], wfp)
  | (.ok (), wfp) =>
      match commitInTransaction answers specs wfp with
      | (.ok (), callouts, wfp) => (.ok (), callouts, wfp)
      | (.error error, callouts, wfp) => (.error error, callouts, wfp.transactionAbort)

/-- The loop of `unregister_runtime_callouts`, from the Box at a position on. -/
def unregisterCallouts (answers : WfpAnswers) : Nat → List Callout → WfpState →
    Except String UnregisterCalloutsResult × List Callout × WfpState
  | _, [], wfp => (.ok .complete, [], wfp)
  | box, callout :: rest, wfp =>
      if !callout.registered then
        let (result, rest, wfp) := unregisterCallouts answers (box + 1) rest wfp
        (result, callout :: rest, wfp)
      else
        match unregisterCallout (answers.unregisterCallout box) callout.id callout.guid wfp with
        | (.error error, wfp) =>
            (.error ("failed to unregister callout " ++ callout.name ++ ": " ++ error),
              callout :: rest, wfp)
        | (.ok .busy, wfp) => (.ok .busy, callout :: rest, wfp)
        | (.ok .removed, wfp) =>
            let (result, rest, wfp) := unregisterCallouts answers (box + 1) rest wfp
            (result, { callout with registered := false, id := 0 } :: rest, wfp)

def unregisterRuntimeCallouts (answers : WfpAnswers) (engine : FilterEngine) (wfp : WfpState) :
    Except String UnregisterCalloutsResult × FilterEngine × WfpState :=
  match engine.callouts with
  | none => (.ok .complete, engine, wfp)
  | some callouts =>
      let (result, callouts, wfp) := unregisterCallouts answers 0 callouts wfp
      (result, { engine with callouts := some callouts }, wfp)

def closeDynamicSession (answers : WfpAnswers) (engine : FilterEngine) (wfp : WfpState) :
    Except String Unit × FilterEngine × WfpState :=
  if !engine.handleValid then (.ok (), engine, wfp)
  else
    match wfp.engineClose answers.close with
    | (.error error, wfp) => (.error ("failed to close filter engine: " ++ error), engine, wfp)
    | (.ok (), wfp) =>
        (.ok (),
          { handleValid := false
            committed := false
            callouts := engine.callouts.map (List.map fun callout => { callout with filterId := 0 }) },
          wfp)

def unregisterAll (answers : WfpAnswers) (engine : FilterEngine) (wfp : WfpState) :
    Except String UnregisterCalloutsResult × FilterEngine × WfpState :=
  match closeDynamicSession answers engine wfp with
  | (.error error, engine, wfp) => (.error error, engine, wfp)
  | (.ok (), engine, wfp) => unregisterRuntimeCallouts answers engine wfp

end FilterEngine

/-- The caller of `rollback_until_clean`. -/
inductive Rollback where
  | commit
  | drop
deriving DecidableEq

/-- The engine, until it is dropped, and the loop of `rollback_until_clean` that has it. -/
structure EngineSystem where
  engine : Option FilterEngine
  wfp : WfpState
  rollback : Option Rollback

/-- A call, or one more turn of the loop. -/
inductive EngineStep where
  | commit (specs : List CalloutSpec) (answers : WfpAnswers)
  | resetAllFilters (answers : WfpAnswers)
  | unregisterAll (answers : WfpAnswers)
  | drop
  | retry (answers : WfpAnswers)

namespace EngineSystem

def new : EngineSystem where
  engine := some .new
  wfp := .new
  rollback := none

/-- `commit`, up to the loop that follows an error of `commit_inner`. -/
def commit (specs : List CalloutSpec) (answers : WfpAnswers) (engine : FilterEngine)
    (wfp : WfpState) : EngineSystem :=
  if engine.committed || engine.callouts.isSome || !engine.handleValid then
    { engine := some engine, wfp := wfp, rollback := none }
  else
    match FilterEngine.commitInner answers specs wfp with
    | (.ok (), callouts, wfp) =>
        { engine := some { engine with committed := true, callouts := some callouts }
          wfp := wfp
          rollback := none }
    | (.error _, callouts, wfp) =>
        { engine := some { engine with callouts := some callouts }
          wfp := wfp
          rollback := some .commit }

/-- The loop ends when everything is gone. Only then are the Boxes freed. -/
def retry (answers : WfpAnswers) (rollback : Rollback) (engine : FilterEngine) (wfp : WfpState) :
    EngineSystem :=
  match engine.unregisterAll answers wfp, rollback with
  | (.ok .complete, engine, wfp), .commit =>
      { engine := some { engine with callouts := none }
        wfp := wfp.freeBoxes (engine.callouts.getD []).length
        rollback := none }
  | (.ok .complete, engine, wfp), .drop =>
      { engine := none
        wfp := wfp.freeBoxes (engine.callouts.getD []).length
        rollback := none }
  | (_, engine, wfp), rollback =>
      { engine := some engine, wfp := wfp, rollback := some rollback }

/-- The engine is borrowed by the loop, so no call is made before it ends. -/
def step (system : EngineSystem) (step : EngineStep) : EngineSystem :=
  match system.engine, system.rollback, step with
  | some engine, none, .commit specs answers => commit specs answers engine system.wfp
  | some engine, none, .resetAllFilters answers =>
      let (_, engine, wfp) := engine.resetAllFilters answers system.wfp
      { engine := some engine, wfp := wfp, rollback := none }
  | some engine, none, .unregisterAll answers =>
      let (_, engine, wfp) := engine.unregisterAll answers system.wfp
      { engine := some engine, wfp := wfp, rollback := none }
  | some engine, none, .drop =>
      { engine := some engine, wfp := system.wfp, rollback := some .drop }
  | some engine, some rollback, .retry answers => retry answers rollback engine system.wfp
  | _, _, _ => system

def run (steps : List EngineStep) : EngineSystem := steps.foldl step new

end EngineSystem

end WindowsKext
