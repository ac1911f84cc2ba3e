import Mathlib.Algebra.GroupWithZero.Nat

/-! `ProcessSuspensions.cpp`: one native suspend for each process generation, shared by the delayed
verdicts of the process. The mutex makes every call one step. What the operating system answers is
an argument of the call. -/

namespace WindowsKext

/-- `pending` is a `size_t`. -/
structure SuspensionEntry where
  pid : Nat
  handle : Nat
  pending : Nat
deriving DecidableEq

structure ProcessSuspensions where
  entries : Std.TreeMap Nat SuspensionEntry
  current : Std.TreeMap Nat Nat
  nextGeneration : Nat
  stopping : Bool

/-- Who asked for a resume. -/
inductive ResumeCause where
  | release
  | resumeAll
deriving DecidableEq

/-- What the calls do. A resume and a close are about the handle of a generation. -/
inductive SuspensionEvent where
  | suspended (generation pid handle : Nat)
  | acquired (generation : Nat)
  | released (generation : Nat)
  | resumed (generation handle : Nat) (cause : ResumeCause) (succeeded : Bool)
  | closed (generation handle : Nat)
  | stopped
  | destroyed
deriving DecidableEq

/-- How `operations_.suspend` ends. `threw` stands for an exception of the backend or of one of the
two allocations before it, which all undo the new entry. -/
inductive SuspendOutcome where
  | suspended (handle : Nat)
  | failed (error : String)
  | threw
deriving DecidableEq

inductive AcquireError where
  | refused (error : String)
  | threw
deriving DecidableEq

namespace ProcessSuspensions

def maxDword : Nat := 0xFFFFFFFF

def new : ProcessSuspensions where
  entries := ∅
  current := ∅
  nextGeneration := 1
  stopping := false

def forgetCurrent (suspensions : ProcessSuspensions) (pid generation : Nat) : ProcessSuspensions :=
  if suspensions.current[pid]? = some generation then
    { suspensions with current := suspensions.current.erase pid }
  else suspensions

/-- The part of `Acquire` that starts a generation. -/
def acquireNew (suspensions : ProcessSuspensions) (pid : Nat) (outcome : SuspendOutcome) :
    Except AcquireError Nat × List SuspensionEvent × ProcessSuspensions :=
  if suspensions.nextGeneration = 0 then
    (.error (.refused "process suspension generation counter exhausted"), [], suspensions)
  else
    let generation := suspensions.nextGeneration
    let started := { suspensions with
      entries := suspensions.entries.insertIfNew generation { pid := pid, handle := 0, pending := 0 }
      current := suspensions.current.insertIfNew pid generation
      nextGeneration := (generation + 1) % 2 ^ 64 }
    let forgotten := started.forgetCurrent pid generation
    let undone := { forgotten with entries := forgotten.entries.erase generation }
    match outcome with
    | .threw => (.error .threw, [], undone)
    | .failed error => (.error (.refused error), [], undone)
    | .suspended handle =>
        (.ok generation, [.suspended generation pid handle, .acquired generation],
          { started with
            entries := started.entries.insert generation
              { pid := pid, handle := handle, pending := 1 } })

/-- `alive` is what `is_alive` says of the retained handle, and true without such an operation. -/
def acquire (suspensions : ProcessSuspensions) (currentProcessId pid : Nat) (alive : Bool)
    (outcome : SuspendOutcome) :
    Except AcquireError Nat × List SuspensionEvent × ProcessSuspensions :=
  if pid = 0 ∨ pid = 4 ∨ pid > maxDword ∨ pid = currentProcessId then
    (.error (.refused "unknown/system PID or the monitor itself cannot be suspended"), [],
      suspensions)
  else if suspensions.stopping then (.error (.refused "monitor is stopping"), [], suspensions)
  else
    match suspensions.current[pid]? with
    | none => acquireNew suspensions pid outcome
    | some generation =>
        match suspensions.entries[generation]? with
        -- `entries_.at` throws
        | none => (.error .threw, [], suspensions)
        | some entry =>
            if alive then
              (.ok generation, [.acquired generation],
                { suspensions with
                  entries := suspensions.entries.insert generation
                    { entry with pending := (entry.pending + 1) % 2 ^ 64 } })
            else
              acquireNew { suspensions with current := suspensions.current.erase pid } pid outcome

/-- One resume. A successful one closes the handle and forgets the generation. -/
def resumeEntry (suspensions : ProcessSuspensions) (generation : Nat) (entry : SuspensionEntry)
    (cause : ResumeCause) (resumes : Bool) : List SuspensionEvent × ProcessSuspensions :=
  if resumes then
    let forgotten := suspensions.forgetCurrent entry.pid generation
    ([.resumed generation entry.handle cause true, .closed generation entry.handle],
      { forgotten with entries := forgotten.entries.erase generation })
  else ([.resumed generation entry.handle cause false], suspensions)

structure ReleaseResult where
  ok : Bool
  resumed : Bool
deriving DecidableEq

def release (suspensions : ProcessSuspensions) (generation : Nat) (resumes : Bool) :
    ReleaseResult × List SuspensionEvent × ProcessSuspensions :=
  match suspensions.entries[generation]? with
  | none => ({ ok := true, resumed := false }, [.released generation], suspensions)
  | some entry =>
      let entry := { entry with pending := entry.pending - 1 }
      let suspensions :=
        { suspensions with entries := suspensions.entries.insert generation entry }
      if entry.pending ≠ 0 then
        ({ ok := true, resumed := false }, [.released generation], suspensions)
      else
        let result := suspensions.resumeEntry generation entry .release resumes
        ({ ok := resumes, resumed := resumes }, .released generation :: result.1, result.2)

/-- The loop of `ResumeAll`, in the order of the generations. -/
def resumeEntries (resumes : Nat → Bool) :
    List (Nat × SuspensionEntry) → ProcessSuspensions → List SuspensionEvent × ProcessSuspensions
  | [], suspensions => ([], suspensions)
  | (generation, entry) :: rest, suspensions =>
      let first := suspensions.resumeEntry generation entry .resumeAll (resumes generation)
      let later := resumeEntries resumes rest first.2
      (first.1 ++ later.1, later.2)

def resumeAll (suspensions : ProcessSuspensions) (resumes : Nat → Bool) :
    Bool × List SuspensionEvent × ProcessSuspensions :=
  let result := resumeEntries resumes suspensions.entries.toList { suspensions with stopping := true }
  (suspensions.entries.toList.all fun (generation, _) => resumes generation,
    .stopped :: result.1, result.2)

def destroy (suspensions : ProcessSuspensions) (resumes : Nat → Bool) :
    List SuspensionEvent × ProcessSuspensions :=
  let (_, events, suspensions) := suspensions.resumeAll resumes
  (events ++ .destroyed :: suspensions.entries.toList.map fun (generation, entry) =>
    .closed generation entry.handle, suspensions)

end ProcessSuspensions

end WindowsKext
