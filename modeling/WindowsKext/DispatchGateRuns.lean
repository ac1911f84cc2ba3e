import Mathlib.Data.List.Infix
import WindowsKext.DispatchGateCore

/-! What holds in every order of the gate's steps. The counters count guards, the busy flag counts the
dispatches between the two ends of a session transition, and only such a dispatch changes the owner or
opens read admission. So what CLEANUP has established stays until it gives the session back. -/

namespace WindowsKext

open Rundown

namespace DispatchWork

def inSession : DispatchWork → Bool
  | .checkUnloading | .claimOwner | .storePid | .resetCancellation | .openReads | .complete
  | .checkOwner | .clearLeftover | .releaseOwner | .clearPid | .releaseSession => true
  | .closeReads caller | .cancelWaiters caller | .waitForReads caller => caller == .cleanup
  | _ => false

def usesDevice : DispatchWork → Bool
  | .checks | .finished => false
  | _ => true

def forOwner : DispatchWork → Bool
  | .storePid | .resetCancellation | .openReads | .complete | .clearLeftover | .releaseOwner => true
  | .closeReads caller | .cancelWaiters caller | .waitForReads caller => caller == .cleanup
  | _ => false

def readsShut : DispatchWork → Bool
  | .clearLeftover | .releaseOwner => true
  | .cancelWaiters caller | .waitForReads caller => caller == .cleanup
  | _ => false

def readsDrained : DispatchWork → Bool
  | .clearLeftover | .releaseOwner => true
  | _ => false

def fits : DispatchRequest → DispatchWork → Bool
  | _, .checks | _, .finished => true
  | .create _ _, .acquireSession | .create _ _, .checkUnloading | .create _ _, .claimOwner
  | .create _ _, .storePid | .create _ _, .resetCancellation | .create _ _, .openReads
  | .create _ _, .complete | .create _ _, .releaseSession => true
  | .cleanup _, .acquireSession | .cleanup _, .checkOwner | .cleanup _, .clearLeftover
  | .cleanup _, .releaseOwner | .cleanup _, .clearPid | .cleanup _, .releaseSession => true
  | .cleanup _, .closeReads caller | .cleanup _, .cancelWaiters caller
  | .cleanup _, .waitForReads caller => caller == .cleanup
  | .read _, .serve | .command, .serve => true
  | .command, .closeReads caller | .command, .cancelWaiters caller
  | .command, .waitForReads caller => caller == .shutdown
  | _, _ => false

end DispatchWork

namespace Dispatch

def admitted (dispatch : Dispatch) : Bool :=
  match dispatch.stage with
  | .working _ | .uncounted => true
  | _ => false

def halfDropped (dispatch : Dispatch) : Bool := dispatch.stage == .uncounted

def counted (isRead : Bool) (dispatch : Dispatch) : Bool :=
  match dispatch.stage with
  | .working _ => dispatch.request.isRead == isRead
  | _ => false

def holdsSession (dispatch : Dispatch) : Bool :=
  match dispatch.stage with
  | .working work => work.inSession
  | _ => false

def usesDevice (dispatch : Dispatch) : Bool :=
  match dispatch.stage with
  | .working work => work.usesDevice
  | _ => false

end Dispatch

structure WorkSound (shared : GateShared) (request : DispatchRequest) (work : DispatchWork) : Prop where
  fits : work.fits request = true
  owner : work.forOwner = true →
    shared.device.ownerFileObject = request.fileObject ∧ request.fileObject ≠ 0
  shut : work.readsShut = true → shared.gate.readsClosed = true
  drained : work.readsDrained = true → shared.gate.reads = 0
  cleared : work = .releaseOwner → shared.device.leftover = none

def DispatchSound (shared : GateShared) (dispatch : Dispatch) : Prop :=
  ∀ work, dispatch.stage = .working work → WorkSound shared dispatch.request work

/-- No read runs and none is to come, and the next session starts at a record boundary. -/
structure SessionQuiet (shared : GateShared) : Prop where
  drained : shared.gate.reads = 0
  cleared : shared.device.leftover = none
  shut : shared.gate.readsClosed = true ∨ shared.created = []

def DriverPhase.Closed : DriverPhase → Prop
  | .tearingDown tasks => TeardownTask.close ∉ tasks
  | .unloaded => True
  | _ => False

/-- `close` and every wait for counted dispatches have returned, and `reopen` has not begun. -/
def DriverPhase.Drained : DriverPhase → Prop
  | .tearingDown tasks => TeardownTask.close ∉ tasks ∧ TeardownTask.waitForNonRead ∉ tasks ∧
      TeardownTask.waitForReads ∉ tasks ∧ TeardownTask.waitForAll ∉ tasks
  | .unloaded => True
  | _ => False

def SessionsExact (shared : GateShared) : Prop :=
  shared.sessions = if shared.device.ownerFileObject = 0 then [] else [shared.device.ownerFileObject]

def DriverSound (shared : GateShared) : DriverPhase → Prop
  | .neverLoaded => shared.published = false
  | .reopening | .reinitialized | .opened => shared.published = false ∧ shared.created = []
  | .started => True
  | .tearingDown tasks => (∃ call : DriverCall, tasks <:+ call.teardown) ∧
      (TeardownTask.close ∉ tasks → shared.gate.unloading = true) ∧
      (TeardownTask.waitForAll ∉ tasks → shared.gate.active = 0) ∧
      (shared.published = true → TeardownTask.reclaim ∈ tasks)
  | .unloaded => shared.gate.unloading = true ∧ shared.gate.active = 0 ∧ shared.published = false

def DispatchGate.count (gate : DispatchGate) (isRead : Bool) : Nat :=
  if isRead then gate.reads else gate.nonRead

structure GateSound (system : GateSystem) : Prop where
  active : system.shared.gate.active = system.dispatches.countP Dispatch.admitted
  counts : ∀ isRead, system.shared.gate.count isRead =
    system.dispatches.countP (Dispatch.counted isRead)
  session : system.shared.gate.sessionBusy.toNat = system.dispatches.countP Dispatch.holdsSession
  unpublished : system.shared.published = false →
    ∀ dispatch ∈ system.dispatches, dispatch.usesDevice = false
  dispatches : ∀ dispatch ∈ system.dispatches, DispatchSound system.shared dispatch
  quiet : system.shared.device.ownerFileObject = 0 → SessionQuiet system.shared
  sessions : SessionsExact system.shared
  driver : DriverSound system.shared system.driver

section Work

variable (request : DispatchRequest) (input : DispatchInput) (shared : GateShared)
  (work : DispatchWork)

structure Uncounted (before after : GateShared) : Prop where
  active : after.gate.active = before.gate.active
  reads : after.gate.reads = before.gate.reads
  nonRead : after.gate.nonRead = before.gate.nonRead
  unloading : after.gate.unloading = before.gate.unloading
  published : after.published = before.published

theorem DispatchWork.step_uncounted : Uncounted shared (work.step request input shared).2 := by
  cases work with
  | checks => cases input <;> exact ⟨rfl, rfl, rfl, rfl, rfl⟩
  | acquireSession =>
      simp only [step]
      split <;> exact ⟨rfl, rfl, rfl, rfl, rfl⟩
  | claimOwner =>
      simp only [step]
      split <;> exact ⟨rfl, rfl, rfl, rfl, rfl⟩
  | releaseOwner =>
      simp only [step]
      split <;> exact ⟨rfl, rfl, rfl, rfl, rfl⟩
  | serve => cases request <;> cases input <;> exact ⟨rfl, rfl, rfl, rfl, rfl⟩
  | _ => exact ⟨rfl, rfl, rfl, rfl, rfl⟩

theorem DispatchWork.step_session (held : work.inSession.toNat ≤ shared.gate.sessionBusy.toNat) :
    (work.step request input shared).2.gate.sessionBusy.toNat + work.inSession.toNat =
      shared.gate.sessionBusy.toNat + (work.step request input shared).1.inSession.toNat := by
  cases work with
  | checks =>
      cases input with
      | fail => rfl
      | _ =>
          simp only [step]
          split
          · cases request <;> rfl
          · rfl
  | acquireSession =>
      cases busy : shared.gate.sessionBusy with
      | true => simp [step, busy]
      | false => cases request <;> simp [step, busy, inSession, DispatchRequest.afterSession]
  | checkUnloading =>
      simp only [step]
      split <;> rfl
  | claimOwner =>
      simp only [step]
      split <;> rfl
  | checkOwner =>
      simp only [step]
      split <;> rfl
  | waitForReads caller =>
      simp only [step]
      split
      · cases caller <;> rfl
      · rfl
  | releaseOwner =>
      simp only [step]
      split <;> rfl
  | releaseSession =>
      cases busy : shared.gate.sessionBusy with
      | true => rfl
      | false => simp [busy, inSession] at held
  | serve => cases request <;> cases input <;> rfl
  | _ => rfl

theorem DispatchWork.step_fits (fits : work.fits request = true) :
    (work.step request input shared).1.fits request = true := by
  cases work with
  | checks =>
      cases input with
      | fail => rfl
      | _ =>
          simp only [step]
          split
          · cases request <;> rfl
          · rfl
  | acquireSession =>
      simp only [step]
      split
      · exact fits
      · cases request <;> first | rfl | cases fits
  | checkUnloading =>
      simp only [step]
      cases request <;> split <;> first | rfl | cases fits
  | claimOwner =>
      simp only [step]
      cases request <;> split <;> first | rfl | cases fits
  | checkOwner =>
      simp only [step]
      cases request <;> split <;> first | rfl | cases fits
  | waitForReads caller =>
      simp only [step]
      split
      · cases request <;> cases caller <;> first | rfl | cases fits
      · exact fits
  | releaseOwner =>
      simp only [step]
      cases request <;> split <;> first | rfl | cases fits
  | serve => cases request <;> cases input <;> rfl
  | finished => rfl
  | _ => cases request <;> first | exact fits | rfl

/-- What a step outside the session leaves to the dispatch that holds it. -/
structure Rely (before after : GateShared) : Prop where
  owner : after.device.ownerFileObject = before.device.ownerFileObject
  shut : before.gate.readsClosed = true → after.gate.readsClosed = true
  drained : before.gate.readsClosed = true → before.gate.reads = 0 → after.gate.reads = 0
  cleared : before.gate.reads = 0 → before.device.leftover = none → after.device.leftover = none
  created : after.created = before.created
  sessions : after.sessions = before.sessions

theorem Rely.refl : Rely shared shared := ⟨rfl, id, fun _ => id, fun _ => id, rfl, rfl⟩

theorem DispatchWork.step_rely (outside : work.inSession = false)
    (running : request.isRead = true → 0 < shared.gate.reads) :
    Rely shared (work.step request input shared).2 := by
  cases work with
  | checks => cases input <;> exact .refl shared
  | acquireSession =>
      simp only [step]
      split
      · exact .refl shared
      · exact ⟨rfl, id, fun _ => id, fun _ => id, rfl, rfl⟩
  | closeReads caller => exact ⟨rfl, fun _ => rfl, fun _ => id, fun _ => id, rfl, rfl⟩
  | cancelWaiters caller => exact ⟨rfl, id, fun _ => id, fun _ => id, rfl, rfl⟩
  | waitForReads caller => exact .refl shared
  | serve =>
      cases request with
      | read fileObject =>
          cases input with
          | stream leftover =>
              refine ⟨rfl, id, fun _ => id, ?_, rfl, rfl⟩
              intro drained
              exact absurd (running rfl) (by omega)
          | _ => exact .refl shared
      | command => cases input <;> exact .refl shared
      | _ => exact .refl shared
  | finished => exact .refl shared
  | _ => cases outside

end Work

section Session

variable {request : DispatchRequest} {input : DispatchInput} {shared after : GateShared}
  {work : DispatchWork}

theorem DispatchWork.forOwner_of_readsShut (shut : work.readsShut = true) : work.forOwner = true := by
  cases work <;> first | exact shut | cases shut

theorem DispatchWork.readsShut_of_readsDrained (drained : work.readsDrained = true) :
    work.readsShut = true := by
  cases work <;> first | rfl | cases drained

theorem WorkSound.of_not_forOwner (fits : work.fits request = true)
    (free : work.forOwner = false) : WorkSound shared request work := by
  have notShut : work.readsShut ≠ true := by
    intro shut
    rw [DispatchWork.forOwner_of_readsShut shut] at free
    cases free
  refine ⟨fits, ?_, ?_, ?_, ?_⟩
  · intro owns
    rw [owns] at free
    cases free
  · intro shut
    exact absurd shut notShut
  · intro drained
    exact absurd (DispatchWork.readsShut_of_readsDrained drained) notShut
  · rintro rfl
    cases free

theorem WorkSound.rely (sound : WorkSound shared request work) (rely : Rely shared after) :
    WorkSound after request work := by
  refine ⟨sound.fits, ?_, ?_, ?_, ?_⟩
  · intro owns
    rw [rely.owner]
    exact sound.owner owns
  · intro shut
    exact rely.shut (sound.shut shut)
  · intro drained
    exact rely.drained (sound.shut (DispatchWork.readsShut_of_readsDrained drained))
      (sound.drained drained)
  · rintro rfl
    exact rely.cleared (sound.drained rfl) (sound.cleared rfl)

theorem WorkSound.step (sound : WorkSound shared request work) :
    WorkSound (work.step request input shared).2 request (work.step request input shared).1 := by
  have fits := DispatchWork.step_fits request input shared work sound.fits
  cases work with
  | claimOwner =>
      by_cases refused : request.fileObject = 0 ∨ shared.device.ownerFileObject ≠ 0
      · simp only [DispatchWork.step, if_pos refused] at fits ⊢
        exact .of_not_forOwner fits rfl
      · simp only [DispatchWork.step, if_neg refused] at fits ⊢
        refine ⟨fits, fun _ => ⟨rfl, fun null => refused (.inl null)⟩, ?_, ?_, ?_⟩
        · intro shut
          cases shut
        · intro drained
          cases drained
        · intro last
          cases last
  | checkOwner =>
      by_cases owns : request.fileObject ≠ 0 ∧ shared.device.ownerFileObject = request.fileObject
      · simp only [DispatchWork.step, if_pos owns] at fits ⊢
        refine ⟨fits, fun _ => ⟨owns.2, owns.1⟩, ?_, ?_, ?_⟩
        · intro shut
          cases shut
        · intro drained
          cases drained
        · intro last
          cases last
      · simp only [DispatchWork.step, if_neg owns] at fits ⊢
        exact .of_not_forOwner fits rfl
  | closeReads caller =>
      refine ⟨fits, sound.owner, fun _ => rfl, ?_, ?_⟩
      · intro drained
        cases drained
      · intro last
        cases last
  | waitForReads caller =>
      by_cases drained : shared.gate.reads = 0
      · simp only [DispatchWork.step, if_pos drained] at fits ⊢
        cases caller with
        | shutdown => exact .of_not_forOwner fits rfl
        | cleanup =>
            refine ⟨fits, sound.owner, sound.shut, fun _ => drained, ?_⟩
            intro last
            cases last
      · simp only [DispatchWork.step, if_neg drained]
        exact sound
  | clearLeftover => exact ⟨fits, sound.owner, sound.shut, sound.drained, fun _ => rfl⟩
  | storePid =>
      refine ⟨fits, sound.owner, sound.shut, sound.drained, ?_⟩
      intro last
      cases last
  | resetCancellation =>
      refine ⟨fits, sound.owner, sound.shut, sound.drained, ?_⟩
      intro last
      cases last
  | openReads =>
      refine ⟨fits, sound.owner, ?_, sound.drained, ?_⟩
      · intro shut
        cases shut
      · intro last
        cases last
  | cancelWaiters caller =>
      refine ⟨fits, sound.owner, sound.shut, sound.drained, ?_⟩
      intro last
      cases last
  | checks =>
      refine .of_not_forOwner fits ?_
      cases input with
      | fail => rfl
      | _ =>
          simp only [DispatchWork.step]
          split
          · cases request <;> rfl
          · rfl
  | acquireSession =>
      refine .of_not_forOwner fits ?_
      simp only [DispatchWork.step]
      split
      · rfl
      · cases request <;> rfl
  | checkUnloading =>
      refine .of_not_forOwner fits ?_
      simp only [DispatchWork.step]
      split <;> rfl
  | releaseOwner =>
      refine .of_not_forOwner fits ?_
      simp only [DispatchWork.step]
      split <;> rfl
  | serve =>
      refine .of_not_forOwner fits ?_
      cases request <;> cases input <;> rfl
  | complete => exact .of_not_forOwner fits rfl
  | clearPid => exact .of_not_forOwner fits rfl
  | releaseSession => exact .of_not_forOwner fits rfl
  | finished => exact .of_not_forOwner fits rfl

/-- A step inside the session leaves no owner only when no read is left either. -/
theorem WorkSound.quiet (sound : WorkSound shared request work) (inside : work.inSession = true)
    (quiet : shared.device.ownerFileObject = 0 → SessionQuiet shared)
    (vacant : (work.step request input shared).2.device.ownerFileObject = 0) :
    SessionQuiet (work.step request input shared).2 := by
  cases work with
  | claimOwner =>
      by_cases refused : request.fileObject = 0 ∨ shared.device.ownerFileObject ≠ 0
      · simp only [DispatchWork.step, if_pos refused] at vacant ⊢
        exact quiet vacant
      · simp only [DispatchWork.step, if_neg refused] at vacant
        exact absurd (.inl vacant) refused
  | openReads =>
      obtain ⟨owns, known⟩ := sound.owner rfl
      exact absurd (owns.symm.trans vacant) known
  | complete =>
      obtain ⟨owns, known⟩ := sound.owner rfl
      exact absurd (owns.symm.trans vacant) known
  | releaseOwner =>
      obtain ⟨owns, _⟩ := sound.owner rfl
      simp only [DispatchWork.step, if_pos owns]
      exact ⟨sound.drained rfl, sound.cleared rfl, .inl (sound.shut rfl)⟩
  | closeReads caller => exact ⟨(quiet vacant).drained, (quiet vacant).cleared, .inl rfl⟩
  | clearLeftover => exact ⟨(quiet vacant).drained, rfl, (quiet vacant).shut⟩
  | acquireSession => cases inside
  | checks => cases inside
  | serve => cases inside
  | finished => cases inside
  | _ => exact ⟨(quiet vacant).drained, (quiet vacant).cleared, (quiet vacant).shut⟩

theorem WorkSound.sessions (sound : WorkSound shared request work) (inside : work.inSession = true)
    (exact : SessionsExact shared) : SessionsExact (work.step request input shared).2 := by
  cases work with
  | claimOwner =>
      by_cases refused : request.fileObject = 0 ∨ shared.device.ownerFileObject ≠ 0
      · simp only [DispatchWork.step, if_pos refused]
        exact exact
      · obtain ⟨known, vacant⟩ := not_or.mp refused
        rw [SessionsExact, if_pos (Decidable.not_not.mp vacant)] at exact
        simp only [DispatchWork.step, if_neg refused, SessionsExact, exact, if_neg known]
        rfl
  | releaseOwner =>
      obtain ⟨owns, known⟩ := sound.owner rfl
      rw [SessionsExact, owns, if_neg known] at exact
      simp only [DispatchWork.step, if_pos owns, SessionsExact, exact, List.erase_cons_head,
        if_pos]
  | acquireSession => cases inside
  | checks => cases inside
  | serve => cases inside
  | finished => cases inside
  | _ => exact exact

end Session

section Stage

variable {dispatch : Dispatch} {input : DispatchInput} {shared : GateShared}

theorem Dispatch.step_working {request : DispatchRequest} {work : DispatchWork}
    (unfinished : work ≠ .finished) :
    (Dispatch.mk request (.working work)).step input shared =
      (⟨request, .working (work.step request input shared).1⟩,
        (work.step request input shared).2) := by
  cases work with
  | finished => exact absurd rfl unfinished
  | _ => rfl

def DispatchStage.idle : DispatchStage → Bool
  | .working _ | .uncounted => false
  | _ => true

inductive DispatchMove (input : DispatchInput) (shared : GateShared) :
    Dispatch → Dispatch → GateShared → Prop where
  | aside {request : DispatchRequest} {stage next : DispatchStage} {ref : Rundown.Ref}
      (before : stage.idle = true) (after : next.idle = true) :
      DispatchMove input shared ⟨request, stage⟩ ⟨request, next⟩
        { shared with gate := { shared.gate with dispatchLifetime := ref } }
  | enter {request : DispatchRequest} (admits : shared.gate.admits request.isRead = true) :
      DispatchMove input shared ⟨request, .pinned⟩ ⟨request, .working .checks⟩
        { shared with gate := shared.gate.enter request.isRead }
  | work {request : DispatchRequest} {work : DispatchWork} (unfinished : work ≠ .finished) :
      DispatchMove input shared ⟨request, .working work⟩
        ⟨request, .working (work.step request input shared).1⟩ (work.step request input shared).2
  | uncount {request : DispatchRequest} :
      DispatchMove input shared ⟨request, .working .finished⟩ ⟨request, .uncounted⟩
        { shared with gate := shared.gate.uncount request.isRead }
  | deactivate {request : DispatchRequest} :
      DispatchMove input shared ⟨request, .uncounted⟩ ⟨request, .unpinning⟩
        { shared with gate := shared.gate.deactivate }

theorem Dispatch.step_move (dispatch : Dispatch) (input : DispatchInput) (shared : GateShared) :
    DispatchMove input shared dispatch (dispatch.step input shared).1
      (dispatch.step input shared).2 := by
  obtain ⟨request, stage⟩ := dispatch
  cases stage with
  | arrived =>
      refine @DispatchMove.aside input shared request .arrived _ shared.gate.dispatchLifetime rfl ?_
      split <;> rfl
  | initialized =>
      refine .aside rfl ?_
      split <;> rfl
  | pinned =>
      by_cases admits : shared.gate.admits request.isRead = true
      · simp only [Dispatch.step, DispatchStage.step, if_pos admits]
        exact .enter admits
      · simp only [Dispatch.step, DispatchStage.step, if_neg admits]
        exact @DispatchMove.aside input shared request _ _ shared.gate.dispatchLifetime rfl rfl
  | working work =>
      by_cases finished : work = .finished
      · subst finished
        exact .uncount
      · rw [step_working finished]
        exact .work finished
  | uncounted => exact .deactivate
  | unpinning => exact .aside rfl rfl
  | returned =>
      exact @DispatchMove.aside input shared request _ _ shared.gate.dispatchLifetime rfl rfl

theorem DispatchStage.idle_flags {request : DispatchRequest} {stage : DispatchStage}
    (idle : stage.idle = true) :
    (Dispatch.mk request stage).admitted = false ∧
      (∀ isRead, (Dispatch.mk request stage).counted isRead = false) ∧
      (Dispatch.mk request stage).holdsSession = false ∧
      (Dispatch.mk request stage).usesDevice = false := by
  cases stage with
  | working work => cases idle
  | uncounted => cases idle
  | _ => exact ⟨rfl, fun _ => rfl, rfl, rfl⟩

theorem Dispatch.step_active (enough : dispatch.admitted.toNat ≤ shared.gate.active) :
    (dispatch.step input shared).2.gate.active + dispatch.admitted.toNat =
      shared.gate.active + (dispatch.step input shared).1.admitted.toNat := by
  have move := dispatch.step_move input shared
  generalize dispatch.step input shared = stepped at move
  obtain ⟨next, left⟩ := stepped
  cases move with
  | aside before after =>
      rw [(DispatchStage.idle_flags before).1, (DispatchStage.idle_flags after).1]
  | enter admits =>
      rename_i request
      cases isRead : request.isRead <;> rfl
  | work unfinished =>
      rename_i request work
      exact congrArg (· + 1) (work.step_uncounted request input shared).active
  | uncount =>
      rename_i request
      cases isRead : request.isRead <;> rfl
  | deactivate =>
      change shared.gate.active - 1 + 1 = shared.gate.active + 0
      exact Nat.sub_add_cancel enough

theorem Dispatch.step_count {isRead : Bool}
    (enough : (dispatch.counted isRead).toNat ≤ shared.gate.count isRead) :
    (dispatch.step input shared).2.gate.count isRead + (dispatch.counted isRead).toNat =
      shared.gate.count isRead + ((dispatch.step input shared).1.counted isRead).toNat := by
  have move := dispatch.step_move input shared
  generalize dispatch.step input shared = stepped at move
  obtain ⟨next, left⟩ := stepped
  cases move with
  | aside before after =>
      rw [(DispatchStage.idle_flags before).2.1, (DispatchStage.idle_flags after).2.1]
      rfl
  | enter admits =>
      rename_i request
      cases kind : request.isRead <;> cases isRead <;>
        simp [DispatchGate.enter, DispatchGate.count, Dispatch.counted, kind]
  | work unfinished =>
      rename_i request work
      have same := work.step_uncounted request input shared
      simp only [DispatchGate.count, same.reads, same.nonRead]
      rfl
  | uncount =>
      rename_i request
      cases kind : request.isRead <;> cases isRead <;>
        simp [DispatchGate.uncount, DispatchGate.count, Dispatch.counted, kind] at enough ⊢ <;> omega
  | deactivate => rfl

theorem Dispatch.step_session
    (held : dispatch.holdsSession.toNat ≤ shared.gate.sessionBusy.toNat) :
    (dispatch.step input shared).2.gate.sessionBusy.toNat + dispatch.holdsSession.toNat =
      shared.gate.sessionBusy.toNat + (dispatch.step input shared).1.holdsSession.toNat := by
  have move := dispatch.step_move input shared
  generalize dispatch.step input shared = stepped at move
  obtain ⟨next, left⟩ := stepped
  cases move with
  | aside before after =>
      rw [(DispatchStage.idle_flags before).2.2.1, (DispatchStage.idle_flags after).2.2.1]
  | enter admits =>
      rename_i request
      cases isRead : request.isRead <;> rfl
  | work unfinished =>
      rename_i request work
      exact work.step_session request input shared held
  | uncount =>
      rename_i request
      cases isRead : request.isRead <;> rfl
  | deactivate => rfl

/-- What no dispatch changes. Nothing new is counted while the driver unloads. -/
structure KeepsDriver (before after : GateShared) : Prop where
  unloading : after.gate.unloading = before.gate.unloading
  published : after.published = before.published
  idle : before.gate.unloading = true → before.gate.active = 0 → after.gate.active = 0

theorem Dispatch.step_keepsDriver : KeepsDriver shared (dispatch.step input shared).2 := by
  have move := dispatch.step_move input shared
  generalize dispatch.step input shared = stepped at move
  obtain ⟨next, left⟩ := stepped
  cases move with
  | aside before after => exact ⟨rfl, rfl, fun _ => id⟩
  | enter admits =>
      rename_i request
      refine ⟨?_, rfl, ?_⟩
      · cases isRead : request.isRead <;> rfl
      · intro unloading
        rw [DispatchGate.admits, unloading] at admits
        cases admits
  | work unfinished =>
      rename_i request work
      have same := work.step_uncounted request input shared
      exact ⟨same.unloading, same.published, fun _ idle => same.active.trans idle⟩
  | uncount =>
      rename_i request
      cases isRead : request.isRead <;> exact ⟨rfl, rfl, fun _ => id⟩
  | deactivate =>
      refine ⟨rfl, rfl, ?_⟩
      intro _ idle
      change shared.gate.active - 1 = 0
      omega

theorem Dispatch.step_rely (outside : dispatch.holdsSession = false)
    (running : dispatch.counted true = true → 0 < shared.gate.reads) :
    Rely shared (dispatch.step input shared).2 := by
  have move := dispatch.step_move input shared
  generalize dispatch.step input shared = stepped at move
  obtain ⟨next, left⟩ := stepped
  cases move with
  | aside before after => exact ⟨rfl, id, fun _ => id, fun _ => id, rfl, rfl⟩
  | enter admits =>
      rename_i request
      cases isRead : request.isRead with
      | false => exact ⟨rfl, id, fun _ => id, fun _ => id, rfl, rfl⟩
      | true =>
          refine ⟨rfl, id, ?_, fun _ => id, rfl, rfl⟩
          intro shut
          rw [DispatchGate.admits, isRead, shut] at admits
          simp at admits
  | work unfinished =>
      rename_i request work
      refine work.step_rely request input shared outside ?_
      intro isRead
      exact running (beq_iff_eq.mpr isRead)
  | uncount =>
      rename_i request
      cases isRead : request.isRead with
      | false => exact ⟨rfl, id, fun _ => id, fun _ => id, rfl, rfl⟩
      | true =>
          refine ⟨rfl, id, ?_, fun _ => id, rfl, rfl⟩
          intro _ drained
          change shared.gate.reads - 1 = 0
          omega
  | deactivate => exact ⟨rfl, id, fun _ => id, fun _ => id, rfl, rfl⟩

theorem Dispatch.step_sound (sound : DispatchSound shared dispatch) :
    DispatchSound (dispatch.step input shared).2 (dispatch.step input shared).1 := by
  have move := dispatch.step_move input shared
  generalize dispatch.step input shared = stepped at move
  obtain ⟨next, left⟩ := stepped
  intro reached isReached
  cases move with
  | aside before after =>
      obtain rfl : _ = DispatchStage.working reached := isReached
      cases after
  | enter admits =>
      cases isReached
      exact .of_not_forOwner rfl rfl
  | work unfinished =>
      cases isReached
      exact (sound _ rfl).step
  | uncount => cases isReached
  | deactivate => cases isReached

theorem Dispatch.step_usesDevice (unpublished : shared.published = false)
    (idle : dispatch.usesDevice = false) : (dispatch.step input shared).1.usesDevice = false := by
  have move := dispatch.step_move input shared
  generalize dispatch.step input shared = stepped at move
  obtain ⟨next, left⟩ := stepped
  cases move with
  | aside before after => exact (DispatchStage.idle_flags after).2.2.2
  | enter admits => rfl
  | work unfinished =>
      rename_i request work
      cases work with
      | checks =>
          cases input with
          | fail => rfl
          | _ =>
              simp only [DispatchWork.step, unpublished]
              rfl
      | finished => exact absurd rfl unfinished
      | _ => cases idle
  | uncount => rfl
  | deactivate => rfl

theorem Dispatch.usesDevice_of_holdsSession (holds : dispatch.holdsSession = true) :
    dispatch.usesDevice = true := by
  obtain ⟨request, stage⟩ := dispatch
  cases stage with
  | working work => cases work <;> first | rfl | cases holds
  | _ => cases holds

theorem DispatchSound.of_outside {other : GateShared} (sound : DispatchSound shared dispatch)
    (outside : dispatch.holdsSession = false) : DispatchSound other dispatch := by
  intro work reached
  refine .of_not_forOwner (sound work reached).fits ?_
  simp only [Dispatch.holdsSession, reached] at outside
  cases work <;> first | rfl | exact outside

theorem DispatchSound.rely {after : GateShared} (sound : DispatchSound shared dispatch)
    (rely : Rely shared after) : DispatchSound after dispatch := by
  intro work reached
  exact (sound work reached).rely rely

end Stage

/-- A read that has not returned is of a file object whose CREATE succeeded in this instance. -/
def ReadsFromCreated (system : GateSystem) : Prop :=
  ∀ dispatch ∈ system.dispatches, dispatch.stage ≠ .returned → dispatch.request.isRead = true →
    dispatch.request.fileObject ∈ system.shared.created

instance (system : GateSystem) : Decidable (ReadsFromCreated system) :=
  inferInstanceAs (Decidable (∀ dispatch ∈ system.dispatches, dispatch.stage ≠ .returned →
    dispatch.request.isRead = true → dispatch.request.fileObject ∈ system.shared.created))

/-- A teardown closes the gate before it waits, and reclaims Device at its end. -/
theorem teardown_order (call : DriverCall) : ∀ tasks ∈ call.teardown.tails,
    (TeardownTask.waitForAll ∉ tasks → TeardownTask.close ∉ tasks) ∧
      (tasks.head? = some TeardownTask.reclaim → tasks.tail = []) := by
  cases call <;> decide

section Driver

variable {shared after : GateShared} {phase : DriverPhase}

theorem DriverSound.keep (sound : DriverSound shared phase) (keeps : KeepsDriver shared after)
    (created : shared.published = false → after.created = shared.created) :
    DriverSound after phase := by
  cases phase with
  | neverLoaded => exact keeps.published.trans sound
  | reopening => exact ⟨keeps.published.trans sound.1, (created sound.1).trans sound.2⟩
  | reinitialized => exact ⟨keeps.published.trans sound.1, (created sound.1).trans sound.2⟩
  | opened => exact ⟨keeps.published.trans sound.1, (created sound.1).trans sound.2⟩
  | started => trivial
  | tearingDown tasks =>
      obtain ⟨script, closed, drained, reclaims⟩ := sound
      refine ⟨script, ?_, ?_, ?_⟩
      · intro gone
        exact keeps.unloading.trans (closed gone)
      · intro waited
        refine keeps.idle (closed ?_) (drained waited)
        obtain ⟨call, suffix⟩ := script
        exact (teardown_order call tasks ((List.mem_tails _ _).mpr suffix)).1 waited
      · intro published
        exact reclaims (keeps.published.symm.trans published)
  | unloaded =>
      exact ⟨keeps.unloading.trans sound.1, keeps.idle sound.1 sound.2.1,
        keeps.published.trans sound.2.2⟩

/-- A task of the teardown is over only when what it waits for has happened, and changes nothing that
a dispatch relies on. -/
theorem TeardownTask.step_rely (task : TeardownTask) : Rely shared (task.step shared).2 := by
  cases task with
  | close => exact ⟨rfl, fun _ => rfl, fun _ => id, fun _ => id, rfl, rfl⟩
  | closeReads => exact ⟨rfl, fun _ => rfl, fun _ => id, fun _ => id, rfl, rfl⟩
  | _ => exact ⟨rfl, id, fun _ => id, fun _ => id, rfl, rfl⟩

theorem TeardownTask.step_counters (task : TeardownTask) :
    (task.step shared).2.gate.active = shared.gate.active ∧
      (task.step shared).2.gate.reads = shared.gate.reads ∧
      (task.step shared).2.gate.nonRead = shared.gate.nonRead ∧
      (task.step shared).2.gate.sessionBusy = shared.gate.sessionBusy := by
  cases task <;> exact ⟨rfl, rfl, rfl, rfl⟩

theorem TeardownTask.step_unloading (task : TeardownTask) :
    (task.step shared).2.gate.unloading = (shared.gate.unloading || task == .close) := by
  cases task with
  | close => exact (Bool.or_true _).symm
  | _ => exact (Bool.or_false _).symm

theorem TeardownTask.step_published (task : TeardownTask) :
    (task.step shared).2.published = (shared.published && task != .reclaim) := by
  cases task with
  | reclaim => exact (Bool.and_false _).symm
  | _ => exact (Bool.and_true _).symm

theorem TeardownTask.active_of_ended (ended : (TeardownTask.waitForAll.step shared).1 = true) :
    shared.gate.active = 0 :=
  beq_iff_eq.mp ended

theorem DriverSound.task {task : TeardownTask} {tasks : List TeardownTask}
    (sound : DriverSound shared (.tearingDown (task :: tasks))) :
    DriverSound (task.step shared).2
      (.tearingDown (if (task.step shared).1 then tasks else task :: tasks)) := by
  obtain ⟨⟨call, suffix⟩, closed, drained, reclaims⟩ := sound
  have active := (@TeardownTask.step_counters shared task).1
  have unloading := @TeardownTask.step_unloading shared task
  have published := @TeardownTask.step_published shared task
  cases ended : (task.step shared).1 with
  | false =>
      rw [if_neg Bool.false_ne_true]
      refine ⟨⟨call, suffix⟩, ?_, ?_, ?_⟩
      · intro gone
        rw [unloading, closed gone, Bool.true_or]
      · intro waited
        exact active.trans (drained waited)
      · intro still
        rw [published, Bool.and_eq_true] at still
        exact reclaims still.1
  | true =>
      rw [if_pos rfl]
      have later := (List.suffix_cons task tasks).trans suffix
      refine ⟨⟨call, later⟩, ?_, ?_, ?_⟩
      · intro gone
        rw [unloading, Bool.or_eq_true]
        by_cases here : task = .close
        · exact .inr (beq_iff_eq.mpr here)
        · refine .inl (closed fun again => ?_)
          rcases List.mem_cons.mp again with same | later'
          · exact here same.symm
          · exact gone later'
      · intro waited
        rw [active]
        by_cases here : task = .waitForAll
        · subst here
          exact TeardownTask.active_of_ended ended
        · exact drained fun again =>
            (List.mem_cons.mp again).elim (fun same => here same.symm) waited
      · intro still
        rw [published, Bool.and_eq_true, bne_iff_ne] at still
        exact (List.mem_cons.mp (reclaims still.1)).resolve_left fun same => still.2 same.symm

end Driver

namespace GateSound

variable {system : GateSystem}

theorem new : GateSound GateSystem.new where
  active := rfl
  counts isRead := by cases isRead <;> rfl
  session := rfl
  unpublished _ dispatch member := by cases member
  dispatches dispatch member := by cases member
  quiet _ := ⟨rfl, rfl, .inr rfl⟩
  sessions := rfl
  driver := rfl

theorem arrive (sound : GateSound system) (request : DispatchRequest) :
    GateSound (system.step (.arrive request)) := by
  have appended : ∀ dispatch ∈ (system.step (.arrive request)).dispatches,
      dispatch ∈ system.dispatches ∨ dispatch = ⟨request, .arrived⟩ := by
    intro dispatch member
    rcases List.mem_append.mp member with earlier | last
    · exact .inl earlier
    · exact .inr (List.mem_singleton.mp last)
  have unchanged : ∀ test : Dispatch → Bool, test ⟨request, .arrived⟩ = false →
      (system.step (.arrive request)).dispatches.countP test = system.dispatches.countP test := by
    intro test outside
    rw [GateSystem.step, List.countP_append, List.countP_singleton, outside]
    rfl
  refine ⟨?_, ?_, ?_, ?_, ?_, sound.quiet, sound.sessions, sound.driver⟩
  · rw [unchanged _ rfl]
    exact sound.active
  · intro isRead
    rw [unchanged _ rfl]
    exact sound.counts isRead
  · rw [unchanged _ rfl]
    exact sound.session
  · intro unpublished dispatch member
    rcases appended dispatch member with earlier | rfl
    · exact sound.unpublished unpublished dispatch earlier
    · rfl
  · intro dispatch member
    rcases appended dispatch member with earlier | rfl
    · exact sound.dispatches dispatch earlier
    · intro work reached
      cases reached

theorem reads_pos (sound : GateSound system) {dispatch : Dispatch}
    (member : dispatch ∈ system.dispatches) (counted : dispatch.counted true = true) :
    0 < system.shared.gate.reads := by
  have count : system.shared.gate.reads = _ := sound.counts true
  rw [count]
  exact List.countP_pos_iff.mpr ⟨dispatch, member, counted⟩

theorem single (sound : GateSound system) :
    system.dispatches.countP Dispatch.holdsSession ≤ 1 := by
  rw [← sound.session]
  exact Bool.toNat_le _

theorem not_admitted (sound : GateSound system) (idle : system.shared.gate.active = 0)
    {dispatch : Dispatch} (member : dispatch ∈ system.dispatches) : dispatch.admitted = false := by
  have none := List.countP_eq_zero.mp (sound.active.symm.trans idle) dispatch member
  exact Bool.eq_false_iff.mpr none

theorem not_usesDevice {dispatch : Dispatch} (outside : dispatch.admitted = false) :
    dispatch.usesDevice = false := by
  obtain ⟨request, stage⟩ := dispatch
  cases stage <;> first | rfl | cases outside

theorem quiet_of_unread {dispatch : Dispatch} {input : DispatchInput} {shared : GateShared}
    (quiet : SessionQuiet shared) (rely : Rely shared (dispatch.step input shared).2)
    (enough : (dispatch.counted true).toNat ≤ shared.gate.reads)
    (unread : shared.created = [] → dispatch.counted true = false ∧
      (dispatch.step input shared).1.counted true = false) :
    SessionQuiet (dispatch.step input shared).2 := by
  refine ⟨?_, rely.cleared quiet.drained quiet.cleared, ?_⟩
  · rcases quiet.shut with shut | none
    · exact rely.drained shut quiet.drained
    · have count := @Dispatch.step_count dispatch input shared true enough
      rw [(unread none).1, (unread none).2] at count
      exact count.trans quiet.drained
  · rcases quiet.shut with shut | none
    · exact .inl (rely.shut shut)
    · exact .inr (rely.created.trans none)

end GateSound

theorem ReadsFromCreated.unread {system : GateSystem} (reads : ReadsFromCreated system)
    (none : system.shared.created = []) {dispatch : Dispatch}
    (member : dispatch ∈ system.dispatches) (running : dispatch.stage ≠ .returned) :
    dispatch.request.isRead = false := by
  rw [Bool.eq_false_iff]
  intro isRead
  have created := reads dispatch member running isRead
  rw [none] at created
  cases created

theorem Dispatch.not_counted {dispatch : Dispatch} (other : dispatch.request.isRead = false) :
    dispatch.counted true = false := by
  obtain ⟨request, stage⟩ := dispatch
  cases stage with
  | working work => exact beq_eq_false_iff_ne.mpr (other.trans_ne Bool.false_ne_true)
  | _ => rfl

theorem ReadsFromCreated.not_counted {system : GateSystem} (reads : ReadsFromCreated system)
    (none : system.shared.created = []) {dispatch : Dispatch} {input : DispatchInput}
    (member : dispatch ∈ system.dispatches) :
    dispatch.counted true = false ∧
      (dispatch.step input system.shared).1.counted true = false := by
  by_cases running : dispatch.stage = .returned
  · obtain ⟨request, stage⟩ := dispatch
    cases running
    exact ⟨rfl, rfl⟩
  · have other := reads.unread none member running
    exact ⟨Dispatch.not_counted other, Dispatch.not_counted other⟩

namespace GateSound

variable {system : GateSystem} {index : Nat} {dispatch : Dispatch} {input : DispatchInput}

theorem rely (sound : GateSound system) (found : system.dispatches[index]? = some dispatch)
    (outside : dispatch.holdsSession = false) :
    Rely system.shared (dispatch.step input system.shared).2 :=
  Dispatch.step_rely outside (sound.reads_pos (List.mem_of_getElem? found))

theorem working (sound : GateSound system) (found : system.dispatches[index]? = some dispatch)
    (inside : dispatch.holdsSession = true) :
    ∃ work, dispatch.stage = .working work ∧ work.inSession = true ∧
      WorkSound system.shared dispatch.request work ∧
      (dispatch.step input system.shared).2 =
        (work.step dispatch.request input system.shared).2 := by
  have workSound := sound.dispatches dispatch (List.mem_of_getElem? found)
  obtain ⟨request, stage⟩ := dispatch
  cases stage with
  | working work =>
      refine ⟨work, rfl, inside, workSound work rfl, ?_⟩
      cases work with
      | finished => cases inside
      | _ => rfl
  | _ => cases inside

theorem advance (sound : GateSound system) (reads : ReadsFromCreated system)
    (found : system.dispatches[index]? = some dispatch) :
    GateSound
      { system with
        shared := (dispatch.step input system.shared).2
        dispatches := system.dispatches.set index (dispatch.step input system.shared).1 } := by
  have member := List.mem_of_getElem? found
  have keeps := @Dispatch.step_keepsDriver dispatch input system.shared
  refine ⟨?_, ?_, ?_, ?_, ?_, ?_, ?_, ?_⟩
  · exact Interleaving.counter_set found sound.active Dispatch.step_active
  · intro isRead
    exact Interleaving.counter_set found (sound.counts isRead) Dispatch.step_count
  · exact Interleaving.counter_set found sound.session Dispatch.step_session
  · intro unpublished other set
    have before := keeps.published.symm.trans unpublished
    rcases List.mem_or_eq_of_mem_set set with earlier | rfl
    · exact sound.unpublished before other earlier
    · exact Dispatch.step_usesDevice before (sound.unpublished before dispatch member)
  · intro other set
    rcases List.mem_or_eq_of_mem_set set with earlier | rfl
    · cases inside : dispatch.holdsSession with
      | false => exact (sound.dispatches other earlier).rely (sound.rely found inside)
      | true =>
          rcases Interleaving.outside_of_inside found inside sound.single set with rfl | outside
          · exact Dispatch.step_sound (sound.dispatches dispatch member)
          · exact (sound.dispatches other earlier).of_outside outside
    · exact Dispatch.step_sound (sound.dispatches dispatch member)
  · intro vacant
    cases inside : dispatch.holdsSession with
    | false =>
        have rely := @GateSound.rely system index dispatch input sound found inside
        refine quiet_of_unread (sound.quiet (rely.owner.symm.trans vacant)) rely ?_ ?_
        · have counted : system.shared.gate.reads = _ := sound.counts true
          rw [counted]
          exact Interleaving.toNat_le_countP found
        · exact fun none => reads.not_counted none member
    | true =>
        obtain ⟨work, -, inSession, workSound, result⟩ :=
          @working system index dispatch input sound found inside
        rw [result] at vacant ⊢
        exact workSound.quiet inSession sound.quiet vacant
  · cases inside : dispatch.holdsSession with
    | false =>
        have rely := @GateSound.rely system index dispatch input sound found inside
        rw [SessionsExact, rely.owner, rely.sessions]
        exact sound.sessions
    | true =>
        obtain ⟨work, -, inSession, workSound, result⟩ :=
          @working system index dispatch input sound found inside
        rw [result]
        exact workSound.sessions inSession sound.sessions
  · refine sound.driver.keep keeps ?_
    intro unpublished
    refine (sound.rely found ?_).created
    rw [Bool.eq_false_iff]
    intro inside
    have uses := Dispatch.usesDevice_of_holdsSession inside
    rw [sound.unpublished unpublished dispatch member] at uses
    cases uses

theorem unpublished_sound (sound : GateSound system) (unpublished : system.shared.published = false)
    {after : GateShared} {other : Dispatch} (member : other ∈ system.dispatches) :
    DispatchSound after other := by
  refine (sound.dispatches other member).of_outside (Bool.eq_false_iff.mpr ?_)
  intro inside
  have uses := Dispatch.usesDevice_of_holdsSession inside
  rw [sound.unpublished unpublished other member] at uses
  cases uses

theorem reads_of_created (sound : GateSound system) (reads : ReadsFromCreated system)
    (none : system.shared.created = []) : system.shared.gate.reads = 0 := by
  have counted : system.shared.gate.reads = _ := sound.counts true
  rw [counted, List.countP_eq_zero]
  intro dispatch member
  exact Bool.eq_false_iff.mp 
    (@ReadsFromCreated.not_counted system reads none dispatch .proceed member).1

theorem task (sound : GateSound system) {task : TeardownTask} {tasks : List TeardownTask}
    (phase : system.driver = .tearingDown (task :: tasks)) :
    GateSound
      { system with
        shared := (task.step system.shared).2
        driver := .tearingDown (if (task.step system.shared).1 then tasks else task :: tasks) } := by
  have rely := @TeardownTask.step_rely system.shared task
  obtain ⟨active, readCount, nonRead, busy⟩ := @TeardownTask.step_counters system.shared task
  have driver := sound.driver
  rw [phase] at driver
  refine ⟨?_, ?_, ?_, ?_, ?_, ?_, ?_, driver.task⟩
  · exact active.trans sound.active
  · intro isRead
    rw [← sound.counts isRead]
    simp only [DispatchGate.count, readCount, nonRead]
  · rw [← sound.session]
    exact congrArg Bool.toNat busy
  · intro unpublished dispatch member
    rw [TeardownTask.step_published, Bool.and_eq_false_iff] at unpublished
    rcases unpublished with before | last
    · exact sound.unpublished before dispatch member
    · obtain rfl : task = .reclaim := by simpa using last
      obtain ⟨⟨call, suffix⟩, -, drained, -⟩ := driver
      have alone := (teardown_order call _ ((List.mem_tails _ _).mpr suffix)).2 rfl
      rw [List.tail_cons] at alone
      subst alone
      exact not_usesDevice (sound.not_admitted (drained (by decide)) member)
  · intro dispatch member
    exact (sound.dispatches dispatch member).rely rely
  · intro vacant
    have quiet := sound.quiet (rely.owner.symm.trans vacant)
    refine ⟨readCount.trans quiet.drained, rely.cleared quiet.drained quiet.cleared, ?_⟩
    rcases quiet.shut with shut | none
    · exact .inl (rely.shut shut)
    · exact .inr (rely.created.trans none)
  · rw [SessionsExact, rely.owner, rely.sessions]
    exact sound.sessions

theorem reopen (sound : GateSound system) (unpublished : system.shared.published = false) :
    GateSound
      { system with
        shared := { system.shared with gate := system.shared.gate.beginReopen, created := [] }
        driver := .reopening } where
  active := sound.active
  counts := sound.counts
  session := sound.session
  unpublished := sound.unpublished
  dispatches _ := sound.unpublished_sound unpublished
  quiet vacant := ⟨(sound.quiet vacant).drained, (sound.quiet vacant).cleared, .inl rfl⟩
  sessions := sound.sessions
  driver := ⟨unpublished, rfl⟩

theorem driverStep (sound : GateSound system) (reads : ReadsFromCreated system) (call : DriverCall) :
    GateSound (system.step (.driver call)) := by
  have driver := sound.driver
  rw [GateSystem.step]
  cases phase : system.driver with
  | neverLoaded =>
      rw [phase] at driver
      exact sound.reopen driver
  | unloaded =>
      rw [phase] at driver
      exact sound.reopen driver.2.2
  | reopening =>
      rw [phase] at driver
      exact ⟨sound.active, sound.counts, sound.session, sound.unpublished,
        fun _ => sound.unpublished_sound driver.1,
        fun vacant => ⟨(sound.quiet vacant).drained, (sound.quiet vacant).cleared, .inr driver.2⟩,
        sound.sessions, driver⟩
  | reinitialized =>
      rw [phase] at driver
      exact ⟨sound.active, sound.counts, sound.session, sound.unpublished,
        fun _ => sound.unpublished_sound driver.1,
        fun vacant => ⟨(sound.quiet vacant).drained, (sound.quiet vacant).cleared, .inr driver.2⟩,
        sound.sessions, driver⟩
  | opened =>
      rw [phase] at driver
      simp only [DriverPhase.step]
      split
      · refine { sound with driver := ⟨⟨.failInitialization, List.suffix_rfl⟩, ?_, ?_, ?_⟩ }
        · intro gone
          exact absurd List.mem_cons_self gone
        · intro waited
          exact absurd (by decide) waited
        · intro published
          rw [driver.1] at published
          cases published
      · exact ⟨sound.active, sound.counts, sound.session,
          fun published => Bool.noConfusion published,
          fun _ => sound.unpublished_sound driver.1,
          fun _ => ⟨sound.reads_of_created reads driver.2, rfl, .inr driver.2⟩, rfl, trivial⟩
  | started =>
      simp only [DriverPhase.step]
      split
      case h_4 => exact { sound with driver := trivial }
      all_goals
        refine { sound with driver := ⟨⟨_, List.suffix_rfl⟩, ?_, ?_, fun _ => by decide⟩ }
        · intro gone
          exact absurd (by decide) gone
        · intro waited
          exact absurd (by decide) waited
  | tearingDown tasks =>
      cases tasks with
      | nil =>
          rw [phase] at driver
          obtain ⟨-, closed, drained, reclaims⟩ := driver
          refine { sound with driver := ⟨closed List.not_mem_nil, drained List.not_mem_nil, ?_⟩ }
          rw [Bool.eq_false_iff]
          intro published
          exact absurd (reclaims published) List.not_mem_nil
      | cons task tasks => exact sound.task phase

theorem step (sound : GateSound system) (reads : ReadsFromCreated system) (step : GateStep) :
    GateSound (system.step step) := by
  cases step with
  | arrive request => exact sound.arrive request
  | advance index input =>
      rw [GateSystem.step]
      cases found : system.dispatches[index]? with
      | none => exact sound
      | some dispatch => exact sound.advance reads found
  | driver call => exact sound.driverStep reads call

end GateSound

def ReadsFollowCreate (steps : List GateStep) : Prop :=
  ∀ earlier, earlier <+: steps → ReadsFromCreated (GateSystem.run earlier)

theorem gateSound_run (steps : List GateStep) (reads : ReadsFollowCreate steps) :
    GateSound (GateSystem.run steps) := by
  induction steps using List.reverseRecOn with
  | nil => exact GateSound.new
  | append_singleton earlier last ih =>
      have before := ih fun some isPrefix => reads some (isPrefix.trans (List.prefix_append _ _))
      rw [GateSystem.run, List.foldl_append]
      exact before.step (reads earlier (List.prefix_append _ _)) last

theorem countP_admitted (dispatches : List Dispatch) :
    dispatches.countP Dispatch.admitted = dispatches.countP (Dispatch.counted true) +
      dispatches.countP (Dispatch.counted false) + dispatches.countP Dispatch.halfDropped := by
  induction dispatches with
  | nil => rfl
  | cons dispatch rest ih =>
      have own : dispatch.admitted.toNat = (dispatch.counted true).toNat +
          (dispatch.counted false).toNat + dispatch.halfDropped.toNat := by
        obtain ⟨request, stage⟩ := dispatch
        cases stage with
        | working work =>
            cases isRead : request.isRead <;>
              simp [Dispatch.admitted, Dispatch.counted, Dispatch.halfDropped, isRead]
        | _ => rfl
      have toNat : ∀ flag : Bool, (if flag = true then 1 else 0) = flag.toNat := by decide
      simp only [List.countP_cons, toNat]
      omega

structure GateExact (system : GateSystem) : Prop where
  reads : system.shared.gate.reads = system.dispatches.countP (Dispatch.counted true)
  nonRead : system.shared.gate.nonRead = system.dispatches.countP (Dispatch.counted false)
  active : system.shared.gate.active = system.dispatches.countP Dispatch.admitted
  atLeast : system.shared.gate.active = system.shared.gate.reads + system.shared.gate.nonRead +
    system.dispatches.countP Dispatch.halfDropped
  closed : system.driver.Closed → system.shared.gate.unloading = true
  drained : system.driver.Drained → ∀ dispatch ∈ system.dispatches, dispatch.admitted = false
  oneOwner : system.shared.sessions.length ≤ 1
  owner : ∀ fileObject, fileObject ∈ system.shared.sessions ↔
    fileObject ≠ 0 ∧ system.shared.device.ownerFileObject = fileObject

structure GateStepSafe (system : GateSystem) (step : GateStep) : Prop where
  admission : ∀ (index : Nat) (before after : Dispatch), system.dispatches[index]? = some before →
    (system.step step).dispatches[index]? = some after →
    before.admitted = false → after.admitted = true →
      system.shared.gate.unloading = false ∧
        (after.request.isRead = true → system.shared.gate.readsClosed = false)
  foreignCleanup : ∀ (index : Nat) (input : DispatchInput) (dispatch : Dispatch) (fileObject : Nat),
    step = .advance index input → system.dispatches[index]? = some dispatch →
    dispatch.request = .cleanup fileObject → fileObject ∉ system.shared.sessions →
      (system.step step).shared.device.ownerFileObject = system.shared.device.ownerFileObject ∧
      (system.step step).shared.gate.readsClosed = system.shared.gate.readsClosed ∧
      (system.step step).shared.gate.unloading = system.shared.gate.unloading ∧
      (system.step step).shared.device.leftover = system.shared.device.leftover
  newOwner : (system.step step).shared.device.ownerFileObject ≠ 0 →
    (system.step step).shared.device.ownerFileObject ≠ system.shared.device.ownerFileObject →
      system.shared.device.ownerFileObject = 0 ∧ system.shared.device.leftover = none ∧
        ∀ dispatch ∈ system.dispatches, dispatch.counted true = false

theorem GateSound.exact {system : GateSystem} (sound : GateSound system) : GateExact system := by
  have reads : system.shared.gate.reads = _ := sound.counts true
  have nonRead : system.shared.gate.nonRead = _ := sound.counts false
  refine ⟨reads, nonRead, sound.active, ?_, ?_, ?_, ?_, ?_⟩
  · rw [sound.active, countP_admitted, reads, nonRead]
  · intro closed
    have driver := sound.driver
    cases phase : system.driver with
    | tearingDown tasks =>
        rw [phase] at driver closed
        exact driver.2.1 closed
    | unloaded =>
        rw [phase] at driver
        exact driver.1
    | _ =>
        rw [phase] at closed
        exact closed.elim
  · intro drained dispatch member
    refine sound.not_admitted ?_ member
    have driver := sound.driver
    cases phase : system.driver with
    | tearingDown tasks =>
        rw [phase] at driver drained
        exact driver.2.2.1 drained.2.2.2
    | unloaded =>
        rw [phase] at driver
        exact driver.2.1
    | _ =>
        rw [phase] at drained
        exact drained.elim
  · rw [sound.sessions]
    split
    · exact Nat.zero_le 1
    · exact Nat.le_refl 1
  · intro fileObject
    rw [sound.sessions]
    split
    · rename_i vacant
      rw [vacant]
      simp [eq_comm]
    · rename_i known
      rw [List.mem_singleton]
      constructor
      · rintro rfl
        exact ⟨known, rfl⟩
      · rintro ⟨-, rfl⟩
        rfl

section Step

variable {system : GateSystem} {index : Nat} {dispatch : Dispatch} {input : DispatchInput}
  {shared : GateShared} {request : DispatchRequest} {work : DispatchWork}

theorem Dispatch.admission (before : dispatch.admitted = false)
    (after : (dispatch.step input shared).1.admitted = true) :
    shared.gate.admits dispatch.request.isRead = true := by
  have move := dispatch.step_move input shared
  generalize dispatch.step input shared = stepped at move after
  obtain ⟨next, left⟩ := stepped
  cases move with
  | aside _ idle =>
      rw [(DispatchStage.idle_flags idle).1] at after
      cases after
  | enter admits => exact admits
  | work unfinished => cases before
  | uncount => cases before
  | deactivate => cases before

theorem GateSystem.step_admission {step : GateStep} {before after : Dispatch}
    (found : system.dispatches[index]? = some before)
    (reached : (system.step step).dispatches[index]? = some after)
    (outside : before.admitted = false) (inside : after.admitted = true) :
    system.shared.gate.admits after.request.isRead = true := by
  have differs : before ≠ after := by
    rintro rfl
    rw [outside] at inside
    cases inside
  cases step with
  | arrive request =>
      have bound := (List.getElem?_eq_some_iff.mp found).1
      have kept := (List.getElem?_append_left bound).symm.trans reached
      exact absurd (Option.some.inj (found.symm.trans kept)) differs
  | driver call => exact absurd (Option.some.inj (found.symm.trans reached)) differs
  | advance moved input =>
      cases other : system.dispatches[moved]? with
      | none =>
          simp only [GateSystem.step, other] at reached
          exact absurd (Option.some.inj (found.symm.trans reached)) differs
      | some dispatch =>
          simp only [GateSystem.step, other] at reached
          by_cases same : moved = index
          · subst same
            cases other.symm.trans found
            rw [List.getElem?_set_self (List.getElem?_eq_some_iff.mp found).1] at reached
            cases reached
            exact @Dispatch.admission before input system.shared outside inside
          · rw [List.getElem?_set_ne same] at reached
            exact absurd (Option.some.inj (found.symm.trans reached)) differs

theorem WorkSound.foreign {fileObject : Nat} (sound : WorkSound shared request work)
    (cleanup : request = .cleanup fileObject)
    (foreign : ¬ (fileObject ≠ 0 ∧ shared.device.ownerFileObject = fileObject)) :
    (work.step request input shared).2.device.ownerFileObject = shared.device.ownerFileObject ∧
      (work.step request input shared).2.gate.readsClosed = shared.gate.readsClosed ∧
      (work.step request input shared).2.device.leftover = shared.device.leftover := by
  subst cleanup
  have notOwner : work.forOwner = false := by
    rw [Bool.eq_false_iff]
    intro owns
    exact foreign ⟨(sound.owner owns).2, (sound.owner owns).1⟩
  have fits := sound.fits
  cases work with
  | checks => cases input <;> exact ⟨rfl, rfl, rfl⟩
  | acquireSession =>
      rw [DispatchWork.step]
      split <;> exact ⟨rfl, rfl, rfl⟩
  | closeReads caller =>
      rw [beq_iff_eq.mp fits] at notOwner
      cases notOwner
  | checkOwner => exact ⟨rfl, rfl, rfl⟩
  | cancelWaiters caller => exact ⟨rfl, rfl, rfl⟩
  | waitForReads caller => exact ⟨rfl, rfl, rfl⟩
  | clearLeftover => cases notOwner
  | releaseOwner => cases notOwner
  | clearPid => exact ⟨rfl, rfl, rfl⟩
  | releaseSession => exact ⟨rfl, rfl, rfl⟩
  | finished => exact ⟨rfl, rfl, rfl⟩
  | _ => cases fits

theorem Dispatch.step_foreign {fileObject : Nat} (sound : DispatchSound shared dispatch)
    (cleanup : dispatch.request = .cleanup fileObject)
    (foreign : ¬ (fileObject ≠ 0 ∧ shared.device.ownerFileObject = fileObject)) :
    (dispatch.step input shared).2.device.ownerFileObject = shared.device.ownerFileObject ∧
      (dispatch.step input shared).2.gate.readsClosed = shared.gate.readsClosed ∧
      (dispatch.step input shared).2.device.leftover = shared.device.leftover := by
  have move := dispatch.step_move input shared
  generalize dispatch.step input shared = stepped at move
  obtain ⟨next, left⟩ := stepped
  cases move with
  | aside before after => exact ⟨rfl, rfl, rfl⟩
  | enter admits =>
      rename_i request
      cases isRead : request.isRead <;> exact ⟨rfl, rfl, rfl⟩
  | work unfinished => exact (sound _ rfl).foreign cleanup foreign
  | uncount =>
      rename_i request
      cases isRead : request.isRead <;> exact ⟨rfl, rfl, rfl⟩
  | deactivate => exact ⟨rfl, rfl, rfl⟩

theorem DispatchWork.step_owner :
    (work.step request input shared).2.device.ownerFileObject = shared.device.ownerFileObject ∨
      (work.step request input shared).2.device.ownerFileObject = 0 ∨
      shared.device.ownerFileObject = 0 := by
  cases work with
  | checks => cases input <;> exact .inl rfl
  | acquireSession =>
      rw [step]
      split <;> exact .inl rfl
  | claimOwner =>
      by_cases vacant : shared.device.ownerFileObject = 0
      · exact .inr (.inr vacant)
      · rw [step, if_pos (Or.inr vacant)]
        exact .inl rfl
  | releaseOwner =>
      simp only [step]
      split
      · exact .inr (.inl rfl)
      · exact .inl rfl
  | serve => cases request <;> cases input <;> exact .inl rfl
  | _ => exact .inl rfl

theorem GateSound.newOwner (sound : GateSound system) {step : GateStep}
    (known : (system.step step).shared.device.ownerFileObject ≠ 0)
    (installed : (system.step step).shared.device.ownerFileObject ≠
      system.shared.device.ownerFileObject) :
    system.shared.device.ownerFileObject = 0 := by
  cases step with
  | arrive request => exact absurd rfl installed
  | advance index input =>
      simp only [GateSystem.step] at known installed
      cases found : system.dispatches[index]? with
      | none =>
          rw [found] at installed
          exact absurd rfl installed
      | some dispatch =>
          rw [found] at known installed
          dsimp only at known installed
          cases inside : dispatch.holdsSession with
          | false => exact absurd (sound.rely found inside).owner installed
          | true =>
              obtain ⟨work, -, -, -, result⟩ :=
                @GateSound.working system index dispatch input sound found inside
              rw [result] at known installed
              rcases @DispatchWork.step_owner input system.shared dispatch.request work with
                same | gone | vacant
              · exact absurd same installed
              · exact absurd gone known
              · exact vacant
  | driver call =>
      simp only [GateSystem.step] at known installed
      cases phase : system.driver with
      | opened =>
          rw [phase] at known installed
          simp only [DriverPhase.step] at known installed
          split at known
          · exact absurd rfl installed
          · exact absurd rfl known
      | started =>
          rw [phase] at installed
          simp only [DriverPhase.step] at installed
          split at installed <;> exact absurd rfl installed
      | tearingDown tasks =>
          rw [phase] at installed
          cases tasks with
          | nil => exact absurd rfl installed
          | cons task tasks => exact absurd (TeardownTask.step_rely task).owner installed
      | _ =>
          rw [phase] at installed
          exact absurd rfl installed

theorem GateSound.stepSafe (sound : GateSound system) (step : GateStep) :
    GateStepSafe system step := by
  refine ⟨?_, ?_, ?_⟩
  · intro index before after found reached outside inside
    have admits := GateSystem.step_admission found reached outside inside
    rw [DispatchGate.admits, Bool.and_eq_true, Bool.not_eq_true', Bool.not_eq_true'] at admits
    refine ⟨admits.1, ?_⟩
    intro isRead
    rw [isRead, Bool.true_and] at admits
    exact admits.2
  · rintro index input dispatch fileObject rfl found cleanup foreign
    rw [sound.exact.owner] at foreign
    obtain ⟨owner, shut, leftover⟩ := @Dispatch.step_foreign dispatch input system.shared fileObject
      (sound.dispatches dispatch (List.mem_of_getElem? found)) cleanup foreign
    have keeps := @Dispatch.step_keepsDriver dispatch input system.shared
    simp only [GateSystem.step, found]
    exact ⟨owner, shut, keeps.unloading, leftover⟩
  · intro known installed
    have vacant := sound.newOwner known installed
    have quiet := sound.quiet vacant
    refine ⟨vacant, quiet.cleared, ?_⟩
    intro dispatch member
    have count := sound.exact.reads.symm.trans quiet.drained
    exact Bool.eq_false_iff.mpr (List.countP_eq_zero.mp count dispatch member)

end Step

/-- In every order of the steps of dispatches, `DriverEntry` and `DriverUnload`: the counters count
guards, a drained gate stays empty until it is reopened, and a new owner starts without a read or a
leftover of the last one. -/
theorem dispatchGate_sessions_safe (steps : List GateStep) (reads : ReadsFollowCreate steps) :
    GateExact (GateSystem.run steps) ∧ ∀ step, GateStepSafe (GateSystem.run steps) step :=
  ⟨(gateSound_run steps reads).exact, (gateSound_run steps reads).stepSafe⟩

/-- A file object reads and leaves a part of a record, and is cleaned up while its read still runs.
Another one opens the device. -/
def handover : List GateStep :=
  List.replicate 4 (GateStep.driver .proceed) ++
    GateStep.arrive (.create 7 40) :: List.replicate 15 (GateStep.advance 0 .proceed) ++
    GateStep.arrive (.read 7) :: List.replicate 4 (GateStep.advance 1 .proceed) ++
    [GateStep.advance 1 (.stream (some [1, 2])), GateStep.arrive (.cleanup 7)] ++
    List.replicate 10 (GateStep.advance 2 .proceed) ++
    List.replicate 4 (GateStep.advance 1 .proceed) ++
    List.replicate 8 (GateStep.advance 2 .proceed) ++
    GateStep.arrive (.create 8 41) :: List.replicate 11 (GateStep.advance 3 .proceed)

theorem dispatchGate_sessions_safe_handover :
    (GateSystem.run handover).shared.device.ownerFileObject = 8 ∧
      GateExact (GateSystem.run handover) ∧
      ∀ step, GateStepSafe (GateSystem.run handover) step := by
  have follows : ReadsFollowCreate handover := by
    have each : ∀ earlier ∈ handover.inits, ReadsFromCreated (GateSystem.run earlier) := by
      decide +kernel
    intro earlier isPrefix
    exact each earlier ((List.mem_inits _ _).mpr isPrefix)
  exact ⟨by decide +kernel, dispatchGate_sessions_safe handover follows⟩

end WindowsKext
