import WindowsKext.CallbackBarrierCore

/-! Admission under every order of steps. A lifetime reference pins the generation: while it is
held the barrier is not closed, so it is not reused. The two reads of the state around its
acquisition tell a call whether it holds a reference of the generation that it saw first. -/

namespace WindowsKext

open Rundown

section Token

variable (generation : Nat) (phase : BarrierPhase)

theorem stateToken_eq :
    stateToken generation phase = generation % 2 ^ 56 * 2 ^ 8 + phase.code := by
  have code : phase.code < 2 ^ 8 := by cases phase <;> decide
  have mask : generationMask = 2 ^ 56 - 1 := by decide
  rw [stateToken, mask, Nat.and_two_pow_sub_one_eq_mod, ← Nat.shiftLeft_add_eq_or_of_lt code,
    Nat.shiftLeft_eq]

@[simp] theorem statePhase_stateToken : statePhase (stateToken generation phase) = some phase := by
  have code : phase.code < 2 ^ 8 := by cases phase <;> decide
  have byte : (0xff : Nat) = 2 ^ 8 - 1 := rfl
  rw [statePhase, stateToken_eq, byte, Nat.and_two_pow_sub_one_eq_mod, Nat.mul_add_mod_self_right,
    Nat.mod_eq_of_lt code]
  cases phase <;> rfl

theorem stateGeneration_stateToken (small : generation < 2 ^ 56) :
    stateGeneration (stateToken generation phase) = generation := by
  have code : phase.code < 2 ^ 8 := by cases phase <;> decide
  rw [stateGeneration, stateToken_eq, Nat.mod_eq_of_lt small, Nat.shiftRight_eq_div_pow,
    Nat.mul_comm, Nat.mul_add_div (by decide), Nat.div_eq_of_lt code, Nat.add_zero]

end Token

section Objects

variable (barrier : CallbackBarrier) (object : RundownObject) (ref : Ref) (token : Nat)

@[simp] theorem state_setRundown : (barrier.setRundown object ref).state = barrier.state := by
  cases object <;> rfl

@[simp] theorem rundown_store : (barrier.store token).rundown = barrier.rundown := by
  funext object
  cases object <;> rfl

@[simp] theorem state_store : (barrier.store token).state = token := rfl

theorem rundown_setRundown (other : RundownObject) :
    (barrier.setRundown object ref).rundown other =
      if other = object then ref else barrier.rundown other := by
  cases object <;> cases other <;> rfl

end Objects

namespace Caller

def lifetime : Caller → Option Nat
  | .pinned _ _ lifetime => some lifetime
  | .passed _ _ lifetime => some lifetime
  | .deciding _ _ lifetime _ => some lifetime
  | .callbackAdmission _ lifetime => some lifetime
  | .admission _ _ lifetime _ _ => some lifetime
  | .rejected lifetime => some lifetime
  | _ => none

def deviceAccess (entry : DeviceEntry) : Caller → Option Nat
  | .deciding granted _ _ deviceAccess => if granted = entry then deviceAccess else none
  | .admission granted _ _ _ deviceAccess => if granted = entry then deviceAccess else none
  | .leaving granted _ _ deviceAccess => if granted = entry then some deviceAccess else none
  | _ => none

def holds : RundownObject → Caller → Option Nat
  | .callbackLifetime => lifetime
  | .classify => deviceAccess .classify
  | .flowDelete => deviceAccess .flowDelete

def Admitted : Caller → Prop
  | .callbackAdmission _ _ => True
  | .admission _ _ _ _ _ => True
  | .leaving _ _ _ _ => True
  | _ => False

def ActiveAdmission (entry : DeviceEntry) : Caller → Prop
  | .admission granted _ _ active _ => granted = entry ∧ active = true
  | .leaving granted _ active _ => granted = entry ∧ active = true
  | _ => False

def generation : Caller → Option Nat
  | .observed _ generation => some generation
  | .pinned _ generation _ => some generation
  | .passed _ generation _ => some generation
  | .deciding _ generation _ _ => some generation
  | .callbackAdmission generation _ => some generation
  | .admission _ generation _ _ _ => some generation
  | .leaving _ generation _ _ => some generation
  | _ => none

def Checked : Caller → Prop
  | .passed _ _ _ => True
  | .deciding _ _ _ _ => True
  | .callbackAdmission _ _ => True
  | .admission _ _ _ _ _ => True
  | .leaving _ _ _ _ => True
  | _ => False

def Granted (entry : DeviceEntry) : Caller → Prop
  | .passed granted _ _ => granted = entry
  | .deciding granted _ _ _ => granted = entry
  | .admission granted _ _ active deviceAccess =>
      granted = entry ∧ (active = true ∨ deviceAccess.isSome = true)
  | .leaving granted _ _ _ => granted = entry
  | _ => False

inductive Change (barrier : CallbackBarrier) (before after : Caller) : CallbackBarrier → Prop where
  | keep (same : ∀ object, after.holds object = before.holds object) :
      Change barrier before after barrier
  | acquire (object : RundownObject) (isOpen : (barrier.rundown object).closing = false)
      (known : ∃ generation, before.generation = some generation)
      (idle : before.holds object = none)
      (holding : after.holds object = some (barrier.rundown object).epoch)
      (same : ∀ other, other ≠ object → after.holds other = before.holds other) :
      Change barrier before after (barrier.setRundown object
        { barrier.rundown object with references := (barrier.rundown object).references + 1 })
  | release (object : RundownObject) (epoch : Nat) (holding : before.holds object = some epoch)
      (idle : after.holds object = none)
      (same : ∀ other, other ≠ object → after.holds other = before.holds other) :
      Change barrier before after
        (barrier.setRundown object (barrier.rundown object).release)

theorem setRundown_self (barrier : CallbackBarrier) (object : RundownObject) :
    barrier.setRundown object (barrier.rundown object) = barrier := by
  cases object <;> rfl

theorem change (barrier : CallbackBarrier) (caller : Caller) :
    Change barrier caller (caller.step barrier).1 (caller.step barrier).2 := by
  cases caller with
  | entering entry =>
      simp only [step]
      split
      · exact .keep fun object => by cases object <;> rfl
      · exact .keep fun object => by cases object <;> rfl
  | observed entry generation =>
      cases closing : barrier.callbackLifetime.closing with
      | true =>
          simp only [step, Ref.acquire, closing, ↓reduceIte]
          exact .keep fun object => by cases object <;> rfl
      | false =>
          have result : (observed entry generation).step barrier =
              (.pinned entry generation barrier.callbackLifetime.epoch,
                barrier.setRundown .callbackLifetime { barrier.callbackLifetime with
                  references := barrier.callbackLifetime.references + 1 }) := by
            simp [step, Ref.acquire, closing]
          rw [result]
          refine .acquire .callbackLifetime closing ⟨generation, rfl⟩ ?_ ?_ ?_
          · rfl
          · rfl
          · intro other different
            cases other with
            | callbackLifetime => exact absurd rfl different
            | _ => rfl
  | pinned entry generation lifetime =>
      cases entry with
      | callback =>
          simp only [step]
          split
          · exact .keep fun object => by cases object <;> rfl
          · split
            · exact .keep fun object => by cases object <;> rfl
            · exact .keep fun object => by cases object <;> rfl
      | device entry =>
          simp only [step]
          split
          · exact .keep fun object => by cases object <;> rfl
          · split
            · exact .keep fun object => by cases object <;> rfl
            · split
              · exact .keep fun object => by cases object <;> simp [holds, deviceAccess, Caller.lifetime]
              · exact .keep fun object => by cases object <;> rfl
  | passed entry generation lifetime =>
      cases closing : (barrier.rundown entry.object).closing with
      | true =>
          simp only [step, Ref.acquire, closing, ↓reduceIte, setRundown_self]
          refine .keep fun object => ?_
          cases object <;> simp [holds, deviceAccess, Caller.lifetime]
      | false =>
          have result : (passed entry generation lifetime).step barrier =
              (.deciding entry generation lifetime (some (barrier.rundown entry.object).epoch),
                barrier.setRundown entry.object { barrier.rundown entry.object with
                  references := (barrier.rundown entry.object).references + 1 }) := by
            simp [step, Ref.acquire, closing]
          rw [result]
          refine .acquire entry.object closing ⟨generation, rfl⟩ ?_ ?_ ?_
          · cases entry <;> rfl
          · cases entry <;> rfl
          · intro other different
            cases entry <;> cases other <;>
              first | exact absurd rfl different | rfl
  | deciding entry generation lifetime deviceAccess =>
      exact .keep fun object => by cases object <;> rfl
  | callbackAdmission generation lifetime =>
      refine .release .callbackLifetime lifetime rfl rfl ?_
      intro other different
      cases other with
      | callbackLifetime => exact absurd rfl different
      | _ => rfl
  | admission entry generation lifetime active deviceAccess =>
      cases deviceAccess with
      | none =>
          refine .release .callbackLifetime lifetime rfl rfl ?_
          intro other different
          cases other with
          | callbackLifetime => exact absurd rfl different
          | _ => simp [step, holds, Caller.deviceAccess]
      | some deviceAccess =>
          refine .release .callbackLifetime lifetime rfl rfl ?_
          intro other different
          cases other with
          | callbackLifetime => exact absurd rfl different
          | _ => rfl
  | leaving entry generation active deviceAccess =>
      refine .release entry.object deviceAccess ?_ ?_ ?_
      · cases entry <;> rfl
      · cases entry <;> rfl
      · intro other different
        cases entry <;> cases other <;>
          first | exact absurd rfl different | rfl
  | rejected lifetime =>
      refine .release .callbackLifetime lifetime rfl rfl ?_
      intro other different
      cases other with
      | callbackLifetime => exact absurd rfl different
      | _ => rfl
  | returned => exact .keep fun object => rfl

theorem Change.state {barrier next : CallbackBarrier} {before after : Caller}
    (change : Change barrier before after next) : next.state = barrier.state := by
  cases change with
  | keep => rfl
  | acquire object => exact state_setRundown _ _ _
  | release object => exact state_setRundown _ _ _

end Caller

/-- No reference is held, and no call that has seen a generation can acquire one. -/
def Quiet (generation : Nat) (ref : Ref) : Prop :=
  ref.references = 0 ∧ (ref.closing = true ∨ generation = 0)

structure CallerSound (current : Nat) (phase : BarrierPhase) (activated : List Nat)
    (caller : Caller) : Prop where
  observed : ∀ {generation : Nat}, caller.generation = some generation →
    1 ≤ generation ∧ generation ≤ current
  checked : caller.Checked → ∀ {object : RundownObject} {epoch : Nat},
    caller.holds object = some epoch → caller.generation = some epoch
  granted : ∀ {entry : DeviceEntry}, caller.Granted entry → caller.generation = some current →
    phase ≠ .prepared
  activated : caller.Granted .classify → ∀ {generation : Nat},
    caller.generation = some generation → generation ∈ activated
  access : ∀ {entry : DeviceEntry}, caller.ActiveAdmission entry →
    ∃ epoch, caller.holds entry.object = some epoch

structure Settled (current : Nat) (phase : BarrierPhase) (barrier : CallbackBarrier) : Prop where
  epochs : ∀ object, (barrier.rundown object).epoch = current
  started : admitsCallback (some phase) = true → 1 ≤ current
  never : phase = .neverStarted → current = 0
  quiet : phase = .neverStarted ∨ phase = .closed →
    ∀ object, Quiet current (barrier.rundown object)
  classify : phase = .classifyClosed → Quiet current barrier.classify
  steady : phase ≠ .starting ∧ phase ≠ .classifyClosing ∧ phase ≠ .draining

def Exchangeable : LifecycleCall → BarrierPhase → Prop
  | .prepare, phase => phase = .neverStarted ∨ phase = .closed
  | .activate, phase => phase = .prepared
  | .closeClassifyAndWait, phase => phase = .prepared ∨ phase = .opened
  | .closeAllAndWait, phase => phase = .prepared ∨ phase = .opened ∨ phase = .classifyClosed

/-- The phase during a closing call, and the objects that it leaves without references. -/
def Closing : LifecycleCall → BarrierPhase → RundownObject → Prop
  | .closeClassifyAndWait, phase, object => phase = .classifyClosing ∧ object = .classify
  | .closeAllAndWait, phase, _ => phase = .draining
  | _, _, _ => False

structure Draining (current : Nat) (phase : BarrierPhase) (barrier : CallbackBarrier)
    (call : LifecycleCall) (objects : List RundownObject) : Prop where
  epochs : ∀ object, (barrier.rundown object).epoch = current
  started : 1 ≤ current
  closing : Closing call phase .classify
  quiet : ∀ object, object ∉ objects → Closing call phase object →
    Quiet current (barrier.rundown object)

structure Restarting (current : Nat) (phase : BarrierPhase) (barrier : CallbackBarrier)
    (objects : List RundownObject) : Prop where
  starting : phase = .starting
  distinct : objects.Nodup
  old : ∀ object ∈ objects, (barrier.rundown object).epoch = current ∧
    Quiet current (barrier.rundown object)
  new : ∀ object, object ∉ objects → (barrier.rundown object).epoch = current + 1

def LifecycleSound (current : Nat) (phase : BarrierPhase) (barrier : CallbackBarrier) :
    LifecycleThread → Prop
  | .idle => Settled current phase barrier
  | .load _ => Settled current phase barrier
  | .exchange call token =>
      Settled current phase barrier ∧ token = barrier.state ∧ Exchangeable call phase
  | .restart generation objects =>
      generation = current ∧ Restarting current phase barrier objects
  | .wait call generation objects =>
      generation = current ∧ Draining current phase barrier call objects
  | .drain call generation object objects =>
      generation = current ∧ Draining current phase barrier call (object :: objects) ∧
        (barrier.rundown object).closing = true

structure BarrierSound (system : BarrierSystem) (current : Nat) (phase : BarrierPhase) :
    Prop where
  state : system.barrier.state = stateToken current phase
  tracks : ∀ object, Tracks (system.barrier.rundown object) (Caller.holds object) system.callers
  callers : ∀ caller ∈ system.callers, CallerSound current phase system.activated caller
  lifecycle : LifecycleSound current phase system.barrier system.lifecycle
  opened : phase = .opened → current ∈ system.activated

section Lifecycle

variable {current : Nat} {phase : BarrierPhase} {barrier next : CallbackBarrier}
  {lifecycle : LifecycleThread}

theorem LifecycleSound.keep (sound : LifecycleSound current phase barrier lifecycle)
    (state : next.state = barrier.state)
    (epochs : ∀ object, (next.rundown object).epoch = (barrier.rundown object).epoch)
    (closing : ∀ object, (next.rundown object).closing = (barrier.rundown object).closing)
    (quiet : ∀ object, Quiet current (barrier.rundown object) →
      Quiet current (next.rundown object)) :
    LifecycleSound current phase next lifecycle := by
  have settled (before : Settled current phase barrier) : Settled current phase next :=
    { before with
      epochs := fun object => (epochs object).trans (before.epochs object)
      quiet := fun none object => quiet object (before.quiet none object)
      classify := fun closed => quiet .classify (before.classify closed) }
  have draining {call : LifecycleCall} {objects : List RundownObject}
      (before : Draining current phase barrier call objects) :
      Draining current phase next call objects :=
    { before with
      epochs := fun object => (epochs object).trans (before.epochs object)
      quiet := fun object done closes => quiet object (before.quiet object done closes) }
  cases lifecycle with
  | idle => exact settled sound
  | load call => exact settled sound
  | exchange call token =>
      obtain ⟨before, same, exchangeable⟩ := sound
      exact ⟨settled before, same.trans state.symm, exchangeable⟩
  | restart generation objects =>
      obtain ⟨same, before⟩ := sound
      refine ⟨same, { before with old := ?_, new := ?_ }⟩
      · intro object member
        obtain ⟨epoch, rest⟩ := before.old object member
        exact ⟨(epochs object).trans epoch, quiet object rest⟩
      · intro object done
        exact (epochs object).trans (before.new object done)
  | wait call generation objects => exact ⟨sound.1, draining sound.2⟩
  | drain call generation object objects =>
      obtain ⟨same, before, closed⟩ := sound
      exact ⟨same, draining before, (closing object).trans closed⟩

theorem Draining.steady {call : LifecycleCall} {objects : List RundownObject}
    (draining : Draining current phase barrier call objects) :
    phase ≠ .starting ∧ phase ≠ .closed ∧ phase ≠ .classifyClosed := by
  have closing := draining.closing
  cases call with
  | prepare => exact closing.elim
  | activate => exact closing.elim
  | closeClassifyAndWait => simp [closing.1]
  | closeAllAndWait =>
      have draining : phase = .draining := closing
      simp [draining]

theorem LifecycleSound.epochs (sound : LifecycleSound current phase barrier lifecycle) :
    (phase ≠ .starting ∧ ∀ object, (barrier.rundown object).epoch = current) ∨
      phase = .starting ∧ ∀ object,
        (barrier.rundown object).epoch = current ∧ (barrier.rundown object).references = 0 ∨
          (barrier.rundown object).epoch = current + 1 := by
  cases lifecycle with
  | idle => exact .inl ⟨sound.steady.1, sound.epochs⟩
  | load call => exact .inl ⟨sound.steady.1, sound.epochs⟩
  | exchange call token => exact .inl ⟨sound.1.steady.1, sound.1.epochs⟩
  | restart generation objects =>
      obtain ⟨-, restarting⟩ := sound
      refine .inr ⟨restarting.starting, fun object => ?_⟩
      by_cases left : object ∈ objects
      · obtain ⟨epoch, quiet⟩ := restarting.old object left
        exact .inl ⟨epoch, quiet.1⟩
      · exact .inr (restarting.new object left)
  | wait call generation objects => exact .inl ⟨sound.2.steady.1, sound.2.epochs⟩
  | drain call generation object objects => exact .inl ⟨sound.2.1.steady.1, sound.2.1.epochs⟩

theorem LifecycleSound.le_epoch (sound : LifecycleSound current phase barrier lifecycle)
    (object : RundownObject) : current ≤ (barrier.rundown object).epoch := by
  rcases sound.epochs with ⟨-, same⟩ | ⟨-, either⟩
  · exact Nat.le_of_eq (same object).symm
  · rcases either object with ⟨epoch, -⟩ | epoch
    · exact Nat.le_of_eq epoch.symm
    · rw [epoch]
      exact Nat.le_succ current

theorem LifecycleSound.started (sound : LifecycleSound current phase barrier lifecycle)
    (admits : admitsCallback (some phase) = true) : 1 ≤ current := by
  cases lifecycle with
  | idle => exact sound.started admits
  | load call => exact sound.started admits
  | exchange call token => exact sound.1.started admits
  | restart generation objects =>
      rw [sound.2.starting] at admits
      cases admits
  | wait call generation objects => exact sound.2.started
  | drain call generation object objects => exact sound.2.1.started

end Lifecycle

namespace BarrierSound

variable {system : BarrierSystem} {current : Nat} {phase : BarrierPhase} {caller : Caller}

theorem current_of_held (sound : BarrierSound system current phase)
    (member : caller ∈ system.callers) (object : RundownObject) {generation : Nat}
    (observed : caller.generation = some generation)
    (held : caller.holds object = some generation) :
    generation = current ∧ phase ≠ .starting ∧
      ∀ other, (system.barrier.rundown other).epoch = current := by
  have bound := ((sound.callers caller member).observed observed).2
  have epoch := (sound.tracks object).current caller member generation held
  rcases sound.lifecycle.epochs with ⟨steady, same⟩ | ⟨-, either⟩
  · exact ⟨epoch.trans (same object), steady, same⟩
  · exfalso
    rcases either object with ⟨-, none⟩ | next
    · rw [(sound.tracks object).not_held none member] at held
      cases held
    · omega

theorem callers_set {index : Nat} (sound : BarrierSound system current phase) {new : Caller}
    (newSound : CallerSound current phase system.activated new) :
    ∀ caller ∈ system.callers.set index new,
      CallerSound current phase system.activated caller := by
  intro caller member
  rcases List.mem_or_eq_of_mem_set member with earlier | same
  · exact sound.callers caller earlier
  · rw [same]
    exact newSound

theorem tracks_change (sound : BarrierSound system current phase) {index : Nat} {new : Caller}
    {barrier : CallbackBarrier} (found : system.callers[index]? = some caller)
    (change : Caller.Change system.barrier caller new barrier) (object : RundownObject) :
    Tracks (barrier.rundown object) (Caller.holds object) (system.callers.set index new) := by
  cases change with
  | keep same => exact (sound.tracks object).keep found (same object)
  | acquire acquired isOpen known idle holding same =>
      rw [rundown_setRundown]
      split
      · rename_i this
        subst this
        exact (sound.tracks object).acquire found idle holding
      · rename_i other
        exact (sound.tracks object).keep found (same object other)
  | release released epoch holding idle same =>
      rw [rundown_setRundown]
      split
      · rename_i this
        subst this
        exact (sound.tracks object).release found holding idle
      · rename_i other
        exact (sound.tracks object).keep found (same object other)

theorem lifecycle_change (sound : BarrierSound system current phase)
    (member : caller ∈ system.callers) {new : Caller} {barrier : CallbackBarrier}
    (change : Caller.Change system.barrier caller new barrier) :
    LifecycleSound current phase barrier system.lifecycle := by
  refine sound.lifecycle.keep change.state ?_ ?_ ?_
  · intro object
    cases change with
    | keep => rfl
    | _ =>
        rw [rundown_setRundown]
        split
        · rename_i this
          subst this
          rfl
        · rfl
  · intro object
    cases change with
    | keep => rfl
    | _ =>
        rw [rundown_setRundown]
        split
        · rename_i this
          subst this
          rfl
        · rfl
  · intro object quiet
    cases change with
    | keep => exact quiet
    | acquire acquired isOpen known idle holding same =>
        rw [rundown_setRundown]
        split
        · rename_i this
          subst this
          obtain ⟨generation, observed⟩ := known
          have bound := (sound.callers caller member).observed observed
          rcases quiet.2 with closing | never
          · rw [isOpen] at closing
            cases closing
          · omega
        · exact quiet
    | release released epoch holding idle same =>
        rw [rundown_setRundown]
        split
        · rename_i this
          subst this
          refine ⟨?_, quiet.2⟩
          simp only [Ref.release]
          rw [quiet.1]
        · exact quiet

theorem callerSound_blank {activated : List Nat} (unknown : caller.generation = none)
    (unchecked : ¬ caller.Checked) (refused : ∀ entry, ¬ caller.Granted entry)
    (inactive : ∀ entry, ¬ caller.ActiveAdmission entry) :
    CallerSound current phase activated caller where
  observed known := by
    rw [unknown] at known
    cases known
  checked checked := absurd checked unchecked
  granted granted := absurd granted (refused _)
  activated granted := absurd granted (refused _)
  access active := absurd active (inactive _)

theorem callerSound_returned {activated : List Nat} :
    CallerSound current phase activated .returned :=
  callerSound_blank rfl id (fun _ => id) fun _ => id

theorem callerSound_rejected {activated : List Nat} (lifetime : Nat) :
    CallerSound current phase activated (.rejected lifetime) :=
  callerSound_blank rfl id (fun _ => id) fun _ => id

/-- A lifetime reference that was acquired before the state showed an admitting phase is of the
generation that the state shows. -/
theorem lifetime_current (sound : BarrierSound system current phase)
    (member : caller ∈ system.callers) (steady : phase ≠ .starting) {lifetime : Nat}
    (held : caller.holds .callbackLifetime = some lifetime) : lifetime = current := by
  rcases sound.lifecycle.epochs with ⟨-, same⟩ | ⟨starting, -⟩
  · exact ((sound.tracks .callbackLifetime).current caller member lifetime held).trans
      (same .callbackLifetime)
  · exact absurd starting steady

section CallerSteps

variable (sound : BarrierSound system current phase) (small : current < 2 ^ 56)

include sound small

theorem callerSound_pinned_callback {generation lifetime : Nat}
    (member : .pinned .callback generation lifetime ∈ system.callers) :
    CallerSound current phase system.activated
      (Caller.step system.barrier (.pinned .callback generation lifetime)).1 := by
  have before := sound.callers _ member
  simp only [Caller.step, sound.state, statePhase_stateToken,
    stateGeneration_stateToken current phase small]
  split
  · exact callerSound_rejected lifetime
  · rename_i same
    obtain rfl : current = generation := by simpa using same
    split
    · rename_i admits
      have steady : phase ≠ .starting := by
        rintro rfl
        cases admits
      have pinned : lifetime = current := sound.lifetime_current member steady rfl
      refine ⟨before.observed, ?_, False.elim, False.elim, False.elim⟩
      intro _ object epoch held
      cases object with
      | callbackLifetime =>
          cases held
          rw [pinned]
          rfl
      | classify => cases held
      | flowDelete => cases held
    · exact callerSound_rejected lifetime

theorem callerSound_pinned_device {entry : DeviceEntry} {generation lifetime : Nat}
    (member : .pinned (.device entry) generation lifetime ∈ system.callers) :
    CallerSound current phase system.activated
      (Caller.step system.barrier (.pinned (.device entry) generation lifetime)).1 := by
  have before := sound.callers _ member
  simp only [Caller.step, sound.state, statePhase_stateToken,
    stateGeneration_stateToken current phase small]
  split
  · exact callerSound_rejected lifetime
  · rename_i same
    obtain rfl : current = generation := by simpa using same
    split
    · rename_i grants
      have steady : phase ≠ .starting ∧ phase ≠ .prepared := by
        cases entry <;> cases phase <;> simp [DeviceEntry.grants] at grants ⊢
      have pinned : lifetime = current := sound.lifetime_current member steady.1 rfl
      refine ⟨before.observed, ?_, ?_, ?_, False.elim⟩
      · intro _ object epoch held
        cases object with
        | callbackLifetime =>
            cases held
            rw [pinned]
            rfl
        | classify => cases held
        | flowDelete => cases held
      · intro _ _ _
        exact steady.2
      · intro classify generation known
        cases classify
        cases known
        refine sound.opened ?_
        cases phase <;> simp [DeviceEntry.grants] at grants ⊢
    · split
      · rename_i bypasses
        have steady : phase ≠ .starting := by
          cases entry <;> cases phase <;> simp [DeviceEntry.bypasses] at bypasses ⊢
        have pinned : lifetime = current := sound.lifetime_current member steady rfl
        refine ⟨before.observed, ?_, ?_, ?_, ?_⟩
        · intro _ object epoch held
          cases object with
          | callbackLifetime =>
              cases held
              rw [pinned]
              rfl
          | classify => simp [Caller.holds, Caller.deviceAccess] at held
          | flowDelete => simp [Caller.holds, Caller.deviceAccess] at held
        · intro granted active
          simp [Caller.Granted] at active
        · intro active
          simp [Caller.Granted] at active
        · intro granted active
          simp [Caller.ActiveAdmission] at active
      · exact callerSound_rejected lifetime

omit small in
theorem callerSound_passed {entry : DeviceEntry} {generation lifetime : Nat}
    (member : .passed entry generation lifetime ∈ system.callers) :
    CallerSound current phase system.activated
      (Caller.step system.barrier (.passed entry generation lifetime)).1 := by
  have before := sound.callers _ member
  have pinned : some generation = some lifetime := before.checked trivial
    (show Caller.holds .callbackLifetime (.passed entry generation lifetime) = some lifetime from rfl)
  cases pinned
  obtain ⟨same, -, epochs⟩ := sound.current_of_held member .callbackLifetime rfl rfl
  subst same
  refine ⟨before.observed, ?_, before.granted, before.activated, False.elim⟩
  intro _ object epoch held
  have access (granted : DeviceEntry)
      (acquired : Caller.deviceAccess granted (Caller.step system.barrier
        (.passed entry generation generation)).1 = some epoch) : epoch = generation := by
    simp only [Caller.step, Ref.acquire, Caller.deviceAccess] at acquired
    split at acquired
    · split at acquired
      · cases acquired
      · cases acquired
        exact epochs entry.object
    · cases acquired
  cases object with
  | callbackLifetime =>
      cases held
      rfl
  | classify =>
      rw [access .classify held]
      rfl
  | flowDelete =>
      rw [access .flowDelete held]
      rfl

theorem callerSound_step (member : caller ∈ system.callers) :
    CallerSound current phase system.activated (caller.step system.barrier).1 := by
  have before := sound.callers caller member
  cases caller with
  | entering entry =>
      simp only [Caller.step, sound.state, statePhase_stateToken,
        stateGeneration_stateToken current phase small]
      split
      · rename_i admits
        refine ⟨?_, False.elim, False.elim, False.elim, False.elim⟩
        intro generation known
        cases known
        exact ⟨sound.lifecycle.started admits, Nat.le_refl _⟩
      · exact callerSound_returned
  | observed entry generation =>
      simp only [Caller.step, Ref.acquire]
      cases system.barrier.callbackLifetime.closing with
      | true => exact callerSound_returned
      | false => exact ⟨before.observed, False.elim, False.elim, False.elim, False.elim⟩
  | pinned entry generation lifetime =>
      cases entry with
      | callback => exact sound.callerSound_pinned_callback small member
      | device entry => exact sound.callerSound_pinned_device small member
  | passed entry generation lifetime => exact sound.callerSound_passed member
  | deciding entry generation lifetime deviceAccess =>
      refine ⟨before.observed, ?_, ?_, ?_, ?_⟩
      · intro _ object epoch held
        exact before.checked trivial
          (show Caller.holds object (.deciding entry generation lifetime deviceAccess) = some epoch
            by cases object <;> exact held)
      · intro granted active
        exact before.granted active.1
      · intro active
        exact before.activated active.1
      · intro granted active
        obtain ⟨rfl, active⟩ := active
        obtain ⟨epoch, acquired⟩ := Option.isSome_iff_exists.mp (Bool.and_eq_true_iff.mp active).1
        refine ⟨epoch, ?_⟩
        subst acquired
        cases entry <;> rfl
  | admission entry generation lifetime active deviceAccess =>
      cases deviceAccess with
      | none => exact callerSound_returned
      | some deviceAccess =>
          refine ⟨before.observed, ?_, ?_, ?_, ?_⟩
          · intro _ object epoch held
            cases object with
            | callbackLifetime => cases held
            | classify => exact @before.checked trivial .classify epoch held
            | flowDelete => exact @before.checked trivial .flowDelete epoch held
          · intro granted same
            exact before.granted ⟨same, .inr rfl⟩
          · intro same
            exact before.activated ⟨same, .inr rfl⟩
          · intro granted active
            obtain ⟨rfl, -⟩ := active
            refine ⟨deviceAccess, ?_⟩
            cases entry <;> rfl
  | callbackAdmission generation lifetime => exact callerSound_returned
  | leaving entry generation active deviceAccess => exact callerSound_returned
  | rejected lifetime => exact callerSound_returned
  | returned => exact callerSound_returned

theorem advance {index : Nat} (found : system.callers[index]? = some caller) :
    BarrierSound
      { system with
        barrier := (caller.step system.barrier).2
        callers := system.callers.set index (caller.step system.barrier).1 } current phase := by
  have member := List.mem_of_getElem? found
  have change := caller.change system.barrier
  exact {
    state := change.state.trans sound.state
    tracks := sound.tracks_change found change
    callers := sound.callers_set (sound.callerSound_step small member)
    lifecycle := sound.lifecycle_change member change
    opened := sound.opened }

end CallerSteps

theorem enter (sound : BarrierSound system current phase) (entry : CallbackEntry) :
    BarrierSound { system with callers := system.callers ++ [.entering entry] } current phase where
  state := sound.state
  tracks object := by
    refine (sound.tracks object).append ?_
    cases object <;> rfl
  callers caller member := by
    rcases List.mem_append.mp member with earlier | new
    · exact sound.callers caller earlier
    · rw [List.mem_singleton.mp new]
      exact callerSound_blank rfl id (fun _ => id) fun _ => id
  lifecycle := sound.lifecycle
  opened := sound.opened

end BarrierSound

theorem CallerSound.mono {current next : Nat} {phase nextPhase : BarrierPhase}
    {activated later : List Nat} {caller : Caller}
    (sound : CallerSound current phase activated caller) (grows : current ≤ next)
    (renewed : nextPhase = .prepared → current < next) (kept : activated ⊆ later) :
    CallerSound next nextPhase later caller where
  observed known := by
    have bound := sound.observed known
    omega
  checked := sound.checked
  granted granted known prepared := by
    have bound := (sound.observed known).2
    have new := renewed prepared
    omega
  activated granted _ known := kept (sound.activated granted known)
  access := sound.access

namespace BarrierSound

variable {system : BarrierSystem} {current : Nat} {phase : BarrierPhase}

theorem publish (sound : BarrierSound system current phase) {next : Nat}
    {nextPhase : BarrierPhase} {lifecycle : LifecycleThread} {activated : List Nat}
    (grows : current ≤ next) (renewed : nextPhase = .prepared → current < next)
    (kept : system.activated ⊆ activated)
    (lifecycleSound : LifecycleSound next nextPhase
      (system.barrier.store (stateToken next nextPhase)) lifecycle)
    (opened : nextPhase = .opened → next ∈ activated) :
    BarrierSound
      { system with
        barrier := system.barrier.store (stateToken next nextPhase)
        lifecycle := lifecycle
        activated := activated } next nextPhase where
  state := rfl
  tracks object := by
    rw [rundown_store]
    exact sound.tracks object
  callers caller member := (sound.callers caller member).mono grows renewed kept
  lifecycle := lifecycleSound
  opened := opened

theorem replace (sound : BarrierSound system current phase) {object : RundownObject} {ref : Ref}
    {lifecycle : LifecycleThread} (tracks : Tracks ref (Caller.holds object) system.callers)
    (lifecycleSound : LifecycleSound current phase (system.barrier.setRundown object ref)
      lifecycle) :
    BarrierSound
      { system with
        barrier := system.barrier.setRundown object ref
        lifecycle := lifecycle } current phase where
  state := (state_setRundown _ _ _).trans sound.state
  tracks other := by
    rw [rundown_setRundown]
    split
    · rename_i this
      rw [this]
      exact tracks
    · exact sound.tracks other
  callers := sound.callers
  lifecycle := lifecycleSound
  opened := sound.opened

theorem afterLoad_cases (call : LifecycleCall) {token : Nat} (shown : statePhase token = some phase) :
    BarrierSystem.afterLoad call token = .idle ∨ BarrierSystem.afterLoad call token = .load call ∨
      BarrierSystem.afterLoad call token = .exchange call token ∧ Exchangeable call phase := by
  cases call <;> cases phase <;> simp [BarrierSystem.afterLoad, shown, Exchangeable]

theorem load (sound : BarrierSound system current phase) {call : LifecycleCall}
    (settled : Settled current phase system.barrier) :
    BarrierSound
      { system with
        lifecycle := BarrierSystem.afterLoad call system.barrier.state } current phase := by
  have shown : statePhase system.barrier.state = some phase := by
    rw [sound.state, statePhase_stateToken]
  refine { sound with lifecycle := ?_ }
  rcases afterLoad_cases call shown with idle | again | ⟨exchange, exchangeable⟩
  · rw [idle]
    exact settled
  · rw [again]
    exact settled
  · rw [exchange]
    exact ⟨settled, rfl, exchangeable⟩

theorem exchanged (sound : BarrierSound system current phase) (small : current < 2 ^ 56)
    (call : LifecycleCall) (settled : Settled current phase system.barrier)
    (exchangeable : Exchangeable call phase) :
    ∃ nextPhase, BarrierSound (system.exchanged system.barrier.state call) current nextPhase := by
  have shown : stateGeneration system.barrier.state = current := by
    rw [sound.state, stateGeneration_stateToken current phase small]
  have phaseShown : statePhase system.barrier.state = some phase := by
    rw [sound.state, statePhase_stateToken]
  cases call with
  | prepare =>
      refine ⟨.starting, ?_⟩
      simp only [BarrierSystem.exchanged, shown]
      refine sound.publish (Nat.le_refl _) (by simp) (List.Subset.refl _) ?_ (by simp)
      refine ⟨rfl, rfl, by decide, ?_, ?_⟩
      · intro object _
        rw [rundown_store]
        exact ⟨settled.epochs object, settled.quiet exchangeable object⟩
      · intro object new
        cases object <;> simp at new
  | activate =>
      refine ⟨.opened, ?_⟩
      simp only [BarrierSystem.exchanged, shown]
      refine sound.publish (Nat.le_refl _) (by simp) (List.subset_append_left _ _) ?_ (by simp)
      have prepared : phase = .prepared := exchangeable
      subst prepared
      exact ⟨settled.epochs, fun _ => settled.started rfl, by simp, by simp, by simp, by simp⟩
  | closeClassifyAndWait =>
      refine ⟨.classifyClosing, ?_⟩
      simp only [BarrierSystem.exchanged, shown]
      refine sound.publish (Nat.le_refl _) (by simp) (List.Subset.refl _) ?_ (by simp)
      refine ⟨rfl, settled.epochs, ?_, ⟨rfl, rfl⟩, ?_⟩
      · rcases exchangeable with rfl | rfl
        · exact settled.started rfl
        · exact settled.started rfl
      · intro object left closes
        exact absurd (List.mem_singleton.mpr closes.2) left
  | closeAllAndWait =>
      refine ⟨.draining, ?_⟩
      simp only [BarrierSystem.exchanged, shown, phaseShown]
      refine sound.publish (Nat.le_refl _) (by simp) (List.Subset.refl _) ?_ (by simp)
      refine ⟨rfl, settled.epochs, ?_, rfl, ?_⟩
      · rcases exchangeable with rfl | rfl | rfl
        · exact settled.started rfl
        · exact settled.started rfl
        · exact settled.started rfl
      · intro object left _
        rw [rundown_store]
        rcases exchangeable with rfl | rfl | rfl
        · cases object <;> simp [BarrierSystem.objectsToDrain] at left
        · cases object <;> simp [BarrierSystem.objectsToDrain] at left
        · cases object with
          | classify => exact settled.classify rfl
          | _ => simp [BarrierSystem.objectsToDrain] at left

theorem restart_one (sound : BarrierSound system current phase) {object : RundownObject}
    {objects : List RundownObject}
    (restarting : Restarting current phase system.barrier (object :: objects)) :
    BarrierSound
      { system with
        barrier := system.barrier.setRundown object (system.barrier.rundown object).restart
        lifecycle := .restart current objects } current phase := by
  obtain ⟨epoch, quiet⟩ := restarting.old object List.mem_cons_self
  obtain ⟨single, distinct⟩ := List.nodup_cons.mp restarting.distinct
  refine sound.replace ((sound.tracks object).restart quiet.1) ⟨rfl, restarting.starting,
    distinct, ?_, ?_⟩
  · intro other left
    have different : other ≠ object := fun same => single (same ▸ left)
    rw [rundown_setRundown, if_neg different]
    exact restarting.old other (List.mem_cons_of_mem _ left)
  · intro other done
    rw [rundown_setRundown]
    split
    · simp only [Ref.restart, epoch]
    · rename_i different
      refine restarting.new other fun member => ?_
      rcases List.mem_cons.mp member with same | left
      · exact different same
      · exact done left

theorem restart_done (sound : BarrierSound system current phase)
    (restarting : Restarting current phase system.barrier []) (small : current + 1 < 2 ^ 56) :
    BarrierSound
      { system with
        barrier := system.barrier.store (stateToken ((current + 1) % 2 ^ 64) .prepared)
        lifecycle := .idle } (current + 1) .prepared := by
  have unwrapped : (current + 1) % 2 ^ 64 = current + 1 :=
    Nat.mod_eq_of_lt (Nat.lt_of_lt_of_le small (by decide))
  rw [unwrapped]
  refine sound.publish (Nat.le_succ _) (fun _ => Nat.lt_succ_self _) (List.Subset.refl _) ?_
    (by simp)
  refine ⟨?_, fun _ => Nat.succ_pos _, by simp, by simp, by simp, by simp⟩
  intro object
  rw [rundown_store]
  exact restarting.new object List.not_mem_nil

theorem wait_one (sound : BarrierSound system current phase) {call : LifecycleCall}
    {object : RundownObject} {objects : List RundownObject}
    (draining : Draining current phase system.barrier call (object :: objects)) :
    BarrierSound
      { system with
        barrier := system.barrier.setRundown object (system.barrier.rundown object).beginWait
        lifecycle := .drain call current object objects } current phase := by
  refine sound.replace (sound.tracks object).beginWait ⟨rfl, { draining with
    epochs := ?_, quiet := ?_ }, ?_⟩
  · intro other
    rw [rundown_setRundown]
    split
    · exact draining.epochs object
    · exact draining.epochs other
  · intro other left closes
    rw [rundown_setRundown]
    split
    · rename_i same
      exact absurd (same ▸ List.mem_cons_self) left
    · exact draining.quiet other left closes
  · rw [rundown_setRundown, if_pos rfl]
    rfl

theorem wait_done (sound : BarrierSound system current phase) {call : LifecycleCall}
    (draining : Draining current phase system.barrier call []) :
    BarrierSound
      { system with
        barrier := system.barrier.store (stateToken current (BarrierSystem.finalPhase call))
        lifecycle := .idle } current (BarrierSystem.finalPhase call) := by
  have quiet := fun object => draining.quiet object List.not_mem_nil
  have closing := draining.closing
  cases call with
  | prepare => exact closing.elim
  | activate => exact closing.elim
  | closeClassifyAndWait =>
      refine sound.publish (Nat.le_refl _) (by simp [BarrierSystem.finalPhase])
        (List.Subset.refl _) ?_ (by simp [BarrierSystem.finalPhase])
      refine ⟨draining.epochs, fun _ => draining.started, ?_, ?_, ?_, ?_⟩
      · simp [BarrierSystem.finalPhase]
      · simp [BarrierSystem.finalPhase]
      · intro _
        exact quiet .classify closing
      · simp [BarrierSystem.finalPhase]
  | closeAllAndWait =>
      refine sound.publish (Nat.le_refl _) (by simp [BarrierSystem.finalPhase])
        (List.Subset.refl _) ?_ (by simp [BarrierSystem.finalPhase])
      refine ⟨draining.epochs, ?_, ?_, ?_, ?_, ?_⟩
      · simp [BarrierSystem.finalPhase, admitsCallback]
      · simp [BarrierSystem.finalPhase]
      · intro _ object
        rw [rundown_store]
        exact quiet object closing
      · simp [BarrierSystem.finalPhase]
      · simp [BarrierSystem.finalPhase]

theorem drain_one (sound : BarrierSound system current phase) {call : LifecycleCall}
    {object : RundownObject} {objects : List RundownObject}
    (draining : Draining current phase system.barrier call (object :: objects))
    (closing : (system.barrier.rundown object).closing = true)
    (released : (system.barrier.rundown object).references = 0) :
    BarrierSound { system with lifecycle := .wait call current objects } current phase := by
  refine { sound with lifecycle := ⟨rfl, { draining with quiet := ?_ }⟩ }
  intro other left closes
  by_cases same : other = object
  · subst same
    exact ⟨released, .inl closing⟩
  · refine draining.quiet other (fun member => ?_) closes
    rcases List.mem_cons.mp member with this | later
    · exact same this
    · exact left later

theorem lifecycleStep (sound : BarrierSound system current phase)
    (few : system.generations < 2 ^ 56) :
    ∃ next nextPhase, BarrierSound system.lifecycleStep next nextPhase := by
  have small : current < 2 ^ 56 :=
    Nat.lt_of_le_of_lt (sound.lifecycle.le_epoch .callbackLifetime) few
  have lifecycle := sound.lifecycle
  unfold BarrierSystem.lifecycleStep
  split
  all_goals
    rename_i stands
    rw [stands] at lifecycle
  · exact ⟨current, phase, sound⟩
  · exact ⟨current, phase, sound.load lifecycle⟩
  · rename_i call token
    obtain ⟨settled, rfl, exchangeable⟩ := lifecycle
    rw [if_pos rfl]
    obtain ⟨nextPhase, next⟩ := sound.exchanged small call settled exchangeable
    exact ⟨current, nextPhase, next⟩
  · obtain ⟨rfl, restarting⟩ := lifecycle
    exact ⟨_, phase, sound.restart_one restarting⟩
  · obtain ⟨rfl, restarting⟩ := lifecycle
    have epoch := restarting.new .callbackLifetime List.not_mem_nil
    exact ⟨_, .prepared, sound.restart_done restarting
      (Nat.lt_of_le_of_lt (Nat.le_of_eq epoch.symm) few)⟩
  · obtain ⟨rfl, draining⟩ := lifecycle
    exact ⟨_, phase, sound.wait_one draining⟩
  · obtain ⟨rfl, draining⟩ := lifecycle
    exact ⟨_, _, sound.wait_done draining⟩
  · obtain ⟨rfl, draining, closing⟩ := lifecycle
    split
    · rename_i released
      exact ⟨_, phase, sound.drain_one draining closing released⟩
    · exact ⟨_, phase, sound⟩

theorem step (sound : BarrierSound system current phase) (few : system.generations < 2 ^ 56)
    (step : BarrierStep) : ∃ next nextPhase, BarrierSound (system.step step) next nextPhase := by
  have small : current < 2 ^ 56 :=
    Nat.lt_of_le_of_lt (sound.lifecycle.le_epoch .callbackLifetime) few
  cases step with
  | enter entry => exact ⟨current, phase, sound.enter entry⟩
  | advance index =>
      refine ⟨current, phase, ?_⟩
      simp only [BarrierSystem.step]
      split
      · rename_i caller found
        exact sound.advance small found
      · exact sound
  | call call =>
      refine ⟨current, phase, ?_⟩
      simp only [BarrierSystem.step]
      split
      · rename_i idle
        have settled := sound.lifecycle
        rw [idle] at settled
        exact { sound with lifecycle := settled }
      · exact sound
  | lifecycle => exact sound.lifecycleStep few

theorem new : BarrierSound .new 0 .neverStarted where
  state := rfl
  tracks object := by
    cases object <;> exact ⟨rfl, by simp [BarrierSystem.new]⟩
  callers := by simp [BarrierSystem.new]
  lifecycle := by
    refine ⟨?_, by simp [admitsCallback], fun _ => rfl, ?_, by simp, by simp⟩
    · intro object
      cases object <;> rfl
    · intro _ object
      cases object <;> exact ⟨rfl, .inr rfl⟩
  opened := by simp

theorem released_of_closed (sound : BarrierSound system current .closed)
    (object : RundownObject) : (system.barrier.rundown object).references = 0 := by
  have lifecycle := sound.lifecycle
  generalize system.lifecycle = stands at lifecycle
  cases stands with
  | idle => exact (lifecycle.quiet (.inr rfl) object).1
  | load call => exact (lifecycle.quiet (.inr rfl) object).1
  | exchange call token => exact (lifecycle.1.quiet (.inr rfl) object).1
  | restart generation objects => cases lifecycle.2.starting
  | wait call generation objects => exact absurd rfl lifecycle.2.steady.2.1
  | drain call generation object objects => exact absurd rfl lifecycle.2.1.steady.2.1

theorem released_of_classifyClosed (sound : BarrierSound system current .classifyClosed) :
    system.barrier.classify.references = 0 := by
  have lifecycle := sound.lifecycle
  generalize system.lifecycle = stands at lifecycle
  cases stands with
  | idle => exact (lifecycle.classify rfl).1
  | load call => exact (lifecycle.classify rfl).1
  | exchange call token => exact (lifecycle.1.classify rfl).1
  | restart generation objects => cases lifecycle.2.starting
  | wait call generation objects => exact absurd rfl lifecycle.2.steady.2.2
  | drain call generation object objects => exact absurd rfl lifecycle.2.1.steady.2.2

end BarrierSound

namespace BarrierSystem

variable (system : BarrierSystem)

theorem generations_step (step : BarrierStep) :
    system.generations ≤ (system.step step).generations := by
  cases step with
  | enter entry => exact Nat.le_refl _
  | advance index =>
      simp only [BarrierSystem.step]
      split
      · rename_i caller found
        have change := caller.change system.barrier
        simp only [generations]
        generalize (caller.step system.barrier).2 = barrier at change
        cases change with
        | keep => exact Nat.le_refl _
        | acquire object => cases object <;> exact Nat.le_refl _
        | release object => cases object <;> exact Nat.le_refl _
      · exact Nat.le_refl _
  | call call =>
      simp only [BarrierSystem.step]
      split <;> exact Nat.le_refl _
  | lifecycle =>
      simp only [BarrierSystem.step, lifecycleStep]
      split
      · exact Nat.le_refl _
      · exact Nat.le_refl _
      · split
        · rename_i call token _ _
          cases call <;> exact Nat.le_refl _
        · exact Nat.le_refl _
      · rename_i generation object objects _
        cases object with
        | callbackLifetime => exact Nat.le_succ _
        | _ => exact Nat.le_refl _
      · exact Nat.le_refl _
      · rename_i call generation object objects _
        cases object <;> exact Nat.le_refl _
      · exact Nat.le_refl _
      · split <;> exact Nat.le_refl _

theorem generations_foldl (steps : List BarrierStep) :
    system.generations ≤ (steps.foldl step system).generations := by
  induction steps generalizing system with
  | nil => exact Nat.le_refl _
  | cons first rest ih => exact Nat.le_trans (system.generations_step first) (ih (system.step first))

theorem sound_foldl {steps : List BarrierStep} {system : BarrierSystem}
    (sound : ∃ current phase, BarrierSound system current phase)
    (few : (steps.foldl step system).generations < 2 ^ 56) :
    ∃ current phase, BarrierSound (steps.foldl step system) current phase := by
  induction steps generalizing system with
  | nil => exact sound
  | cons first rest ih =>
      obtain ⟨current, phase, sound⟩ := sound
      have bound : system.generations < 2 ^ 56 :=
        Nat.lt_of_le_of_lt (system.generations_foldl (first :: rest)) few
      exact ih (sound.step bound first) few

/-- The barrier opens only by a successful `activate`. -/
theorem opened_step (step : BarrierStep) :
    (system.step step).activated.length = system.activated.length ∧
        ((system.step step).phase = some .opened → system.phase = some .opened) ∨
      (system.step step).activated.length = system.activated.length + 1 := by
  cases step with
  | enter entry => exact .inl ⟨rfl, id⟩
  | advance index =>
      refine .inl ?_
      simp only [BarrierSystem.step]
      split
      · rename_i caller found
        refine ⟨rfl, ?_⟩
        simp only [phase, (caller.change system.barrier).state]
        exact id
      · exact ⟨rfl, id⟩
  | call call =>
      refine .inl ?_
      simp only [BarrierSystem.step]
      split <;> exact ⟨rfl, id⟩
  | lifecycle =>
      simp only [BarrierSystem.step, lifecycleStep]
      split
      · exact .inl ⟨rfl, id⟩
      · exact .inl ⟨rfl, id⟩
      · split
        · rename_i call token _ _
          cases call with
          | activate =>
              refine .inr ?_
              simp [exchanged]
          | _ => exact .inl ⟨rfl, by simp [phase, exchanged]⟩
        · exact .inl ⟨rfl, id⟩
      · refine .inl ⟨rfl, ?_⟩
        simp only [phase, state_setRundown]
        exact id
      · exact .inl ⟨rfl, by simp [phase]⟩
      · refine .inl ⟨rfl, ?_⟩
        simp only [phase, state_setRundown]
        exact id
      · rename_i call generation _
        exact .inl ⟨rfl, by cases call <;> simp [phase, finalPhase]⟩
      · split <;> exact .inl ⟨rfl, id⟩

theorem activated_foldl (steps : List BarrierStep) :
    system.activated.length ≤ (steps.foldl step system).activated.length := by
  induction steps generalizing system with
  | nil => exact Nat.le_refl _
  | cons first rest ih =>
      have later := ih (system.step first)
      rw [List.foldl_cons]
      rcases system.opened_step first with ⟨same, -⟩ | more <;> omega

theorem callers_lifecycleStep : system.lifecycleStep.callers = system.callers := by
  unfold lifecycleStep
  split
  case h_3 call token stands =>
    split
    · cases call <;> rfl
    · rfl
  case h_8 => split <;> rfl
  all_goals rfl

theorem active_step {barrier : CallbackBarrier} {caller : Caller} {entry : DeviceEntry}
    (active : (caller.step barrier).1.ActiveAdmission entry) :
    caller.ActiveAdmission entry ∨ entry.grants (statePhase barrier.state) = true := by
  cases caller with
  | entering granted =>
      simp only [Caller.step] at active
      split at active <;> exact active.elim
  | observed granted generation =>
      simp only [Caller.step, Ref.acquire] at active
      cases closing : barrier.callbackLifetime.closing <;>
        simp [closing, Caller.ActiveAdmission] at active
  | pinned granted generation lifetime =>
      cases granted with
      | callback =>
          simp only [Caller.step] at active
          split at active
          · exact active.elim
          · split at active <;> exact active.elim
      | device granted =>
          simp only [Caller.step] at active
          split at active
          · exact active.elim
          · split at active
            · exact active.elim
            · split at active
              · cases active.2
              · exact active.elim
  | passed granted generation lifetime => exact active.elim
  | deciding granted generation lifetime deviceAccess =>
      obtain ⟨rfl, both⟩ := active
      exact .inr (Bool.and_eq_true_iff.mp both).2
  | admission granted generation lifetime isActive deviceAccess =>
      cases deviceAccess with
      | none => exact active.elim
      | some deviceAccess => exact .inl active
  | _ => exact active.elim

theorem inactive_foldl {steps : List BarrierStep} {system : BarrierSystem}
    (shut : system.phase ≠ some .opened)
    (none : ∀ caller ∈ system.callers, ¬ caller.ActiveAdmission .classify)
    (unactivated : (steps.foldl step system).activated.length = system.activated.length) :
    ∀ caller ∈ (steps.foldl step system).callers, ¬ caller.ActiveAdmission .classify := by
  induction steps generalizing system with
  | nil => exact none
  | cons first rest ih =>
      rw [List.foldl_cons] at unactivated ⊢
      have grows := (system.step first).activated_foldl rest
      rw [unactivated] at grows
      rcases system.opened_step first with ⟨same, opens⟩ | more
      · refine ih (fun opened => shut (opens opened)) ?_ ?_
        · cases first with
          | enter entry =>
              intro caller member
              rcases List.mem_append.mp member with earlier | new
              · exact none caller earlier
              · rw [List.mem_singleton.mp new]
                exact id
          | advance index =>
              simp only [BarrierSystem.step]
              split
              · rename_i old found
                intro caller member active
                rcases List.mem_or_eq_of_mem_set member with earlier | new
                · exact none caller earlier active
                · rw [new] at active
                  rcases active_step active with before | grants
                  · exact none old (List.mem_of_getElem? found) before
                  · refine shut ?_
                    unfold phase
                    generalize statePhase system.barrier.state = shown at grants
                    cases shown with
                    | none => cases grants
                    | some shown => cases shown <;> simp [DeviceEntry.grants] at grants ⊢
              · exact none
          | call call =>
              simp only [BarrierSystem.step]
              split <;> exact none
          | lifecycle =>
              simp only [BarrierSystem.step]
              rw [callers_lifecycleStep]
              exact none
        · rw [unactivated, same]
      · omega

end BarrierSystem

theorem BarrierSystem.run_sound {steps : List BarrierStep}
    (few : (run steps).generations < 2 ^ 56) :
    ∃ current phase, BarrierSound (run steps) current phase :=
  sound_foldl ⟨0, _, BarrierSound.new⟩ few

namespace Caller

theorem Admitted.checked {caller : Caller} (admitted : caller.Admitted) : caller.Checked := by
  cases caller <;> first | exact admitted.elim | trivial

theorem ActiveAdmission.admitted {caller : Caller} {entry : DeviceEntry}
    (active : caller.ActiveAdmission entry) : caller.Admitted := by
  cases caller <;> first | exact active.elim | trivial

theorem ActiveAdmission.granted {caller : Caller} {entry : DeviceEntry}
    (active : caller.ActiveAdmission entry) : caller.Granted entry := by
  cases caller with
  | admission granted generation lifetime isActive deviceAccess =>
      exact ⟨active.1, .inl active.2⟩
  | leaving granted generation isActive deviceAccess => exact active.1
  | _ => exact active.elim

theorem Admitted.holds {caller : Caller} (admitted : caller.Admitted) :
    ∃ object epoch, caller.holds object = some epoch := by
  cases caller with
  | callbackAdmission generation lifetime => exact ⟨.callbackLifetime, lifetime, rfl⟩
  | admission entry generation lifetime active deviceAccess =>
      exact ⟨.callbackLifetime, lifetime, rfl⟩
  | leaving entry generation active deviceAccess =>
      refine ⟨entry.object, deviceAccess, ?_⟩
      cases entry <;> rfl
  | _ => exact admitted.elim

end Caller

namespace BarrierSound

variable {system : BarrierSystem} {current : Nat} {phase : BarrierPhase} {caller : Caller}
  (sound : BarrierSound system current phase) (member : caller ∈ system.callers)

include sound member

theorem admitted_not_closed (admitted : caller.Admitted) : phase ≠ .closed := by
  rintro rfl
  obtain ⟨object, epoch, held⟩ := admitted.holds
  rw [(sound.tracks object).not_held (sound.released_of_closed object) member] at held
  cases held

theorem active_observed {entry : DeviceEntry} (active : caller.ActiveAdmission entry) :
    caller.holds entry.object = some current ∧ caller.generation = some current ∧
      phase ≠ .starting := by
  have callerSound := sound.callers caller member
  obtain ⟨epoch, held⟩ := callerSound.access active
  have observed := callerSound.checked active.admitted.checked held
  obtain ⟨rfl, steady, -⟩ := sound.current_of_held member entry.object observed held
  exact ⟨held, observed, steady⟩

theorem active_flowDelete (active : caller.ActiveAdmission .flowDelete) :
    phase ≠ .prepared ∧ phase ≠ .closed ∧ phase ≠ .starting := by
  obtain ⟨-, observed, steady⟩ := sound.active_observed member active
  exact ⟨(sound.callers caller member).granted active.granted observed,
    sound.admitted_not_closed member active.admitted, steady⟩

end BarrierSound

open BarrierSystem in
/-- Admission for every order of steps of calls and lifecycle calls, over fewer than 2 ^ 56
generations. From a closed classify admission on until the next activation no classify admission
is active. -/
theorem callbackBarrier_admissions (earlier later : List BarrierStep)
    (few : (run (earlier ++ later)).generations < 2 ^ 56) :
    ((run earlier).phase = some .classifyClosed →
      (run (earlier ++ later)).activated = (run earlier).activated →
        ∀ caller ∈ (run (earlier ++ later)).callers, ¬ caller.ActiveAdmission .classify) ∧
    ∀ caller ∈ (run (earlier ++ later)).callers,
      (caller.Admitted → (run (earlier ++ later)).phase ≠ some .closed) ∧
      (caller.ActiveAdmission .classify →
        ∃ generation ∈ (run (earlier ++ later)).activated,
          caller.generation = some generation) ∧
      (caller.ActiveAdmission .flowDelete →
        (run (earlier ++ later)).phase ≠ some .prepared ∧
        (run (earlier ++ later)).phase ≠ some .closed ∧
        (run (earlier ++ later)).phase ≠ some .starting) ∧
      (caller.Admitted → ∀ object epoch, caller.holds object = some epoch →
        caller.generation = some epoch) := by
  have split : run (earlier ++ later) = later.foldl BarrierSystem.step (run earlier) :=
    List.foldl_append
  refine ⟨?_, ?_⟩
  · intro closed unactivated
    rw [split] at few
    have fewEarlier := Nat.lt_of_le_of_lt ((run earlier).generations_foldl later) few
    obtain ⟨current, phase, sound⟩ := run_sound fewEarlier
    rw [BarrierSystem.phase, sound.state, statePhase_stateToken, Option.some.injEq] at closed
    subst closed
    rw [split] at unactivated ⊢
    refine inactive_foldl ?_ ?_ (congrArg List.length unactivated)
    · rw [BarrierSystem.phase, sound.state, statePhase_stateToken]
      simp
    · intro caller member active
      obtain ⟨epoch, held⟩ := (sound.callers caller member).access active
      have released := (sound.tracks .classify).not_held sound.released_of_classifyClosed member
      rw [DeviceEntry.object, released] at held
      cases held
  · obtain ⟨current, phase, sound⟩ := run_sound few
    have shown : (run (earlier ++ later)).phase = some phase := by
      rw [BarrierSystem.phase, sound.state, statePhase_stateToken]
    intro caller member
    have callerSound := sound.callers caller member
    simp only [shown, ne_eq, Option.some.injEq]
    refine ⟨sound.admitted_not_closed member, ?_, sound.active_flowDelete member, ?_⟩
    · intro active
      obtain ⟨-, observed, -⟩ := sound.active_observed member active
      exact ⟨current, callerSound.activated active.granted observed, observed⟩
    · intro admitted object epoch held
      exact callerSound.checked admitted.checked held

/-- A classify call is delayed across an unload and a reload. Another one is active when the
second unload begins. -/
def reloadedBarrier : List BarrierStep :=
  let prepare := BarrierStep.call .prepare :: List.replicate 6 BarrierStep.lifecycle
  let activate := [BarrierStep.call .activate, BarrierStep.lifecycle, BarrierStep.lifecycle]
  prepare ++ activate ++ [BarrierStep.enter (.device .classify), BarrierStep.advance 0] ++
    BarrierStep.call .closeAllAndWait :: List.replicate 9 BarrierStep.lifecycle ++
    prepare ++ activate ++
    BarrierStep.enter (.device .classify) :: List.replicate 5 (BarrierStep.advance 1) ++
    [BarrierStep.advance 0, BarrierStep.advance 0]

theorem callbackBarrier_admissions_reloadedBarrier :
    (BarrierSystem.run reloadedBarrier).callers =
        [.rejected 2, .admission .classify 2 2 true (some 2)] ∧
      (BarrierSystem.run reloadedBarrier).phase = some .opened ∧
      ∃ generation ∈ (BarrierSystem.run reloadedBarrier).activated, some 2 = some generation := by
  have callers : (BarrierSystem.run reloadedBarrier).callers =
      [.rejected 2, .admission .classify 2 2 true (some 2)] := by decide +kernel
  have few : (BarrierSystem.run (reloadedBarrier ++ [])).generations < 2 ^ 56 := by
    decide +kernel
  have member : .admission .classify 2 2 true (some 2) ∈
      (BarrierSystem.run (reloadedBarrier ++ [])).callers := by
    rw [List.append_nil, callers]
    simp
  have active := ((callbackBarrier_admissions reloadedBarrier [] few).2 _ member).2.1 ⟨rfl, rfl⟩
  rw [List.append_nil] at active
  exact ⟨callers, by decide +kernel, active⟩

end WindowsKext
