import WindowsKext.Library.PastTime
import WindowsKext.Library.Rundown

/-! Transport injection and its teardown in `packet.rs`, one atomic operation after the other: any
number of ALE injections with their DPCs, and any number of calls of `Injector::destroy`. `DriverUnload`
closes the callbacks, in which the DPCs run, after the handles are destroyed. -/

namespace WindowsKext.TransportInjection

open Rundown PastTime

inductive TransportProtocol where
  | tcp
  | udp
deriving DecidableEq

def TransportProtocol.requiresDpc : TransportProtocol → Bool
  | .tcp => true
  | .udp => false

def TransportProtocol.usesNetworkSendForAle (_ : TransportProtocol) (inbound loopback : Bool) : Bool :=
  inbound && loopback

/-- What `inject_ale_packet` decides on. -/
structure AlePacket where
  protocol : TransportProtocol
  inbound : Bool
  loopback : Bool
deriving DecidableEq

/-- How an injection ended. WFP was called, and took the packet or rejected it at once. The call failed
and the packet is reclaimed. The call reported success but its DPC reclaims the packet. The packet went
to network-send injection. -/
inductive Outcome where
  | submitted (handle : Nat) (accepted : Bool)
  | failed
  | discarded
  | networkSend
deriving DecidableEq

inductive SubmissionWork where
  | recheck
  | loadHandle
  | submit (handle : Nat)
  | queued (handle : Nat)
  | runDpc (handle : Nat)
  | release (outcome : Outcome)
deriving DecidableEq

inductive InjectionStage where
  | starting
  | acquiring
  | holding (submission : Nat) (work : SubmissionWork)
  | done (outcome : Outcome)
deriving DecidableEq

structure Injection where
  packet : AlePacket
  stage : InjectionStage
deriving DecidableEq

/-- `handle` is `none` for `INVALID_HANDLE_VALUE`. -/
structure TransportInjectionState where
  handle : Option Nat
  submissions : Ref
  closing : Bool
  drained : Bool

def TransportInjectionState.new (handle : Nat) : TransportInjectionState where
  handle := some handle
  submissions := .empty
  closing := false
  drained := false

inductive InjectionEvent where
  | submitted (injection handle : Nat)
  | closed (destroyer : Nat)
  | destroyed (handle : Nat)
deriving DecidableEq

/-- The state that the calls share, with the history of what they did to WFP. -/
structure InjectorShared where
  state : TransportInjectionState
  callbacksClosed : Bool
  events : List InjectionEvent

def InjectorShared.record (shared : InjectorShared) (event : InjectionEvent) : InjectorShared :=
  { shared with events := shared.events ++ [event] }

/-- One operation of `inject_ale_packet`, or of the DPC that it queued. `accepts` says whether the kernel
takes the DPC, and whether WFP takes the packet. -/
def SubmissionWork.step (index : Nat) (packet : AlePacket) (accepts : Bool) (shared : InjectorShared) :
    SubmissionWork → SubmissionWork × InjectorShared
  | .recheck => (if shared.state.closing then .release .failed else .loadHandle, shared)
  | .loadHandle =>
      (match shared.state.handle with
        | some handle => .submit handle
        | none => .release .failed, shared)
  | .submit handle =>
      if packet.protocol.requiresDpc then
        (if accepts then .queued handle else .release .failed, shared)
      else (.release (.submitted handle accepts), shared.record (.submitted index handle))
  | .queued handle => (if shared.callbacksClosed then .release .discarded else .runDpc handle, shared)
  | .runDpc handle =>
      (.release (.submitted handle accepts), shared.record (.submitted index handle))
  | .release outcome => (.release outcome, shared)

def InjectionStage.step (index : Nat) (packet : AlePacket) (accepts : Bool)
    (shared : InjectorShared) : InjectionStage → InjectionStage × InjectorShared
  | .starting =>
      if packet.protocol.usesNetworkSendForAle packet.inbound packet.loopback then
        (.done .networkSend, shared)
      else (if shared.state.closing then .done .failed else .acquiring, shared)
  | .acquiring =>
      let (submission, submissions) := shared.state.submissions.acquire
      (match submission with
        | some submission => .holding submission .recheck
        | none => .done .failed,
        { shared with state := { shared.state with submissions := submissions } })
  | .holding _ (.release outcome) =>
      (.done outcome, { shared with state :=
        { shared.state with submissions := shared.state.submissions.release } })
  | .holding submission work =>
      let (work, shared) := work.step index packet accepts shared
      (.holding submission work, shared)
  | .done outcome => (.done outcome, shared)

/-- Where a call of `destroy` at PASSIVE_LEVEL stands. The operations before `returned` are those of
`close_and_wait`. -/
inductive Destroyer where
  | loadDrained
  | exchange
  | beginWait
  | waitForRelease
  | storeDrained
  | poll
  | returned
  | destroy (handle : Nat)
  | storeInvalid
  | finished
deriving DecidableEq

/-- `succeeds` is the status of `FwpsInjectionHandleDestroy0`. -/
def Destroyer.step (index : Nat) (succeeds : Bool) (shared : InjectorShared) :
    Destroyer → Destroyer × InjectorShared
  | .loadDrained =>
      if shared.state.drained then (.returned, shared.record (.closed index)) else (.exchange, shared)
  | .exchange =>
      if shared.state.closing then (.poll, shared)
      else (.beginWait, { shared with state := { shared.state with closing := true } })
  | .beginWait =>
      (.waitForRelease, { shared with state :=
        { shared.state with submissions := shared.state.submissions.beginWait } })
  | .waitForRelease =>
      (if shared.state.submissions.references = 0 then .storeDrained else .waitForRelease, shared)
  | .storeDrained =>
      (.returned,
        { shared with state := { shared.state with drained := true } }.record (.closed index))
  | .poll =>
      if shared.state.drained then (.returned, shared.record (.closed index)) else (.poll, shared)
  | .returned =>
      (match shared.state.handle with
        | some handle => .destroy handle
        | none => .finished, shared)
  | .destroy handle =>
      -- A handle whose destruction failed stays published.
      (if succeeds then .storeInvalid else .finished, shared.record (.destroyed handle))
  | .storeInvalid => (.finished, { shared with state := { shared.state with handle := none } })
  | .finished => (.finished, shared)

structure InjectorSystem where
  shared : InjectorShared
  injections : List Injection
  destroyers : List Destroyer

inductive InjectorStep where
  | inject (packet : AlePacket)
  | advance (injection : Nat) (accepts : Bool)
  | destroy
  | advanceDestroy (destroyer : Nat) (succeeds : Bool)
  | closeCallbacks

def InjectionEvent.isClosed : InjectionEvent → Bool
  | .closed _ => true
  | _ => false

namespace InjectorSystem

def new (handle : Nat) : InjectorSystem where
  shared :=
    { state := .new handle
      callbacksClosed := false
      events := [] }
  injections := []
  destroyers := []

def step (system : InjectorSystem) : InjectorStep → InjectorSystem
  | .inject packet =>
      { system with injections := system.injections ++ [{ packet := packet, stage := .starting }] }
  | .advance index accepts =>
      match system.injections[index]? with
      | some injection =>
          let (stage, shared) := injection.stage.step index injection.packet accepts system.shared
          { system with
            shared := shared
            injections := system.injections.set index { injection with stage := stage } }
      | none => system
  | .destroy => { system with destroyers := system.destroyers ++ [.loadDrained] }
  | .advanceDestroy index succeeds =>
      match system.destroyers[index]? with
      | some destroyer =>
          let (destroyer, shared) := destroyer.step index succeeds system.shared
          { system with
            shared := shared
            destroyers := system.destroyers.set index destroyer }
      | none => system
  | .closeCallbacks =>
      -- `close_all_and_wait` comes after `destroy_injection_handles`.
      if system.shared.events.any InjectionEvent.isClosed then
        { system with shared := { system.shared with callbacksClosed := true } }
      else system

def run (handle : Nat) (steps : List InjectorStep) : InjectorSystem :=
  steps.foldl step (new handle)

end InjectorSystem

namespace Injection

def submission (injection : Injection) : Option Nat :=
  match injection.stage with
  | .holding submission _ => some submission
  | _ => none

def outcome (injection : Injection) : Option Outcome :=
  match injection.stage with
  | .holding _ (.release outcome) => some outcome
  | .done outcome => some outcome
  | _ => none

def step (index : Nat) (accepts : Bool) (shared : InjectorShared) (injection : Injection) :
    Injection × InjectorShared :=
  ({ injection with stage := (injection.stage.step index injection.packet accepts shared).1 },
    (injection.stage.step index injection.packet accepts shared).2)

inductive Change (index : Nat) (shared : InjectorShared) (before after : Injection) :
    InjectorShared → Prop where
  | keep (same : after.submission = before.submission) : Change index shared before after shared
  | submit (handle held : Nat) (holding : before.submission = some held)
      (same : after.submission = some held) :
      Change index shared before after (shared.record (.submitted index handle))
  | acquire (isOpen : shared.state.submissions.closing = false) (idle : before.submission = none)
      (holding : after.submission = some shared.state.submissions.epoch) :
      Change index shared before after { shared with state := { shared.state with
        submissions := { shared.state.submissions with
          references := shared.state.submissions.references + 1 } } }
  | release (held : Nat) (holding : before.submission = some held) (idle : after.submission = none) :
      Change index shared before after { shared with state := { shared.state with
        submissions := shared.state.submissions.release } }

theorem change (index : Nat) (accepts : Bool) (shared : InjectorShared) (injection : Injection) :
    Change index shared injection (injection.step index accepts shared).1
      (injection.step index accepts shared).2 := by
  obtain ⟨packet, stage⟩ := injection
  cases stage with
  | starting =>
      simp only [step, InjectionStage.step]
      split
      · exact .keep rfl
      · split <;> exact .keep rfl
  | acquiring =>
      cases closing : shared.state.submissions.closing with
      | true =>
          simp only [step, InjectionStage.step, Ref.acquire, closing, ↓reduceIte]
          exact .keep rfl
      | false =>
          have result : step index accepts shared ⟨packet, .acquiring⟩ =
              (⟨packet, .holding shared.state.submissions.epoch .recheck⟩,
                { shared with state := { shared.state with
                  submissions := { shared.state.submissions with
                    references := shared.state.submissions.references + 1 } } }) := by
            simp [step, InjectionStage.step, Ref.acquire, closing]
          rw [result]
          exact .acquire closing rfl rfl
  | holding held work =>
      cases work with
      | submit handle =>
          cases dpc : packet.protocol.requiresDpc with
          | true =>
              simp only [step, InjectionStage.step, SubmissionWork.step, dpc, ↓reduceIte]
              exact .keep rfl
          | false =>
              simp only [step, InjectionStage.step, SubmissionWork.step, dpc, Bool.false_eq_true,
                ↓reduceIte]
              exact .submit handle held rfl rfl
      | runDpc handle => exact .submit handle held rfl rfl
      | release outcome => exact .release held rfl rfl
      | _ => exact .keep rfl
  | done outcome => exact .keep rfl

end Injection

def Released (submissions : Ref) : Prop := submissions.closing = true ∧ submissions.references = 0

def Closed (events : List InjectionEvent) : Prop := events.any InjectionEvent.isClosed = true

def DestroyerSound (shared : InjectorShared) : Destroyer → Prop
  | .waitForRelease => shared.state.submissions.closing = true
  | .storeDrained => Released shared.state.submissions
  | .returned | .destroy _ | .storeInvalid | .finished => Closed shared.events
  | _ => True

/-- WFP is called with a handle only before a `close_and_wait` has returned, and a handle is destroyed
only afterwards. -/
def HandleOrder (history : List InjectionEvent) : InjectionEvent → Prop
  | .submitted _ _ => ¬ Closed history
  | .destroyed _ => Closed history
  | .closed _ => True

def OutcomeSound (events : List InjectionEvent) (index : Nat) (packet : AlePacket) : Outcome → Prop
  | .submitted handle _ => .submitted index handle ∈ events
  | .failed => True
  | .discarded => False
  | .networkSend => packet.protocol.usesNetworkSendForAle packet.inbound packet.loopback = true

structure InjectorSound (system : InjectorSystem) : Prop where
  tracks : Tracks system.shared.state.submissions Injection.submission system.injections
  drained : system.shared.state.drained = true → Released system.shared.state.submissions
  destroyers : ∀ destroyer ∈ system.destroyers, DestroyerSound system.shared destroyer
  closed : Closed system.shared.events → system.shared.state.drained = true
  callbacks : system.shared.callbacksClosed = true → system.shared.state.drained = true
  ordered : Always HandleOrder system.shared.events
  outcomes : ∀ index injection, system.injections[index]? = some injection → ∀ outcome,
    injection.outcome = some outcome →
      OutcomeSound system.shared.events index injection.packet outcome

section Steps

variable {shared next : InjectorShared} {system : InjectorSystem}

theorem Closed.append {events new : List InjectionEvent} (closed : Closed events) :
    Closed (events ++ new) := by
  rw [Closed, List.any_append, Bool.or_eq_true]
  exact .inl closed

theorem closed_append_singleton {events : List InjectionEvent} {event : InjectionEvent}
    (other : event.isClosed = false) : Closed (events ++ [event]) ↔ Closed events := by
  simp [Closed, other]

theorem InjectorSound.not_held (sound : InjectorSound system)
    (drained : system.shared.state.drained = true) {injection : Injection}
    (member : injection ∈ system.injections) : injection.submission = none :=
  sound.tracks.not_held (sound.drained drained).2 member

theorem InjectorSound.not_drained (sound : InjectorSound system) {injection : Injection} {held : Nat}
    (member : injection ∈ system.injections) (holding : injection.submission = some held) :
    system.shared.state.drained = false := by
  rw [Bool.eq_false_iff]
  intro drained
  rw [sound.not_held drained member] at holding
  cases holding

theorem DestroyerSound.mono {destroyer : Destroyer} (sound : DestroyerSound shared destroyer)
    (closing : shared.state.submissions.closing = true → next.state.submissions.closing = true)
    (released : Released shared.state.submissions → Released next.state.submissions)
    (closed : Closed shared.events → Closed next.events) : DestroyerSound next destroyer := by
  cases destroyer with
  | waitForRelease => exact closing sound
  | storeDrained => exact released sound
  | returned => exact closed sound
  | destroy handle => exact closed sound
  | storeInvalid => exact closed sound
  | finished => exact closed sound
  | _ => trivial

theorem OutcomeSound.mono {events new : List InjectionEvent} {index : Nat} {packet : AlePacket}
    {outcome : Outcome} (sound : OutcomeSound events index packet outcome) :
    OutcomeSound (events ++ new) index packet outcome := by
  cases outcome with
  | submitted handle accepted => exact List.mem_append_left new sound
  | _ => exact sound

theorem Injection.outcome_step {index : Nat} {accepts : Bool} {injection : Injection}
    (callbacks : shared.callbacksClosed = true → injection.submission = none)
    (sound : ∀ outcome, injection.outcome = some outcome →
      OutcomeSound shared.events index injection.packet outcome) {outcome : Outcome}
    (decided : (injection.step index accepts shared).1.outcome = some outcome) :
    OutcomeSound (injection.step index accepts shared).2.events index injection.packet outcome := by
  obtain ⟨packet, stage⟩ := injection
  cases stage with
  | starting =>
      simp only [step, InjectionStage.step] at decided ⊢
      split at decided
      · rename_i network
        cases decided
        exact network
      · split at decided
        · cases decided
          trivial
        · cases decided
  | acquiring =>
      cases closing : shared.state.submissions.closing with
      | true =>
          simp only [step, InjectionStage.step, Ref.acquire, closing, ↓reduceIte] at decided
          cases decided
          trivial
      | false =>
          simp [step, InjectionStage.step, Ref.acquire, closing, Injection.outcome] at decided
  | holding held work =>
      cases work with
      | recheck =>
          simp only [step, InjectionStage.step, SubmissionWork.step] at decided
          split at decided
          · cases decided
            trivial
          · cases decided
      | loadHandle =>
          simp only [step, InjectionStage.step, SubmissionWork.step] at decided
          split at decided
          · cases decided
          · cases decided
            trivial
      | submit handle =>
          cases dpc : packet.protocol.requiresDpc with
          | true =>
              simp only [step, InjectionStage.step, SubmissionWork.step, dpc, ↓reduceIte] at decided
              split at decided
              · cases decided
              · cases decided
                trivial
          | false =>
              simp only [step, InjectionStage.step, SubmissionWork.step, dpc, Bool.false_eq_true,
                ↓reduceIte] at decided ⊢
              cases decided
              exact List.mem_append_right _ List.mem_cons_self
      | queued handle =>
          simp only [step, InjectionStage.step, SubmissionWork.step] at decided
          split at decided
          · rename_i shut
            cases callbacks shut
          · cases decided
      | runDpc handle =>
          cases decided
          exact List.mem_append_right _ List.mem_cons_self
      | release known =>
          cases decided
          exact sound outcome rfl
  | done known =>
      cases decided
      exact sound outcome rfl

namespace InjectorSound

theorem new (handle : Nat) : InjectorSound (InjectorSystem.new handle) where
  tracks := ⟨rfl, fun _ member => by cases member⟩
  drained drained := by cases drained
  destroyers _ member := by cases member
  closed closed := by cases closed
  callbacks closed := by cases closed
  ordered := always_nil
  outcomes index injection found := by cases found

theorem change_state {index : Nat} {before moved : Injection} {next : InjectorShared}
    (change : Injection.Change index shared before moved next) :
    (shared.state.submissions.closing = true → next.state.submissions.closing = true) ∧
      (Released shared.state.submissions → Released next.state.submissions) ∧
      next.state.drained = shared.state.drained ∧
      next.callbacksClosed = shared.callbacksClosed := by
  cases change with
  | keep => exact ⟨id, id, rfl, rfl⟩
  | submit => exact ⟨id, id, rfl, rfl⟩
  | acquire isOpen =>
      refine ⟨id, ?_, rfl, rfl⟩
      rintro ⟨closing, -⟩
      exact absurd (isOpen.symm.trans closing) Bool.false_ne_true
  | release =>
      refine ⟨id, ?_, rfl, rfl⟩
      rintro ⟨closing, none⟩
      exact ⟨closing, (congrArg (· - 1) none)⟩

theorem change_tracks {index : Nat} {before moved : Injection} {next : InjectorShared}
    {injections : List Injection} (change : Injection.Change index shared before moved next)
    (found : injections[index]? = some before)
    (tracks : Tracks shared.state.submissions Injection.submission injections) :
    Tracks next.state.submissions Injection.submission (injections.set index moved) := by
  cases change with
  | keep same => exact tracks.keep found same
  | submit handle held holding same => exact tracks.keep found (same.trans holding.symm)
  | acquire _ idle holding => exact tracks.acquire found idle holding
  | release held holding idle => exact tracks.release found holding idle

theorem change_events {index : Nat} {before moved : Injection} {next : InjectorShared}
    (change : Injection.Change index shared before moved next) :
    next.events = shared.events ∨
      ∃ handle held, before.submission = some held ∧
        next.events = shared.events ++ [.submitted index handle] := by
  cases change with
  | submit handle held holding => exact .inr ⟨handle, held, holding, rfl⟩
  | _ => exact .inl rfl

theorem change_closed {index : Nat} {before moved : Injection} {next : InjectorShared}
    (change : Injection.Change index shared before moved next) :
    Closed next.events ↔ Closed shared.events := by
  rcases change_events change with same | ⟨handle, held, -, recorded⟩
  · rw [same]
  · rw [recorded]
    exact closed_append_singleton rfl

theorem advance (sound : InjectorSound system) {index : Nat} {injection : Injection}
    (found : system.injections[index]? = some injection) (accepts : Bool) :
    InjectorSound
      { system with
        shared := (injection.step index accepts system.shared).2
        injections := system.injections.set index (injection.step index accepts system.shared).1 } := by
  have member := List.mem_of_getElem? found
  have change := injection.change index accepts system.shared
  obtain ⟨closing, released, drained, callbacks⟩ := change_state change
  have closed := change_closed change
  have events := change_events change
  refine ⟨change_tracks change found sound.tracks, ?_, ?_, ?_, ?_, ?_, ?_⟩
  · intro now
    exact released (sound.drained (drained.symm.trans now))
  · intro destroyer there
    exact (sound.destroyers destroyer there).mono closing released closed.mpr
  · intro now
    exact drained.trans (sound.closed (closed.mp now))
  · intro now
    exact drained.trans (sound.callbacks (callbacks.symm.trans now))
  · rcases events with same | ⟨handle, held, holding, recorded⟩
    · exact same ▸ sound.ordered
    · simp only [recorded]
      refine sound.ordered.append_singleton ?_
      intro before
      exact Bool.eq_false_iff.mp (sound.not_drained member holding) (sound.closed before)
  · intro other moved there outcome decided
    by_cases same : index = other
    · subst same
      rw [List.getElem?_set_self (List.getElem?_eq_some_iff.mp found).1] at there
      cases there
      refine Injection.outcome_step ?_ (sound.outcomes index injection found) decided
      intro now
      exact sound.not_held (sound.callbacks now) member
    · rw [List.getElem?_set_ne same] at there
      have before := sound.outcomes other moved there outcome decided
      rcases events with unchanged | ⟨handle, held, -, recorded⟩
      · simp only [unchanged]
        exact before
      · simp only [recorded]
        exact before.mono

theorem inject (sound : InjectorSound system) (packet : AlePacket) :
    InjectorSound (system.step (.inject packet)) := by
  refine { sound with tracks := sound.tracks.append rfl, outcomes := ?_ }
  intro index injection found outcome decided
  simp only [InjectorSystem.step, List.getElem?_append] at found
  split at found
  · exact sound.outcomes index injection found outcome decided
  · rw [List.mem_singleton.mp (List.mem_of_getElem? found)] at decided
    cases decided

/-- What an operation of `destroy` does to the state that the injections share. -/
structure DestroyerChange (shared next : InjectorShared) (moved : Destroyer) : Prop where
  submissions : next.state.submissions = shared.state.submissions ∨
    next.state.submissions = shared.state.submissions.beginWait
  callbacks : next.callbacksClosed = shared.callbacksClosed
  drained : shared.state.drained = true → next.state.drained = true
  released : next.state.drained = true → Released next.state.submissions
  sound : DestroyerSound next moved
  events : next.events = shared.events ∨ ∃ event, next.events = shared.events ++ [event] ∧
    HandleOrder shared.events event ∧ (event.isClosed = true → next.state.drained = true)

theorem destroyer_change {destroyer : Destroyer} (index : Nat) (succeeds : Bool)
    (sound : DestroyerSound shared destroyer)
    (released : shared.state.drained = true → Released shared.state.submissions) :
    DestroyerChange shared (destroyer.step index succeeds shared).2
      (destroyer.step index succeeds shared).1 := by
  have returns : ∀ state : TransportInjectionState,
      Closed (InjectorShared.record { shared with state := state } (.closed index)).events := by
    intro state
    simp [Closed, InjectorShared.record, InjectionEvent.isClosed]
  have stays (moved : Destroyer) (still : DestroyerSound shared moved) :
      DestroyerChange shared shared moved :=
    ⟨.inl rfl, rfl, id, released, still, .inl rfl⟩
  -- The flag is read at the start and in the loop that waits for the other caller.
  have loads (waiting : Destroyer) (still : DestroyerSound shared waiting) :
      let result := if shared.state.drained then
        (Destroyer.returned, shared.record (.closed index)) else (waiting, shared)
      DestroyerChange shared result.2 result.1 := by
    cases drained : shared.state.drained with
    | true => exact ⟨.inl rfl, rfl, id, released, returns _, .inr ⟨_, rfl, trivial, fun _ => drained⟩⟩
    | false => exact stays _ still
  cases destroyer with
  | loadDrained => exact loads .exchange trivial
  | exchange =>
      simp only [Destroyer.step]
      split
      · exact stays .poll trivial
      · exact ⟨.inl rfl, rfl, id, released, trivial, .inl rfl⟩
  | beginWait =>
      refine ⟨.inr rfl, rfl, id, ?_, rfl, .inl rfl⟩
      intro drained
      exact ⟨rfl, (released drained).2⟩
  | waitForRelease =>
      refine stays _ ?_
      simp only [Destroyer.step]
      split
      · rename_i none
        exact ⟨sound, none⟩
      · exact sound
  | storeDrained =>
      exact ⟨.inl rfl, rfl, fun _ => rfl, fun _ => sound, returns _,
        .inr ⟨_, rfl, trivial, fun _ => rfl⟩⟩
  | poll => exact loads .poll trivial
  | returned =>
      refine stays _ ?_
      simp only [Destroyer.step]
      split <;> exact sound
  | destroy handle =>
      refine ⟨.inl rfl, rfl, id, released, ?_, .inr ⟨_, rfl, sound, fun closed => by cases closed⟩⟩
      have still : Closed (shared.record (.destroyed handle)).events := Closed.append sound
      simp only [Destroyer.step]
      split <;> exact still
  | storeInvalid => exact ⟨.inl rfl, rfl, id, released, sound, .inl rfl⟩
  | finished => exact stays _ sound

theorem advanceDestroy (sound : InjectorSound system) {index : Nat} {destroyer : Destroyer}
    (found : system.destroyers[index]? = some destroyer) (succeeds : Bool) :
    InjectorSound
      { system with
        shared := (destroyer.step index succeeds system.shared).2
        destroyers :=
          system.destroyers.set index (destroyer.step index succeeds system.shared).1 } := by
  have change := destroyer_change index succeeds
    (sound.destroyers destroyer (List.mem_of_getElem? found)) sound.drained
  have closed : Closed system.shared.events →
      Closed (destroyer.step index succeeds system.shared).2.events := by
    intro before
    rcases change.events with same | ⟨event, recorded, -⟩
    · exact same ▸ before
    · rw [recorded]
      exact before.append
  refine ⟨?_, change.released, ?_, ?_, ?_, ?_, ?_⟩
  · rcases change.submissions with same | waits
    · simp only [same]
      exact sound.tracks
    · simp only [waits]
      exact sound.tracks.beginWait
  · intro other member
    rcases List.mem_or_eq_of_mem_set member with earlier | rfl
    · refine (sound.destroyers other earlier).mono ?_ ?_ closed
      · intro closing
        rcases change.submissions with same | waits
        · exact same ▸ closing
        · exact waits ▸ rfl
      · intro released
        rcases change.submissions with same | waits
        · exact same ▸ released
        · exact waits ▸ ⟨rfl, released.2⟩
    · exact change.sound
  · intro now
    rcases change.events with same | ⟨event, recorded, -, drains⟩
    · exact change.drained (sound.closed (same ▸ now))
    · cases kind : event.isClosed with
      | true => exact drains kind
      | false =>
          simp only [recorded] at now
          exact change.drained (sound.closed ((closed_append_singleton kind).mp now))
  · intro now
    exact change.drained (sound.callbacks (change.callbacks.symm.trans now))
  · rcases change.events with same | ⟨event, recorded, order, -⟩
    · exact same ▸ sound.ordered
    · simp only [recorded]
      exact sound.ordered.append_singleton order
  · intro other injection there outcome decided
    have before := sound.outcomes other injection there outcome decided
    rcases change.events with same | ⟨event, recorded, -⟩
    · simp only [same]
      exact before
    · simp only [recorded]
      exact before.mono

theorem step (sound : InjectorSound system) (step : InjectorStep) :
    InjectorSound (system.step step) := by
  cases step with
  | inject packet => exact sound.inject packet
  | advance index accepts =>
      rw [InjectorSystem.step]
      cases found : system.injections[index]? with
      | none => exact sound
      | some injection => exact sound.advance found accepts
  | destroy =>
      refine { sound with destroyers := ?_ }
      intro destroyer member
      rcases List.mem_append.mp member with earlier | last
      · exact sound.destroyers destroyer earlier
      · rw [List.mem_singleton.mp last]
        trivial
  | advanceDestroy index succeeds =>
      rw [InjectorSystem.step]
      cases found : system.destroyers[index]? with
      | none => exact sound
      | some destroyer => exact sound.advanceDestroy found succeeds
  | closeCallbacks =>
      rw [InjectorSystem.step]
      split
      · rename_i closed
        exact { sound with callbacks := fun _ => sound.closed closed }
      · exact sound

end InjectorSound

theorem injectorSound_foldl (steps : List InjectorStep) (sound : InjectorSound system) :
    InjectorSound (steps.foldl InjectorSystem.step system) := by
  induction steps generalizing system with
  | nil => exact sound
  | cons first rest ih => exact ih (sound.step first)

theorem InjectorSound.events_step (sound : InjectorSound system) (step : InjectorStep) :
    system.shared.events <+: (system.step step).shared.events := by
  cases step with
  | advance index accepts =>
      rw [InjectorSystem.step]
      cases found : system.injections[index]? with
      | none => exact List.prefix_refl _
      | some injection =>
          rcases InjectorSound.change_events (injection.change index accepts system.shared) with
            same | ⟨handle, held, -, recorded⟩
          · exact ⟨[], (List.append_nil _).trans same.symm⟩
          · exact ⟨_, recorded.symm⟩
  | advanceDestroy index succeeds =>
      rw [InjectorSystem.step]
      cases found : system.destroyers[index]? with
      | none => exact List.prefix_refl _
      | some destroyer =>
          have change := InjectorSound.destroyer_change index succeeds
            (sound.destroyers destroyer (List.mem_of_getElem? found)) sound.drained
          rcases change.events with same | ⟨event, recorded, -⟩
          · exact ⟨[], (List.append_nil _).trans same.symm⟩
          · exact ⟨_, recorded.symm⟩
  | closeCallbacks =>
      rw [InjectorSystem.step]
      split <;> exact List.prefix_refl _
  | inject packet => exact List.prefix_refl _
  | destroy => exact List.prefix_refl _

theorem InjectorSound.events_foldl (sound : InjectorSound system) (steps : List InjectorStep) :
    system.shared.events <+: (steps.foldl InjectorSystem.step system).shared.events := by
  induction steps generalizing system with
  | nil => exact List.prefix_refl _
  | cons first rest ih => exact (sound.events_step first).trans (ih (sound.step first))

end Steps

def Destroyer.closed : Destroyer → Bool
  | .returned | .destroy _ | .storeInvalid | .finished => true
  | _ => false

theorem DestroyerSound.closed_events {shared : InjectorShared} {destroyer : Destroyer}
    (sound : DestroyerSound shared destroyer) (closed : destroyer.closed = true) :
    Closed shared.events := by
  cases destroyer <;> first | exact sound | cases closed

/-- No call of WFP follows the return of a `close_and_wait`. -/
theorem InjectorSound.silent {system : InjectorSystem} {events new : List InjectionEvent}
    (sound : InjectorSound system) (split : system.shared.events = events ++ new)
    (closed : Closed events) (index handle : Nat) : .submitted index handle ∉ new := by
  intro member
  obtain ⟨before, after, rfl⟩ := List.append_of_mem member
  have order := sound.ordered (events ++ before) _ after (by rw [split, List.append_assoc])
  exact order closed.append

/-- How every injection that does not go to the network ends. -/
def SubmittedOrFailed (system : InjectorSystem) : Prop :=
  ∀ (index : Nat) (injection : Injection) (outcome : Outcome),
    system.injections[index]? = some injection → injection.stage = .done outcome →
    injection.packet.protocol.usesNetworkSendForAle injection.packet.inbound
      injection.packet.loopback = false →
    outcome = .failed ∨ ∃ handle accepted, outcome = .submitted handle accepted ∧
      .submitted index handle ∈ system.shared.events

theorem InjectorSound.submittedOrFailed {system : InjectorSystem} (sound : InjectorSound system) :
    SubmittedOrFailed system := by
  intro index injection outcome found ended transport
  have decided : injection.outcome = some outcome := by rw [Injection.outcome, ended]
  have sound := sound.outcomes index injection found outcome decided
  cases outcome with
  | submitted handle accepted => exact .inr ⟨handle, accepted, rfl, sound⟩
  | failed => exact .inl rfl
  | discarded => exact sound.elim
  | networkSend => exact absurd (transport.symm.trans sound) Bool.false_ne_true

/-- In every order of steps, from the return of any `close_and_wait` on no submission is held and WFP is
not called. Every injection ends with a call of WFP before that, or with an error and without its packet.
The handle is destroyed only when no submission is held. -/
theorem transportInjection_teardown (handle : Nat) (earlier later : List InjectorStep) :
    ((∃ destroyer ∈ (InjectorSystem.run handle earlier).destroyers, destroyer.closed = true) →
      (∀ injection ∈ (InjectorSystem.run handle (earlier ++ later)).injections,
        injection.submission = none) ∧
      ∃ new, (InjectorSystem.run handle (earlier ++ later)).shared.events =
          (InjectorSystem.run handle earlier).shared.events ++ new ∧
        ∀ index loaded, .submitted index loaded ∉ new) ∧
    SubmittedOrFailed (InjectorSystem.run handle earlier) ∧
    ∀ (index loaded : Nat),
      (InjectorSystem.run handle earlier).destroyers[index]? = some (.destroy loaded) →
      ∀ injection ∈ (InjectorSystem.run handle earlier).injections, injection.submission = none := by
  have sound := injectorSound_foldl earlier (InjectorSound.new handle)
  have split : InjectorSystem.run handle (earlier ++ later) =
      later.foldl InjectorSystem.step (InjectorSystem.run handle earlier) := List.foldl_append
  refine ⟨?_, sound.submittedOrFailed, ?_⟩
  · rintro ⟨destroyer, member, returned⟩
    have closed := (sound.destroyers destroyer member).closed_events returned
    have after := injectorSound_foldl later sound
    obtain ⟨new, grown⟩ := sound.events_foldl later
    rw [split]
    refine ⟨?_, new, grown.symm, after.silent grown.symm closed⟩
    intro injection there
    refine after.not_held (after.closed ?_) there
    rw [← grown]
    exact closed.append
  · intro index loaded found injection member
    have destroys : Closed _ := sound.destroyers _ (List.mem_of_getElem? found)
    exact sound.not_held (sound.closed destroys) member

-- A TCP packet in its DPC delays the destruction, and a later one is rejected.
example : (InjectorSystem.run 5
    (InjectorStep.inject ⟨.tcp, false, false⟩ :: List.replicate 5 (InjectorStep.advance 0 true) ++
      InjectorStep.destroy :: List.replicate 4 (InjectorStep.advanceDestroy 0 true) ++
      InjectorStep.inject ⟨.udp, false, false⟩ :: InjectorStep.advance 1 true ::
        List.replicate 3 (InjectorStep.advance 0 true) ++
      List.replicate 5 (InjectorStep.advanceDestroy 0 true))).shared.events =
    [.submitted 0 5, .closed 0, .destroyed 5] := by decide +kernel

end WindowsKext.TransportInjection
