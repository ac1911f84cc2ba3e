import Mathlib.Data.List.Induction
import WindowsKext.UdpFlowCore
import WindowsKext.Library.PastTime

/-! Runs of the UDP flow cache with the history of what succeeded. The table decides who owns a
context, so the history shows one owner at a time whatever the order of the calls. -/

namespace WindowsKext

open PastTime

inductive FlowOp where
  | register (flowContext : Nat) (registration : UdpFlowRegistration)
  | markAssociated (flowContext connectionInstanceId : Nat)
  | cancelRegistration (flowContext connectionInstanceId : Nat)
  | beginCallback (flowContext layerId calloutId : Nat)
  | finishCallback
  | removalCandidates
  | claimRemoval (flowContext connectionInstanceId : Nat)
  | pendingRemovals
  | retryRemoval (flowContext connectionInstanceId : Nat)
  | startShutdown

inductive FlowEvent where
  | registered (flowContext : Nat)
  | associated (flowContext : Nat)
  | cancelled (flowContext : Nat)
  | began (flowContext : Nat) (reclaimOnly : Bool)
  | finished
  | handedOut (flowContext : Nat)
  | retried (flowContext : Nat)
  | shutdownStarted
deriving DecidableEq

namespace UdpFlowCache

/-- Whether a call with an instance id is about the current registration of the context. -/
def isCurrent (cache : UdpFlowCache) (flowContext connectionInstanceId : Nat) : Bool :=
  cache.registrations[flowContext]?.any fun registration =>
    registration.connectionInstanceId == connectionInstanceId

def step (cache : UdpFlowCache) : FlowOp → List FlowEvent × UdpFlowCache
  | .register flowContext registration =>
      let (done, cache) := cache.register flowContext registration
      (if done then [.registered flowContext] else [], cache)
  | .markAssociated flowContext connectionInstanceId =>
      let (done, cache) := cache.markAssociated flowContext connectionInstanceId
      (if done then [.associated flowContext] else [], cache)
  | .cancelRegistration flowContext connectionInstanceId =>
      let (done, cache) := cache.cancelRegistration flowContext connectionInstanceId
      (if done then [.cancelled flowContext] else [], cache)
  | .beginCallback flowContext layerId calloutId =>
      let (claimed, cache) := cache.beginCallback flowContext layerId calloutId
      (claimed.toList.map fun reclaimOnly => .began flowContext reclaimOnly, cache)
  | .finishCallback => ([.finished], cache.finishCallback)
  | .removalCandidates => ([], cache)
  | .claimRemoval flowContext connectionInstanceId =>
      let (claimed, cache) := cache.claimRemoval flowContext connectionInstanceId
      (claimed.toList.map fun _ => .handedOut flowContext, cache)
  | .pendingRemovals =>
      let (handed, cache) := cache.pendingRemovals
      (handed.map fun registration => .handedOut registration.flowContext, cache)
  | .retryRemoval flowContext connectionInstanceId =>
      (if flowContext != 0 && connectionInstanceId != 0 &&
          cache.isCurrent flowContext connectionInstanceId then [.retried flowContext] else [],
        cache.retryRemoval flowContext connectionInstanceId)
  | .startShutdown => ([.shutdownStarted], cache.startShutdown)

end UdpFlowCache

structure FlowRun where
  cache : UdpFlowCache
  history : List FlowEvent

def FlowRun.step (run : FlowRun) (op : FlowOp) : FlowRun :=
  let (events, cache) := run.cache.step op
  { cache := cache, history := run.history ++ events }

def runFlow (ops : List FlowOp) : FlowRun :=
  ops.foldl FlowRun.step { cache := UdpFlowCache.new, history := [] }

namespace FlowEvent

variable (flowContext : Nat)

def Registers : FlowEvent → Prop
  | .registered context => context = flowContext
  | _ => False

def Associates : FlowEvent → Prop
  | .associated context => context = flowContext
  | _ => False

def Releases : FlowEvent → Prop
  | .cancelled context => context = flowContext
  | .began context _ => context = flowContext
  | _ => False

def HandsOut : FlowEvent → Prop
  | .handedOut context => context = flowContext
  | _ => False

/-- A removal request does not outlast a retry or the registration. -/
def EndsRequest : FlowEvent → Prop
  | .retried context => context = flowContext
  | .cancelled context => context = flowContext
  | .began context _ => context = flowContext
  | _ => False

end FlowEvent

def Owned (flowContext : Nat) : List FlowEvent → Prop :=
  Since (FlowEvent.Registers flowContext) (FlowEvent.Releases flowContext)

def Associated (flowContext : Nat) : List FlowEvent → Prop :=
  Since (FlowEvent.Associates flowContext) (FlowEvent.Releases flowContext)

/-- The removal of the current registration was requested, and not retried since. -/
def RemovalRequested (flowContext : Nat) : List FlowEvent → Prop :=
  Since (FlowEvent.HandsOut flowContext) (FlowEvent.EndsRequest flowContext)

/-- What may happen after a history: a context is registered while it has no owner and before
shutdown, released while it is owned, and handed out for removal once it is associated and not
while a request stands. -/
def Proper (before : List FlowEvent) : FlowEvent → Prop
  | .registered flowContext => ¬ Owned flowContext before ∧ .shutdownStarted ∉ before
  | .associated flowContext => Owned flowContext before
  | .cancelled flowContext => Owned flowContext before
  | .began flowContext reclaimOnly =>
      Owned flowContext before ∧
        (reclaimOnly = true ↔ .shutdownStarted ∈ before ∨ RemovalRequested flowContext before)
  | .handedOut flowContext =>
      Owned flowContext before ∧ Associated flowContext before ∧
        ¬ RemovalRequested flowContext before
  | .retried flowContext => Owned flowContext before
  | .finished => True
  | .shutdownStarted => True

structure FlowTracks (run : FlowRun) : Prop where
  keyed : ∀ {flowContext : Nat} {registration : UdpFlowRegistration},
    run.cache.registrations[flowContext]? = some registration →
      registration.flowContext = flowContext
  owned : ∀ flowContext, Owned flowContext run.history ↔
    ∃ registration, run.cache.registrations[flowContext]? = some registration
  associated : ∀ flowContext, Associated flowContext run.history ↔
    ∃ registration, run.cache.registrations[flowContext]? = some registration ∧
      registration.associated = true
  requested : ∀ flowContext, RemovalRequested flowContext run.history ↔
    ∃ registration, run.cache.registrations[flowContext]? = some registration ∧
      registration.removalRequested = true
  shutdown : .shutdownStarted ∈ run.history ↔ run.cache.shuttingDown = true
  proper : Always Proper run.history

section Steps

variable {run : FlowRun} {cache : UdpFlowCache}

theorem FlowTracks.record (tracks : FlowTracks run) {event : FlowEvent}
    (proper : Proper run.history event)
    (keyed : ∀ {flowContext : Nat} {registration : UdpFlowRegistration},
      cache.registrations[flowContext]? = some registration →
        registration.flowContext = flowContext)
    (owned : ∀ flowContext, (event.Registers flowContext ∨ ¬ event.Releases flowContext ∧
        ∃ registration, run.cache.registrations[flowContext]? = some registration) ↔
      ∃ registration, cache.registrations[flowContext]? = some registration)
    (associated : ∀ flowContext, (event.Associates flowContext ∨ ¬ event.Releases flowContext ∧
        ∃ registration, run.cache.registrations[flowContext]? = some registration ∧
          registration.associated = true) ↔
      ∃ registration, cache.registrations[flowContext]? = some registration ∧
        registration.associated = true)
    (requested : ∀ flowContext, (event.HandsOut flowContext ∨ ¬ event.EndsRequest flowContext ∧
        ∃ registration, run.cache.registrations[flowContext]? = some registration ∧
          registration.removalRequested = true) ↔
      ∃ registration, cache.registrations[flowContext]? = some registration ∧
        registration.removalRequested = true)
    (shutdown : event = .shutdownStarted ∨ run.cache.shuttingDown = true ↔
      cache.shuttingDown = true) :
    FlowTracks { cache := cache, history := run.history ++ [event] } where
  keyed := keyed
  owned flowContext := by
    rw [← owned, ← tracks.owned]
    exact since_append_singleton
  associated flowContext := by
    rw [← associated, ← tracks.associated]
    exact since_append_singleton
  requested flowContext := by
    rw [← requested, ← tracks.requested]
    exact since_append_singleton
  shutdown := by
    rw [← shutdown, ← tracks.shutdown, List.mem_append, List.mem_singleton, or_comm, eq_comm]
  proper := tracks.proper.append_singleton proper

theorem FlowTracks.setRegistration (tracks : FlowTracks run) (event : FlowEvent) {flowContext : Nat}
    {registration : UdpFlowRegistration} (proper : Proper run.history event)
    (keyed : registration.flowContext = flowContext)
    (only : ∀ other, flowContext ≠ other → ¬ event.Registers other ∧ ¬ event.Associates other ∧
      ¬ event.HandsOut other)
    (kept : ∀ other, ¬ event.Releases other)
    (retried : ∀ other, flowContext ≠ other → ¬ event.EndsRequest other)
    (owned : event.Registers flowContext ∨
      ∃ registration, run.cache.registrations[flowContext]? = some registration)
    (associated : (event.Associates flowContext ∨
        ∃ registration, run.cache.registrations[flowContext]? = some registration ∧
          registration.associated = true) ↔ registration.associated = true)
    (requested : (event.HandsOut flowContext ∨ ¬ event.EndsRequest flowContext ∧
        ∃ registration, run.cache.registrations[flowContext]? = some registration ∧
          registration.removalRequested = true) ↔ registration.removalRequested = true)
    (running : event ≠ .shutdownStarted) :
    FlowTracks
      { cache := run.cache.setRegistration flowContext registration
        history := run.history ++ [event] } := by
  have table : ∀ other, (run.cache.setRegistration flowContext registration).registrations[other]? =
      if flowContext = other then some registration else run.cache.registrations[other]? := by
    intro other
    rw [UdpFlowCache.setRegistration, Std.TreeMap.getElem?_insert]
    simp
  refine tracks.record proper ?_ ?_ ?_ ?_ ?_
  · intro other found present
    rw [table] at present
    split at present
    · cases present
      rename_i same
      rw [keyed, same]
    · exact tracks.keyed present
  · intro other
    rw [table]
    by_cases same : flowContext = other
    · subst same
      simp [kept, owned]
    · simp [same, kept, only other same]
  · intro other
    rw [table]
    by_cases same : flowContext = other
    · subst same
      simpa [kept] using associated
    · simp [same, kept, only other same]
  · intro other
    rw [table]
    by_cases same : flowContext = other
    · subst same
      simpa using requested
    · simp [same, retried other same, only other same]
  · simp [running, UdpFlowCache.setRegistration]

theorem FlowTracks.release (tracks : FlowTracks run) {event : FlowEvent} {flowContext : Nat}
    (proper : Proper run.history event)
    (releases : event = .cancelled flowContext ∨
      ∃ reclaimOnly, event = .began flowContext reclaimOnly) (callbacks : Nat) :
    FlowTracks
      { cache := { run.cache with
          registrations := run.cache.registrations.erase flowContext
          callbacksInProgress := callbacks }
        history := run.history ++ [event] } := by
  have table : ∀ other, (run.cache.registrations.erase flowContext)[other]? =
      if flowContext = other then none else run.cache.registrations[other]? := by
    intro other
    rw [Std.TreeMap.getElem?_erase]
    simp
  have starts : ∀ other, ¬ event.Registers other ∧ ¬ event.Associates other ∧
      ¬ event.HandsOut other ∧ (event.Releases other ↔ flowContext = other) ∧
      (event.EndsRequest other ↔ flowContext = other) ∧ event ≠ .shutdownStarted := by
    intro other
    rcases releases with rfl | ⟨reclaimOnly, rfl⟩ <;>
      simp [FlowEvent.Registers, FlowEvent.Associates, FlowEvent.HandsOut, FlowEvent.Releases,
        FlowEvent.EndsRequest]
  refine tracks.record proper ?_ ?_ ?_ ?_ ?_
  · intro other found present
    rw [table] at present
    split at present
    · cases present
    · exact tracks.keyed present
  all_goals try intro other
  · obtain ⟨registers, -, -, ends, -, -⟩ := starts other
    rw [table]
    by_cases same : flowContext = other <;> simp [registers, ends, same]
  · obtain ⟨-, associates, -, ends, -, -⟩ := starts other
    rw [table]
    by_cases same : flowContext = other <;> simp [associates, ends, same]
  · obtain ⟨-, -, handsOut, -, ends, -⟩ := starts other
    rw [table]
    by_cases same : flowContext = other <;> simp [handsOut, ends, same]
  · simp [(starts 0).2.2.2.2.2]

theorem FlowTracks.other (tracks : FlowTracks run) {event : FlowEvent}
    (proper : Proper run.history event)
    (other : event = .finished ∨ event = .shutdownStarted)
    (same : cache.registrations = run.cache.registrations)
    (shutdown : event = .shutdownStarted ∨ run.cache.shuttingDown = true ↔
      cache.shuttingDown = true) :
    FlowTracks { cache := cache, history := run.history ++ [event] } := by
  have nothing : ∀ flowContext, ¬ event.Registers flowContext ∧ ¬ event.Associates flowContext ∧
      ¬ event.HandsOut flowContext ∧ ¬ event.Releases flowContext ∧
      ¬ event.EndsRequest flowContext := by
    intro flowContext
    rcases other with rfl | rfl <;>
      simp [FlowEvent.Registers, FlowEvent.Associates, FlowEvent.HandsOut, FlowEvent.Releases,
        FlowEvent.EndsRequest]
  refine tracks.record proper ?_ ?_ ?_ ?_ shutdown
  · intro flowContext registration present
    rw [same] at present
    exact tracks.keyed present
  all_goals
    intro flowContext
    obtain ⟨registers, associates, handsOut, releases, ends⟩ := nothing flowContext
    simp [same, registers, associates, handsOut, releases, ends]

theorem step_register (tracks : FlowTracks run) (flowContext : Nat)
    (registration : UdpFlowRegistration) :
    FlowTracks (run.step (.register flowContext registration)) := by
  by_cases invalid : (flowContext == 0 || registration.connectionInstanceId == 0) = true
  · simpa [FlowRun.step, UdpFlowCache.step, UdpFlowCache.register, invalid] using tracks
  · by_cases refused : (run.cache.shuttingDown ||
        run.cache.registrations.contains flowContext) = true
    · simpa [FlowRun.step, UdpFlowCache.step, UdpFlowCache.register, invalid, refused] using tracks
    · simp only [FlowRun.step, UdpFlowCache.step, UdpFlowCache.register, invalid, refused,
        Bool.false_eq_true, ↓reduceIte]
      obtain ⟨running, absent⟩ : run.cache.shuttingDown = false ∧
          flowContext ∉ run.cache.registrations := by
        simpa using refused
      have free : run.cache.registrations[flowContext]? = none :=
        Std.TreeMap.getElem?_eq_none absent
      have proper : Proper run.history (.registered flowContext) := by
        refine ⟨fun owned => ?_, fun started => ?_⟩
        · obtain ⟨registration, present⟩ := (tracks.owned flowContext).mp owned
          rw [free] at present
          cases present
        · rw [tracks.shutdown, running] at started
          cases started
      refine tracks.setRegistration (.registered flowContext) proper rfl ?_ ?_ ?_ ?_ ?_ ?_ ?_
      all_goals simp +contextual [FlowEvent.Registers, FlowEvent.Associates, FlowEvent.HandsOut,
        FlowEvent.Releases, FlowEvent.EndsRequest, free]

/-- The call names another instance, layer or callout than the current registration of its
context, or the context has none. -/
def Mismatched (cache : UdpFlowCache) : FlowOp → Prop
  | .markAssociated flowContext connectionInstanceId
  | .cancelRegistration flowContext connectionInstanceId
  | .claimRemoval flowContext connectionInstanceId
  | .retryRemoval flowContext connectionInstanceId =>
      ∀ registration, cache.registrations[flowContext]? = some registration →
        registration.connectionInstanceId ≠ connectionInstanceId
  | .beginCallback flowContext layerId calloutId =>
      ∀ registration, cache.registrations[flowContext]? = some registration →
        registration.layerId ≠ layerId ∨ registration.calloutId ≠ calloutId
  | _ => False

theorem step_mismatched {op : FlowOp} (mismatched : Mismatched cache op) :
    cache.step op = ([], cache) := by
  cases op with
  | markAssociated flowContext connectionInstanceId =>
      cases present : cache.registrations[flowContext]? with
      | none => simp [UdpFlowCache.step, UdpFlowCache.markAssociated, present]
      | some registration =>
          have stale := mismatched registration present
          simp [UdpFlowCache.step, UdpFlowCache.markAssociated, present, stale]
  | cancelRegistration flowContext connectionInstanceId =>
      cases present : cache.registrations[flowContext]? with
      | none => simp [UdpFlowCache.step, UdpFlowCache.cancelRegistration, present]
      | some registration =>
          have stale := mismatched registration present
          simp [UdpFlowCache.step, UdpFlowCache.cancelRegistration, present, stale]
  | beginCallback flowContext layerId calloutId =>
      cases present : cache.registrations[flowContext]? with
      | none => simp [UdpFlowCache.step, UdpFlowCache.beginCallback, present]
      | some registration =>
          have stale := mismatched registration present
          simp [UdpFlowCache.step, UdpFlowCache.beginCallback, present, stale]
  | claimRemoval flowContext connectionInstanceId =>
      cases present : cache.registrations[flowContext]? with
      | none => simp [UdpFlowCache.step, UdpFlowCache.claimRemoval, present]
      | some registration =>
          have stale := mismatched registration present
          simp [UdpFlowCache.step, UdpFlowCache.claimRemoval, present, stale]
  | retryRemoval flowContext connectionInstanceId =>
      cases present : cache.registrations[flowContext]? with
      | none => simp [UdpFlowCache.step, UdpFlowCache.retryRemoval, UdpFlowCache.isCurrent, present]
      | some registration =>
          have stale := mismatched registration present
          simp [UdpFlowCache.step, UdpFlowCache.retryRemoval, UdpFlowCache.isCurrent, present,
            stale]
  | _ => exact mismatched.elim

theorem FlowTracks.idle (tracks : FlowTracks run) {op : FlowOp}
    (idle : run.cache.step op = ([], run.cache)) :
    FlowTracks (run.step op) := by
  simpa [FlowRun.step, idle] using tracks

theorem not_mismatched {flowContext connectionInstanceId : Nat}
    (current : ¬ ∀ registration, cache.registrations[flowContext]? = some registration →
      registration.connectionInstanceId ≠ connectionInstanceId) :
    ∃ registration, cache.registrations[flowContext]? = some registration ∧
      registration.connectionInstanceId = connectionInstanceId := by
  simpa using current

theorem step_markAssociated (tracks : FlowTracks run) (flowContext connectionInstanceId : Nat) :
    FlowTracks (run.step (.markAssociated flowContext connectionInstanceId)) := by
  by_cases mismatched : Mismatched run.cache (.markAssociated flowContext connectionInstanceId)
  · exact tracks.idle (step_mismatched mismatched)
  · obtain ⟨registration, present, rfl⟩ := not_mismatched mismatched
    by_cases invalid : (flowContext == 0 || registration.connectionInstanceId == 0) = true
    · refine tracks.idle ?_
      simp [UdpFlowCache.step, UdpFlowCache.markAssociated, invalid]
    · simp only [FlowRun.step, UdpFlowCache.step, UdpFlowCache.markAssociated, invalid, present,
        Bool.false_eq_true, ↓reduceIte, bne_self_eq_false]
      have owned : Owned flowContext run.history :=
        (tracks.owned flowContext).mpr ⟨registration, present⟩
      refine tracks.setRegistration (.associated flowContext) owned
        (show registration.flowContext = flowContext from tracks.keyed present) ?_ ?_ ?_ ?_ ?_ ?_ ?_
      all_goals simp +contextual [FlowEvent.Registers, FlowEvent.Associates, FlowEvent.HandsOut,
        FlowEvent.Releases, FlowEvent.EndsRequest, present]

theorem step_cancelRegistration (tracks : FlowTracks run) (flowContext connectionInstanceId : Nat) :
    FlowTracks (run.step (.cancelRegistration flowContext connectionInstanceId)) := by
  by_cases mismatched : Mismatched run.cache (.cancelRegistration flowContext connectionInstanceId)
  · exact tracks.idle (step_mismatched mismatched)
  · obtain ⟨registration, present, rfl⟩ := not_mismatched mismatched
    by_cases invalid : (flowContext == 0 || registration.connectionInstanceId == 0) = true
    · refine tracks.idle ?_
      simp [UdpFlowCache.step, UdpFlowCache.cancelRegistration, invalid]
    · simp only [FlowRun.step, UdpFlowCache.step, UdpFlowCache.cancelRegistration, invalid, present,
        Bool.false_eq_true, ↓reduceIte, bne_self_eq_false]
      have proper : Proper run.history (.cancelled flowContext) :=
        (tracks.owned flowContext).mpr ⟨registration, present⟩
      exact tracks.release proper (.inl rfl) _

theorem step_beginCallback (tracks : FlowTracks run) (flowContext layerId calloutId : Nat) :
    FlowTracks (run.step (.beginCallback flowContext layerId calloutId)) := by
  by_cases mismatched : Mismatched run.cache (.beginCallback flowContext layerId calloutId)
  · exact tracks.idle (step_mismatched mismatched)
  · obtain ⟨registration, present, rfl, rfl⟩ : ∃ registration,
        run.cache.registrations[flowContext]? = some registration ∧
          registration.layerId = layerId ∧ registration.calloutId = calloutId := by
      simpa [Mismatched] using mismatched
    simp only [FlowRun.step, UdpFlowCache.step, UdpFlowCache.beginCallback, present,
      bne_self_eq_false, Bool.or_self, Bool.false_eq_true, ↓reduceIte, Option.toList_some,
      List.map_cons, List.map_nil]
    have proper : Proper run.history
        (.began flowContext (run.cache.shuttingDown || registration.removalRequested)) := by
      refine ⟨(tracks.owned flowContext).mpr ⟨registration, present⟩, ?_⟩
      rw [tracks.shutdown, tracks.requested, Bool.or_eq_true]
      simp [present]
    exact tracks.release proper (.inr ⟨_, rfl⟩) _

theorem step_claimRemoval (tracks : FlowTracks run) (flowContext connectionInstanceId : Nat) :
    FlowTracks (run.step (.claimRemoval flowContext connectionInstanceId)) := by
  by_cases mismatched : Mismatched run.cache (.claimRemoval flowContext connectionInstanceId)
  · exact tracks.idle (step_mismatched mismatched)
  · obtain ⟨registration, present, rfl⟩ := not_mismatched mismatched
    by_cases invalid : (flowContext == 0 || registration.connectionInstanceId == 0) = true
    · refine tracks.idle ?_
      simp [UdpFlowCache.step, UdpFlowCache.claimRemoval, invalid]
    · by_cases refused : (!registration.associated || registration.removalRequested) = true
      · refine tracks.idle ?_
        simp [UdpFlowCache.step, UdpFlowCache.claimRemoval, invalid, present, refused]
      · obtain ⟨accepted, free⟩ : registration.associated = true ∧
            registration.removalRequested = false := by
          simpa using refused
        have proper : Proper run.history (.handedOut flowContext) := by
          refine ⟨(tracks.owned flowContext).mpr ⟨registration, present⟩,
            (tracks.associated flowContext).mpr ⟨registration, present, accepted⟩, fun requested => ?_⟩
          obtain ⟨other, found, standing⟩ := (tracks.requested flowContext).mp requested
          rw [present] at found
          cases found
          rw [free] at standing
          cases standing
        simp only [FlowRun.step, UdpFlowCache.step, UdpFlowCache.claimRemoval, invalid, present,
          accepted, free, Bool.false_eq_true, ↓reduceIte, bne_self_eq_false, Bool.not_true,
          Bool.or_self, Option.toList_some, List.map_cons, List.map_nil]
        refine tracks.setRegistration (.handedOut flowContext) proper
          (show registration.flowContext = flowContext from tracks.keyed present)
          ?_ ?_ ?_ ?_ ?_ ?_ ?_
        all_goals simp +contextual [FlowEvent.Registers, FlowEvent.Associates, FlowEvent.HandsOut,
          FlowEvent.Releases, FlowEvent.EndsRequest, present, accepted]

theorem step_retryRemoval (tracks : FlowTracks run) (flowContext connectionInstanceId : Nat) :
    FlowTracks (run.step (.retryRemoval flowContext connectionInstanceId)) := by
  by_cases mismatched : Mismatched run.cache (.retryRemoval flowContext connectionInstanceId)
  · exact tracks.idle (step_mismatched mismatched)
  · obtain ⟨registration, present, rfl⟩ := not_mismatched mismatched
    by_cases invalid : (flowContext == 0 || registration.connectionInstanceId == 0) = true
    · refine tracks.idle ?_
      rcases Bool.or_eq_true_iff.mp invalid with zero | zero <;>
        simp [UdpFlowCache.step, UdpFlowCache.retryRemoval, eq_of_beq zero]
    · have valid : (flowContext != 0 && registration.connectionInstanceId != 0) = true := by
        simpa using invalid
      have owned : Owned flowContext run.history :=
        (tracks.owned flowContext).mpr ⟨registration, present⟩
      simp only [FlowRun.step, UdpFlowCache.step, UdpFlowCache.retryRemoval, UdpFlowCache.isCurrent,
        invalid, valid, present, Option.any_some, beq_self_eq_true, Bool.and_self,
        Bool.false_eq_true, ↓reduceIte]
      refine tracks.setRegistration (.retried flowContext) owned
        (show registration.flowContext = flowContext from tracks.keyed present) ?_ ?_ ?_ ?_ ?_ ?_ ?_
      all_goals simp +contextual [FlowEvent.Registers, FlowEvent.Associates, FlowEvent.HandsOut,
        FlowEvent.Releases, FlowEvent.EndsRequest, present]

theorem mem_values {registration : UdpFlowRegistration} :
    registration ∈ cache.values ↔
      ∃ flowContext : Nat, cache.registrations[flowContext]? = some registration := by
  simp only [UdpFlowCache.values, List.mem_map, Prod.exists]
  constructor
  · rintro ⟨flowContext, found, member, rfl⟩
    exact ⟨flowContext, Std.TreeMap.mem_toList_iff_getElem?_eq_some.mp member⟩
  · rintro ⟨flowContext, present⟩
    exact ⟨flowContext, registration, Std.TreeMap.mem_toList_iff_getElem?_eq_some.mpr present, rfl⟩

def removableContexts (cache : UdpFlowCache) : List Nat :=
  (cache.values.filter UdpFlowRegistration.removable).map UdpFlowRegistration.flowContext

theorem mem_removableContexts (tracks : FlowTracks run) {flowContext : Nat} :
    flowContext ∈ removableContexts run.cache ↔
      ∃ registration, run.cache.registrations[flowContext]? = some registration ∧
        registration.removable = true := by
  simp only [removableContexts, List.mem_map, List.mem_filter, mem_values]
  constructor
  · rintro ⟨registration, ⟨⟨other, present⟩, removable⟩, rfl⟩
    rw [← tracks.keyed present] at present
    exact ⟨registration, present, removable⟩
  · rintro ⟨registration, present, removable⟩
    exact ⟨registration, ⟨⟨flowContext, present⟩, removable⟩, tracks.keyed present⟩

theorem nodup_removableContexts (tracks : FlowTracks run) : (removableContexts run.cache).Nodup := by
  have contexts : run.cache.values.map UdpFlowRegistration.flowContext =
      run.cache.registrations.toList.map Prod.fst := by
    rw [UdpFlowCache.values, List.map_map]
    apply List.map_congr_left
    intro entry member
    exact tracks.keyed (Std.TreeMap.mem_toList_iff_getElem?_eq_some.mp member)
  have distinct : (run.cache.values.map UdpFlowRegistration.flowContext).Nodup := by
    rw [contexts, List.Nodup, List.pairwise_map]
    refine Std.TreeMap.distinct_keys_toList.imp ?_
    intro first second different same
    exact different (by simp [same])
  exact (List.filter_sublist.map _).nodup distinct

theorem removalRequested_append_handOuts (history : List FlowEvent) (contexts : List Nat)
    (flowContext : Nat) :
    RemovalRequested flowContext (history ++ contexts.map FlowEvent.handedOut) ↔
      flowContext ∈ contexts ∨ RemovalRequested flowContext history := by
  induction contexts generalizing history with
  | nil => simp
  | cons first contexts ih =>
      rw [List.map_cons, List.append_cons, ih]
      have last : RemovalRequested flowContext (history ++ [.handedOut first]) ↔
          first = flowContext ∨ RemovalRequested flowContext history := by
        refine since_append_singleton.trans ?_
        simp [FlowEvent.HandsOut, FlowEvent.EndsRequest, RemovalRequested]
      rw [last, List.mem_cons, @eq_comm _ first, or_left_comm, or_assoc]

theorem owned_append_handOuts (history : List FlowEvent) (contexts : List Nat) (flowContext : Nat) :
    Owned flowContext (history ++ contexts.map FlowEvent.handedOut) ↔ Owned flowContext history := by
  refine since_append fun event member => ?_
  obtain ⟨other, -, rfl⟩ := List.mem_map.mp member
  exact ⟨id, id⟩

theorem associated_append_handOuts (history : List FlowEvent) (contexts : List Nat)
    (flowContext : Nat) :
    Associated flowContext (history ++ contexts.map FlowEvent.handedOut) ↔
      Associated flowContext history := by
  refine since_append fun event member => ?_
  obtain ⟨other, -, rfl⟩ := List.mem_map.mp member
  exact ⟨id, id⟩

theorem proper_handOuts (tracks : FlowTracks run) :
    Always Proper (run.history ++ (removableContexts run.cache).map FlowEvent.handedOut) := by
  refine tracks.proper.append fun before event after split => ?_
  obtain ⟨first, rest, contexts, rfl, later⟩ := List.map_eq_append_iff.mp split
  obtain ⟨flowContext, last, rfl, rfl, -⟩ := List.map_eq_cons_iff.mp later
  have member : flowContext ∈ removableContexts run.cache := by
    rw [contexts]
    exact List.mem_append_right _ List.mem_cons_self
  have fresh : flowContext ∉ first := by
    have distinct := nodup_removableContexts tracks
    rw [contexts] at distinct
    exact fun earlier => (List.nodup_append.mp distinct).2.2 _ earlier _ List.mem_cons_self rfl
  obtain ⟨registration, present, removable⟩ := (mem_removableContexts tracks).mp member
  obtain ⟨accepted, free⟩ : registration.associated = true ∧
      registration.removalRequested = false := by
    simpa [UdpFlowRegistration.removable] using removable
  refine ⟨?_, ?_, ?_⟩
  · rw [owned_append_handOuts]
    exact (tracks.owned flowContext).mpr ⟨registration, present⟩
  · rw [associated_append_handOuts]
    exact (tracks.associated flowContext).mpr ⟨registration, present, accepted⟩
  · rw [removalRequested_append_handOuts]
    rintro (earlier | requested)
    · exact fresh earlier
    · obtain ⟨other, found, standing⟩ := (tracks.requested flowContext).mp requested
      rw [present] at found
      cases found
      rw [free] at standing
      cases standing

theorem step_pendingRemovals (tracks : FlowTracks run) : FlowTracks (run.step .pendingRemovals) := by
  have events : (run.cache.step .pendingRemovals).1 =
      (removableContexts run.cache).map FlowEvent.handedOut := by
    simp only [UdpFlowCache.step, UdpFlowCache.pendingRemovals, removableContexts, List.map_map]
    apply List.map_congr_left
    intro registration _
    simp only [Function.comp_apply]
    split <;> rfl
  have table : ∀ flowContext : Nat,
      (run.step .pendingRemovals).cache.registrations[flowContext]? =
        run.cache.registrations[flowContext]?.map fun registration =>
          if registration.removable then { registration with removalRequested := true }
          else registration := by
    intro flowContext
    exact Std.TreeMap.getElem?_map
  have history : (run.step .pendingRemovals).history =
      run.history ++ (removableContexts run.cache).map FlowEvent.handedOut := by
    rw [← events]
    rfl
  refine ⟨?_, ?_, ?_, ?_, ?_, ?_⟩
  · intro flowContext registration present
    have present := (table flowContext).symm.trans present
    obtain ⟨earlier, found, rfl⟩ := Option.map_eq_some_iff.mp present
    have same := tracks.keyed found
    split <;> exact same
  · intro flowContext
    rw [history, owned_append_handOuts, tracks.owned, table]
    cases run.cache.registrations[flowContext]? <;> simp
  · intro flowContext
    rw [history, associated_append_handOuts, tracks.associated, table]
    cases run.cache.registrations[flowContext]? with
    | none => simp
    | some registration => by_cases removable : registration.removable = true <;> simp [removable]
  · intro flowContext
    rw [history, removalRequested_append_handOuts, tracks.requested, mem_removableContexts tracks,
      table]
    cases run.cache.registrations[flowContext]? with
    | none => simp
    | some registration => by_cases removable : registration.removable = true <;> simp [removable]
  · rw [history, List.mem_append, tracks.shutdown]
    refine or_iff_left ?_
    simp
  · rw [history]
    exact proper_handOuts tracks

end Steps

theorem FlowTracks.start : FlowTracks { cache := UdpFlowCache.new, history := [] } where
  keyed present := by simp [UdpFlowCache.new] at present
  owned flowContext := by simp [Owned, not_since_nil, UdpFlowCache.new]
  associated flowContext := by simp [Associated, not_since_nil, UdpFlowCache.new]
  requested flowContext := by simp [RemovalRequested, not_since_nil, UdpFlowCache.new]
  shutdown := by simp [UdpFlowCache.new]
  proper := always_nil

theorem FlowTracks.step {run : FlowRun} (tracks : FlowTracks run) (op : FlowOp) :
    FlowTracks (run.step op) := by
  cases op with
  | register flowContext registration => exact step_register tracks flowContext registration
  | markAssociated flowContext instanceId => exact step_markAssociated tracks flowContext instanceId
  | cancelRegistration flowContext instanceId =>
      exact step_cancelRegistration tracks flowContext instanceId
  | beginCallback flowContext layerId calloutId =>
      exact step_beginCallback tracks flowContext layerId calloutId
  | finishCallback => exact tracks.other trivial (.inl rfl) rfl (by simp [UdpFlowCache.finishCallback])
  | removalCandidates => exact tracks.idle rfl
  | claimRemoval flowContext instanceId => exact step_claimRemoval tracks flowContext instanceId
  | pendingRemovals => exact step_pendingRemovals tracks
  | retryRemoval flowContext instanceId => exact step_retryRemoval tracks flowContext instanceId
  | startShutdown => exact tracks.other trivial (.inr rfl) rfl (by simp [UdpFlowCache.startShutdown])

theorem tracks_runFlow (ops : List FlowOp) : FlowTracks (runFlow ops) := by
  have all : ∀ run, FlowTracks run → FlowTracks (ops.foldl FlowRun.step run) := by
    induction ops with
    | nil => exact fun run tracks => tracks
    | cons op ops ih => exact fun run tracks => ih _ (tracks.step op)
  exact all _ FlowTracks.start

section Counts

def FlowEvent.isBegan : FlowEvent → Bool
  | .began _ _ => true
  | _ => false

def begins (history : List FlowEvent) : Nat := history.countP FlowEvent.isBegan

def finishes (history : List FlowEvent) : Nat := history.count .finished

def registrationsOf (flowContext : Nat) (history : List FlowEvent) : Nat :=
  history.count (.registered flowContext)

/-- The releases of a context, by a callback or by a cancelled registration. -/
def releasesOf (flowContext : Nat) (history : List FlowEvent) : Nat :=
  history.countP fun event =>
    match event with
    | .cancelled context => context == flowContext
    | .began context _ => context == flowContext
    | _ => false

theorem registrations_balance {history : List FlowEvent} (proper : Always Proper history)
    (flowContext : Nat) :
    (Owned flowContext history →
      registrationsOf flowContext history = releasesOf flowContext history + 1) ∧
    (¬ Owned flowContext history →
      registrationsOf flowContext history = releasesOf flowContext history) := by
  induction history using List.reverseRecOn with
  | nil => exact ⟨fun owned => absurd owned not_since_nil, fun _ => rfl⟩
  | append_singleton history event ih =>
      have last : Proper history event := proper history event [] rfl
      obtain ⟨current, released⟩ := ih proper.of_append
      have owned : Owned flowContext (history ++ [event]) ↔
          event.Registers flowContext ∨ ¬ event.Releases flowContext ∧ Owned flowContext history :=
        since_append_singleton
      rw [owned, registrationsOf, releasesOf, List.count_append, List.countP_append,
        ← registrationsOf, ← releasesOf]
      cases event with
      | registered context =>
          by_cases same : context = flowContext
          · subst same
            simp [FlowEvent.Registers, released last.1]
          · simpa [FlowEvent.Registers, FlowEvent.Releases, same] using And.intro current released
      | cancelled context =>
          by_cases same : context = flowContext
          · subst same
            simp [FlowEvent.Registers, FlowEvent.Releases, current last]
          · simpa [FlowEvent.Registers, FlowEvent.Releases, same] using And.intro current released
      | began context reclaimOnly =>
          by_cases same : context = flowContext
          · subst same
            simp [FlowEvent.Registers, FlowEvent.Releases, current last.1]
          · simpa [FlowEvent.Registers, FlowEvent.Releases, same] using And.intro current released
      | _ => simpa [FlowEvent.Registers, FlowEvent.Releases] using And.intro current released

theorem step_counts (cache : UdpFlowCache) (op : FlowOp) :
    (begins (cache.step op).1 = 0 ∧ finishes (cache.step op).1 = 0 ∧
      (cache.step op).2.callbacksInProgress = cache.callbacksInProgress) ∨
    (∃ flowContext reclaimOnly, (cache.step op).1 = [.began flowContext reclaimOnly] ∧
      (cache.step op).2.callbacksInProgress = min (cache.callbacksInProgress + 1) usizeMax) ∨
    ((cache.step op).1 = [.finished] ∧
      (cache.step op).2.callbacksInProgress = cache.callbacksInProgress - 1) := by
  cases op with
  | register flowContext registration =>
      refine .inl ?_
      simp only [UdpFlowCache.step, UdpFlowCache.register]
      split
      · exact ⟨rfl, rfl, rfl⟩
      · split <;> exact ⟨rfl, rfl, rfl⟩
  | markAssociated flowContext instanceId =>
      refine .inl ?_
      simp only [UdpFlowCache.step, UdpFlowCache.markAssociated]
      repeat' split
      all_goals exact ⟨rfl, rfl, rfl⟩
  | cancelRegistration flowContext instanceId =>
      refine .inl ?_
      simp only [UdpFlowCache.step, UdpFlowCache.cancelRegistration]
      repeat' split
      all_goals exact ⟨rfl, rfl, rfl⟩
  | beginCallback flowContext layerId calloutId =>
      simp only [UdpFlowCache.step, UdpFlowCache.beginCallback]
      split
      · exact .inl ⟨rfl, rfl, rfl⟩
      · split
        · exact .inl ⟨rfl, rfl, rfl⟩
        · exact .inr (.inl ⟨_, _, rfl, rfl⟩)
  | finishCallback => exact .inr (.inr ⟨rfl, rfl⟩)
  | removalCandidates => exact .inl ⟨rfl, rfl, rfl⟩
  | claimRemoval flowContext instanceId =>
      refine .inl ?_
      simp only [UdpFlowCache.step, UdpFlowCache.claimRemoval]
      repeat' split
      all_goals exact ⟨rfl, rfl, rfl⟩
  | pendingRemovals =>
      refine .inl ⟨?_, ?_, rfl⟩
      · simp [begins, UdpFlowCache.step, List.countP_eq_zero, FlowEvent.isBegan]
      · simp [finishes, UdpFlowCache.step, List.count_eq_zero]
  | retryRemoval flowContext instanceId =>
      refine .inl ?_
      simp only [UdpFlowCache.step, UdpFlowCache.retryRemoval]
      repeat' split
      all_goals exact ⟨rfl, rfl, rfl⟩
  | startShutdown => exact .inl ⟨rfl, rfl, rfl⟩

def FinishesBegun : List FlowEvent → Prop :=
  Always fun before event => event = .finished → finishes before < begins before

/-- A callback begins while fewer than the greatest `usize` are in progress. -/
def CallbacksFit : List FlowEvent → Prop :=
  Always fun before event => event.isBegan = true → begins before - finishes before < usizeMax

/-- The counter of the cache is the number of callbacks that began and did not finish. -/
def CountsCallbacks (run : FlowRun) : Prop :=
  finishes run.history ≤ begins run.history ∧
    run.cache.callbacksInProgress = begins run.history - finishes run.history

theorem CountsCallbacks.step {run : FlowRun} (counts : CountsCallbacks run) (op : FlowOp)
    (begun : FinishesBegun (run.step op).history) (fit : CallbacksFit (run.step op).history) :
    CountsCallbacks (run.step op) := by
  have history : (run.step op).history = run.history ++ (run.cache.step op).1 := rfl
  obtain ⟨ordered, exact⟩ := counts
  rw [history] at begun fit
  have total : begins (run.step op).history = begins run.history + begins (run.cache.step op).1 ∧
      finishes (run.step op).history = finishes run.history + finishes (run.cache.step op).1 := by
    rw [history]
    exact ⟨List.countP_append, List.count_append⟩
  have after : (run.step op).cache = (run.cache.step op).2 := rfl
  rw [CountsCallbacks, total.1, total.2, after]
  rcases step_counts run.cache op with
    ⟨noBegin, noFinish, same⟩ | ⟨flowContext, reclaimOnly, events, counter⟩ | ⟨events, counter⟩
  · rw [noBegin, noFinish, same]
    exact ⟨ordered, exact⟩
  · rw [events] at fit ⊢
    have room := fit run.history (.began flowContext reclaimOnly) [] rfl rfl
    have one : begins [.began flowContext reclaimOnly] = 1 ∧
        finishes [.began flowContext reclaimOnly] = 0 := ⟨rfl, rfl⟩
    rw [one.1, one.2, counter, exact, Nat.min_eq_left (Nat.succ_le_of_lt room)]
    clear room fit
    omega
  · rw [events] at begun ⊢
    have started := begun run.history .finished [] rfl rfl
    have one : begins [.finished] = 0 ∧ finishes [.finished] = 1 := ⟨rfl, rfl⟩
    rw [one.1, one.2, counter, exact]
    omega

theorem history_foldl (ops : List FlowOp) (run : FlowRun) :
    ∃ events, (ops.foldl FlowRun.step run).history = run.history ++ events := by
  induction ops generalizing run with
  | nil => exact ⟨[], (List.append_nil _).symm⟩
  | cons op ops ih =>
      obtain ⟨events, later⟩ := ih (run.step op)
      refine ⟨(run.cache.step op).1 ++ events, ?_⟩
      rw [← List.append_assoc]
      exact later

theorem countsCallbacks_runFlow (ops : List FlowOp) (begun : FinishesBegun (runFlow ops).history)
    (fit : CallbacksFit (runFlow ops).history) : CountsCallbacks (runFlow ops) := by
  have all : ∀ run, CountsCallbacks run → FinishesBegun (ops.foldl FlowRun.step run).history →
      CallbacksFit (ops.foldl FlowRun.step run).history →
        CountsCallbacks (ops.foldl FlowRun.step run) := by
    clear begun fit
    induction ops with
    | nil => exact fun run counts _ _ => counts
    | cons op ops ih =>
        intro run counts begun fit
        obtain ⟨events, later⟩ := history_foldl ops (run.step op)
        rw [List.foldl_cons] at begun fit ⊢
        refine ih _ (counts.step op ?_ ?_) begun fit
        · rw [later] at begun
          exact begun.of_append
        · rw [later] at fit
          exact fit.of_append
  exact all _ ⟨Nat.le_refl 0, rfl⟩ begun fit

end Counts

/-- One owner for every context, over any sequence of calls with any reuse of addresses. The
history is proper: a context is registered while nothing owns it and before shutdown, released while
it is owned, handed out only once it is associated and again only after a retry, and a callback is
for reclaiming only exactly when removal was requested or shutdown started. A call that does not
match the current registration changes nothing. As long as the counter can hold the callbacks in
progress it counts them, and a drained cache has none in progress and no context unreleased. -/
theorem udpFlow_single_owner (ops : List FlowOp) :
    Always Proper (runFlow ops).history ∧
    (∀ op, Mismatched (runFlow ops).cache op → (runFlow ops).step op = runFlow ops) ∧
    (FinishesBegun (runFlow ops).history → CallbacksFit (runFlow ops).history →
      (runFlow ops).cache.callbacksInProgress =
        begins (runFlow ops).history - finishes (runFlow ops).history ∧
      ((runFlow ops).cache.isDrained = true →
        begins (runFlow ops).history = finishes (runFlow ops).history ∧
        ∀ flowContext, registrationsOf flowContext (runFlow ops).history =
          releasesOf flowContext (runFlow ops).history)) := by
  have tracks := tracks_runFlow ops
  refine ⟨tracks.proper, ?_, fun begun fit => ?_⟩
  · intro op mismatched
    simp only [FlowRun.step, step_mismatched mismatched, List.append_nil]
  · obtain ⟨ordered, exact⟩ := countsCallbacks_runFlow ops begun fit
    refine ⟨exact, fun drained => ?_⟩
    obtain ⟨empty, none⟩ : (runFlow ops).cache.registrations.isEmpty = true ∧
        (runFlow ops).cache.callbacksInProgress = 0 := by
      simpa [UdpFlowCache.isDrained] using drained
    refine ⟨by omega, fun flowContext => ?_⟩
    refine (registrations_balance tracks.proper flowContext).2 fun owned => ?_
    obtain ⟨registration, present⟩ := (tracks.owned flowContext).mp owned
    rw [Std.TreeMap.getElem?_of_isEmpty empty] at present
    cases present

section Saturation

/-- A context that is registered and whose callback begins at once. -/
def shortFlow : List FlowOp :=
  [.register 1 (UdpFlowRegistration.new 7 48 5 9), .beginCallback 1 48 5]

def unfinishedFlows (count : Nat) : List FlowOp := (List.replicate count shortFlow).flatten

theorem shortFlow_run {run : FlowRun} (free : run.cache.registrations[1]? = none)
    (running : run.cache.shuttingDown = false) :
    (shortFlow.foldl FlowRun.step run).history =
        run.history ++ [.registered 1, .began 1 false] ∧
      (shortFlow.foldl FlowRun.step run).cache.registrations[1]? = none ∧
      (shortFlow.foldl FlowRun.step run).cache.shuttingDown = false ∧
      (shortFlow.foldl FlowRun.step run).cache.callbacksInProgress =
        min (run.cache.callbacksInProgress + 1) usizeMax := by
  have absent : run.cache.registrations.contains 1 = false := by
    rw [Std.TreeMap.contains_eq_isSome_getElem?, free]
    rfl
  simp [shortFlow, FlowRun.step, UdpFlowCache.step, UdpFlowCache.register,
    UdpFlowCache.beginCallback, UdpFlowRegistration.new, running, absent]

theorem unfinishedFlows_run (count : Nat) :
    ∃ cache : UdpFlowCache, runFlow (unfinishedFlows count) =
        { cache := cache,
          history := (List.replicate count [.registered 1, .began 1 false]).flatten } ∧
      cache.registrations[1]? = none ∧ cache.shuttingDown = false ∧
      cache.callbacksInProgress = min count usizeMax := by
  induction count with
  | zero =>
      refine ⟨UdpFlowCache.new, rfl, ?_, rfl, (Nat.zero_min _).symm⟩
      exact Std.TreeMap.getElem?_emptyc
  | succ count ih =>
      obtain ⟨cache, run, free, running, counter⟩ := ih
      have split : runFlow (unfinishedFlows (count + 1)) =
          shortFlow.foldl FlowRun.step (runFlow (unfinishedFlows count)) := by
        rw [runFlow, unfinishedFlows, List.replicate_succ', List.flatten_append,
          List.flatten_singleton, List.foldl_append]
        rfl
      rw [run] at split
      obtain ⟨history, free, running, next⟩ := @shortFlow_run ⟨cache, _⟩ free running
      rw [← split] at history free running next
      refine ⟨(runFlow (unfinishedFlows (count + 1))).cache, ?_, free, running, ?_⟩
      · rw [List.replicate_succ', List.flatten_append, List.flatten_singleton, ← history]
      · rw [next, counter]
        omega

theorem counts_unfinishedFlows (count : Nat) :
    begins (List.replicate count [.registered 1, .began 1 false]).flatten = count ∧
      finishes (List.replicate count [.registered 1, .began 1 false]).flatten = 0 := by
  induction count with
  | zero => exact ⟨rfl, rfl⟩
  | succ count ih =>
      rw [List.replicate_succ', List.flatten_append, List.flatten_singleton, begins, finishes,
        List.countP_append, List.count_append, ← begins, ← finishes, ih.1, ih.2]
      exact ⟨rfl, rfl⟩

/-- The counter saturates: with `2 ^ 64` callbacks in progress it is one less. -/
theorem unfinishedFlows_miscounted :
    FinishesBegun (runFlow (unfinishedFlows (usizeMax + 1))).history ∧
      (runFlow (unfinishedFlows (usizeMax + 1))).cache.callbacksInProgress ≠
        begins (runFlow (unfinishedFlows (usizeMax + 1))).history -
          finishes (runFlow (unfinishedFlows (usizeMax + 1))).history := by
  obtain ⟨cache, run, -, -, counter⟩ := unfinishedFlows_run (usizeMax + 1)
  obtain ⟨begun, unfinished⟩ := counts_unfinishedFlows (usizeMax + 1)
  rw [run]
  refine ⟨?_, ?_⟩
  · intro before event after split last
    have split : (List.replicate (usizeMax + 1) [.registered 1, .began 1 false]).flatten =
        before ++ event :: after := split
    have member : FlowEvent.finished ∈
        (List.replicate (usizeMax + 1) [.registered 1, .began 1 false]).flatten := by
      rw [split, last]
      exact List.mem_append_right _ List.mem_cons_self
    exact absurd unfinished (Nat.ne_of_gt (List.count_pos_iff.mpr member))
  · rw [counter, begun, unfinished, Nat.min_eq_right (Nat.le_succ _)]
    exact Nat.ne_of_lt (Nat.lt_succ_self _)

/-- A context that is associated, claimed by cleanup and returned by its callback. -/
def reclaimedFlow : List FlowOp :=
  [.register 4096 (UdpFlowRegistration.new 7 48 5 9), .markAssociated 4096 9,
    .claimRemoval 4096 9, .beginCallback 4096 48 5, .finishCallback]

theorem udpFlow_single_owner_reclaimedFlow :
    (runFlow reclaimedFlow).history =
        [.registered 4096, .associated 4096, .handedOut 4096, .began 4096 true, .finished] ∧
    (runFlow reclaimedFlow).cache.isDrained = true ∧
    begins (runFlow reclaimedFlow).history = finishes (runFlow reclaimedFlow).history ∧
    ∀ flowContext, registrationsOf flowContext (runFlow reclaimedFlow).history =
      releasesOf flowContext (runFlow reclaimedFlow).history := by
  have history : (runFlow reclaimedFlow).history =
      [.registered 4096, .associated 4096, .handedOut 4096, .began 4096 true, .finished] := by
    decide +kernel
  have drained : (runFlow reclaimedFlow).cache.isDrained = true := by decide +kernel
  refine ⟨history, drained, ((udpFlow_single_owner reclaimedFlow).2.2 ?_ ?_).2 drained⟩
  · rw [history]
    exact ((((always_nil.append_singleton (by decide)).append_singleton (by decide)).append_singleton
      (by decide)).append_singleton (by decide)).append_singleton (by decide)
  · rw [history]
    exact ((((always_nil.append_singleton (by decide)).append_singleton (by decide)).append_singleton
      (by decide)).append_singleton (by decide)).append_singleton (by decide)

end Saturation

end WindowsKext
