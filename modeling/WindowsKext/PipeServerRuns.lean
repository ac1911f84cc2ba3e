import Mathlib.Data.List.Induction
import WindowsKext.Library.Interleaving
import WindowsKext.PipeServerCore

/-! The order of the connection callbacks. A `Send` that fails ends the session from its own
thread, so its callback can come before the announcement of that session, or after the
announcement of the next one. Without these two the callbacks alternate. -/

namespace WindowsKext

open Interleaving

/-- Callbacks that alternate, one pair for each announced session. The second argument is the
session that was announced last, while it has not been reported as gone. -/
inductive Paired : List (ClientConnectionEvent × Nat) → Option Nat → Prop where
  | start : Paired [] none
  | connect {callbacks : List (ClientConnectionEvent × Nat)} (paired : Paired callbacks none)
      {session : Nat} (new : (.connected, session) ∉ callbacks) :
      Paired (callbacks ++ [(.connected, session)]) (some session)
  | disconnect {callbacks : List (ClientConnectionEvent × Nat)} {session : Nat}
      (paired : Paired callbacks (some session)) :
      Paired (callbacks ++ [(.disconnected, session)]) none

namespace Paired

variable {callbacks : List (ClientConnectionEvent × Nat)} {outstanding : Option Nat}

/-- The outstanding session is the one that was announced and not reported as gone, and no other
session is reported as gone. -/
theorem spec (paired : Paired callbacks outstanding) (session : Nat) :
    (outstanding = some session ↔
        (.connected, session) ∈ callbacks ∧ (.disconnected, session) ∉ callbacks) ∧
      ((.disconnected, session) ∈ callbacks → (.connected, session) ∈ callbacks) := by
  induction paired with
  | start => simp
  | @connect callbacks paired announced new ih =>
      obtain ⟨before, gone⟩ := ih
      by_cases same : session = announced
      · subst same
        have here : (.disconnected, session) ∉ callbacks := fun member => new (gone member)
        simp [here]
      · simp only [List.mem_append, List.mem_singleton, Prod.mk.injEq, same, and_false, or_false,
          reduceCtorEq, Option.some.injEq, Ne.symm same, false_iff]
        refine ⟨fun still => ?_, gone⟩
        cases before.mpr still
  | @disconnect callbacks ended paired ih =>
      obtain ⟨before, gone⟩ := ih
      by_cases same : session = ended
      · subst same
        simp [before.mp rfl]
      · simp only [List.mem_append, List.mem_singleton, Prod.mk.injEq, same, and_false, or_false,
          reduceCtorEq, false_iff]
        refine ⟨fun still => ?_, gone⟩
        have outstanding := before.mpr still
        rw [Option.some.injEq] at outstanding
        exact same outstanding.symm

theorem before_last {event : ClientConnectionEvent} {session : Nat}
    (paired : Paired (callbacks ++ [(event, session)]) outstanding) :
    Paired callbacks (if event = .connected then none else some session) := by
  generalize whole : callbacks ++ [(event, session)] = all at paired
  cases paired with
  | start => simp at whole
  | connect paired new =>
      obtain ⟨same, last⟩ := List.append_inj' whole rfl
      cases last
      rw [same]
      exact paired
  | disconnect paired =>
      obtain ⟨same, last⟩ := List.append_inj' whole rfl
      cases last
      rw [same]
      exact paired

end Paired

namespace Worker

def session : Worker → Option Nat
  | .checkRunning session => some session
  | .exchangeActive session => some session
  | .recheckRunning session => some session
  | .withdraw session => some session
  | .storeNotified session => some session
  | .announce session => some session
  | .reading session => some session
  | .ending session _ => some session
  | _ => none

def published : Worker → Option Nat
  | .recheckRunning session => some session
  | .withdraw session => some session
  | .storeNotified session => some session
  | .announce session => some session
  | .reading session => some session
  | .ending session _ => some session
  | _ => none

/-- The worker has ended the session, and has still to report it as gone. -/
def ends (session : Nat) : Worker → Bool
  | .ending ended stage => ended == session && stage != .exchangeEnded
  | .finalEnding ended stage => ended == session && stage != .exchangeEnded
  | _ => false

end Worker

namespace Sender

def ends (session : Nat) : Sender → Bool
  | .ending ended stage => ended == session && stage != .exchangeEnded
  | _ => false

def committed : Sender → Option Nat
  | .loadStatus session => some session
  | .writeFrame session => some session
  | .ending session _ => some session
  | _ => none

end Sender

/-- The shared state, while the worker handles a session and some threads are ending theirs. -/
structure StateSound (state : ServerState) (current : Option Nat) (enders : Nat → Nat) :
    Prop where
  paired : ∃ outstanding, Paired state.callbacks outstanding ∧
    state.clientConnected = outstanding.isSome
  unnotified : ∀ session, (state.sessions session).connectedNotified = false →
    (state.sessions session).ended = false ∧ (.connected, session) ∉ state.callbacks
  settled : ∀ session, (state.sessions session).connectedNotified = true →
    current ≠ some session →
      (state.sessions session).ended = true ∧ (.connected, session) ∈ state.callbacks
  gone : ∀ session, (.disconnected, session) ∈ state.callbacks →
    (state.sessions session).ended = true
  fresh : ∀ session, state.created ≤ session →
    (state.sessions session).connectedNotified = false
  enders : ∀ session, enders session =
    if (state.sessions session).ended = true ∧ (.disconnected, session) ∉ state.callbacks then 1
    else 0

namespace StateSound

variable {state next : ServerState} {current : Option Nat} {enders after : Nat → Nat}
  {session : Nat}

theorem congr (sound : StateSound state current enders)
    (callbacks : next.callbacks = state.callbacks)
    (flag : next.clientConnected = state.clientConnected) (created : next.created = state.created)
    (ended : ∀ session, (next.sessions session).ended = (state.sessions session).ended)
    (notified : ∀ session,
      (next.sessions session).connectedNotified = (state.sessions session).connectedNotified) :
    StateSound next current enders where
  paired := by
    rw [callbacks, flag]
    exact sound.paired
  unnotified session := by
    rw [callbacks, ended, notified]
    exact sound.unnotified session
  settled session := by
    rw [callbacks, ended, notified]
    exact sound.settled session
  gone session := by
    rw [callbacks, ended]
    exact sound.gone session
  fresh session := by
    rw [created, notified]
    exact sound.fresh session
  enders session := by
    rw [callbacks, ended]
    exact sound.enders session

theorem cancel (sound : StateSound state current enders) (session : Nat) :
    StateSound (state.cancel session) current enders := by
  refine sound.congr rfl rfl rfl ?_ ?_
  · intro other
    simp only [ServerState.cancel, ServerState.setSession]
    split
    · rename_i same
      rw [same]
    · rfl
  · intro other
    simp only [ServerState.cancel, ServerState.setSession]
    split
    · rename_i same
      rw [same]
    · rfl

theorem exchangeActive (sound : StateSound state current enders) (expected desired : Option Nat) :
    StateSound (state.exchangeActive expected desired) current enders := by
  unfold ServerState.exchangeActive
  split
  · exact sound.congr rfl rfl rfl (fun _ => rfl) fun _ => rfl
  · exact sound

theorem turn (sound : StateSound state current enders) {other : Option Nat}
    (left : ∀ session, current = some session →
      (state.sessions session).connectedNotified = true →
        (state.sessions session).ended = true ∧ (.connected, session) ∈ state.callbacks) :
    StateSound state other enders :=
  { sound with
    settled := fun session notified _ => by
      by_cases same : current = some session
      · exact left session same notified
      · exact sound.settled session notified same }

theorem notify (sound : StateSound state current enders)
    (announced : (.connected, session) ∈ state.callbacks)
    (count : ∀ other, after other + (if other = session then 1 else 0) = enders other) :
    StateSound (state.invokeConnectionCallback .disconnected session) current after := by
  have here := count session
  rw [if_pos rfl, sound.enders] at here
  have pending : (state.sessions session).ended = true ∧
      (.disconnected, session) ∉ state.callbacks := by
    by_contra none
    rw [if_neg none] at here
    omega
  have onlyGone : ∀ other, (.disconnected, other) ∈
      (state.invokeConnectionCallback .disconnected session).callbacks ↔
        (.disconnected, other) ∈ state.callbacks ∨ other = session := by
    intro other
    simp [ServerState.invokeConnectionCallback]
  have sameConnected : ∀ other, (.connected, other) ∈
      (state.invokeConnectionCallback .disconnected session).callbacks ↔
        (.connected, other) ∈ state.callbacks := by
    intro other
    simp [ServerState.invokeConnectionCallback]
  constructor
  · obtain ⟨outstanding, paired, -⟩ := sound.paired
    obtain rfl := (paired.spec session).1.mpr ⟨announced, pending.2⟩
    exact ⟨none, paired.disconnect, rfl⟩
  · intro other unnotified
    rw [sameConnected]
    exact sound.unnotified other unnotified
  · intro other notified
    rw [sameConnected]
    exact sound.settled other notified
  · intro other member
    rcases (onlyGone other).mp member with earlier | same
    · exact sound.gone other earlier
    · rw [same]
      exact pending.1
  · exact sound.fresh
  · intro other
    have counted := count other
    rw [sound.enders] at counted
    simp only [onlyGone]
    by_cases same : other = session
    · subst same
      rw [if_pos pending, if_pos rfl] at counted
      rw [if_neg (by simp)]
      omega
    · rw [if_neg same, Nat.add_zero] at counted
      simpa [same, ServerState.invokeConnectionCallback] using counted

theorem endSession_exchange (sound : StateSound state current enders)
    (notified : (state.sessions session).connectedNotified = true)
    (alive : (state.sessions session).ended = false)
    (count : ∀ other, after other = enders other + if other = session then 1 else 0) :
    StateSound (state.setSession session { state.sessions session with ended := true }) current
      after := by
  have handled : current = some session := by
    by_contra other
    have ended := (sound.settled session notified other).1
    rw [alive] at ended
    cases ended
  have kept : (.disconnected, session) ∉ state.callbacks := by
    intro member
    have ended := sound.gone session member
    rw [alive] at ended
    cases ended
  constructor
  · exact sound.paired
  · intro other unnotified
    simp only [ServerState.setSession] at unnotified ⊢
    split at unnotified
    · rename_i same
      subst same
      rw [notified] at unnotified
      cases unnotified
    · rename_i different
      rw [if_neg different]
      exact sound.unnotified other unnotified
  · intro other announced elsewhere
    have different : other ≠ session := by
      rintro rfl
      exact elsewhere handled
    simp only [ServerState.setSession, if_neg different] at announced ⊢
    exact sound.settled other announced elsewhere
  · intro other member
    simp only [ServerState.setSession]
    split
    · rfl
    · exact sound.gone other member
  · intro other unused
    have unnotified := sound.fresh other unused
    simp only [ServerState.setSession]
    split
    · rename_i same
      subst same
      exact unnotified
    · exact unnotified
  · intro other
    rw [count, sound.enders]
    simp only [ServerState.setSession]
    by_cases same : other = session
    · subst same
      simp [alive, kept]
    · simp [same]

theorem endSession (sound : StateSound state current enders) {stage : Ending}
    (notified : (state.sessions session).connectedNotified = true)
    (announced : stage = .notify → (.connected, session) ∈ state.callbacks)
    (count : ∀ other, after other + (if other = session ∧ stage ≠ .exchangeEnded then 1 else 0) =
      enders other +
        if other = session ∧ (state.endSession session stage).1.isSome = true then 1 else 0) :
    StateSound (state.endSession session stage).2 current after := by
  cases stage with
  | exchangeEnded =>
      cases alive : (state.sessions session).ended with
      | true =>
          have same : after = enders := by
            funext other
            simpa [ServerState.endSession, alive] using count other
          simp only [ServerState.endSession, alive, ↓reduceIte, same]
          exact sound
      | false =>
          simp only [ServerState.endSession, alive, Bool.false_eq_true, ↓reduceIte]
          refine sound.endSession_exchange notified alive fun other => ?_
          simpa [ServerState.endSession, alive] using count other
  | cancel =>
      have same : after = enders := by
        funext other
        simpa [ServerState.endSession] using count other
      rw [same]
      exact sound.cancel session
  | removeActive =>
      have same : after = enders := by
        funext other
        simpa [ServerState.endSession] using count other
      rw [same]
      exact sound.exchangeActive (some session) none
  | loadNotified =>
      have same : after = enders := by
        funext other
        simpa [ServerState.endSession, notified] using count other
      simp only [ServerState.endSession, notified, ↓reduceIte, same]
      exact sound
  | notify =>
      refine sound.notify (announced rfl) fun other => ?_
      simpa [ServerState.endSession] using count other

end StateSound

/-- What a step of `EndSession` leaves alone: the announcements, and who has ended. -/
structure Keeps (state next : ServerState) : Prop where
  notified : ∀ session,
    (next.sessions session).connectedNotified = (state.sessions session).connectedNotified
  announced : ∀ session, (.connected, session) ∈ next.callbacks ↔
    (.connected, session) ∈ state.callbacks
  ended : ∀ session, (state.sessions session).ended = true → (next.sessions session).ended = true
  created : next.created = state.created
  active : ∀ session, next.activeSession = some session → state.activeSession = some session

theorem Keeps.refl (state : ServerState) : Keeps state state :=
  ⟨fun _ => rfl, fun _ => Iff.rfl, fun _ => id, rfl, fun _ => id⟩

theorem keeps_cancel (state : ServerState) (session : Nat) :
    Keeps state (state.cancel session) := by
  refine ⟨?_, fun _ => Iff.rfl, ?_, rfl, fun _ => id⟩
  · intro other
    simp only [ServerState.cancel, ServerState.setSession]
    split
    · rename_i same
      rw [same]
    · rfl
  · intro other ended
    simp only [ServerState.cancel, ServerState.setSession]
    split
    · rename_i same
      rw [← same]
      exact ended
    · exact ended

theorem keeps_removeActive (state : ServerState) (session : Nat) :
    Keeps state (state.exchangeActive (some session) none) := by
  unfold ServerState.exchangeActive
  split
  · exact ⟨fun _ => rfl, fun _ => Iff.rfl, fun _ => id, rfl, fun _ absent => by cases absent⟩
  · exact Keeps.refl state

theorem keeps_endSession (state : ServerState) (session : Nat) (stage : Ending) :
    Keeps state (state.endSession session stage).2 := by
  cases stage with
  | exchangeEnded =>
      simp only [ServerState.endSession]
      split
      · exact Keeps.refl state
      · refine ⟨?_, fun _ => Iff.rfl, ?_, rfl, fun _ => id⟩
        · intro other
          simp only [ServerState.setSession]
          split
          · rename_i same
            rw [same]
          · rfl
        · intro other ended
          simp only [ServerState.setSession]
          split
          · rfl
          · exact ended
  | cancel => exact keeps_cancel state session
  | removeActive => exact keeps_removeActive state session
  | loadNotified =>
      simp only [ServerState.endSession]
      split <;> exact Keeps.refl state
  | notify =>
      refine ⟨fun _ => rfl, ?_, fun _ => id, rfl, fun _ => id⟩
      intro other
      simp [ServerState.endSession, ServerState.invokeConnectionCallback]

def WorkerSound (state : ServerState) : Worker → Prop
  | .checkRunning session
  | .exchangeActive session
  | .recheckRunning session
  | .withdraw session
  | .storeNotified session => (state.sessions session).connectedNotified = false
  | .announce session => (state.sessions session).connectedNotified = true ∧
      (.connected, session) ∉ state.callbacks
  | .reading session
  | .ending session _ => (state.sessions session).connectedNotified = true ∧
      (.connected, session) ∈ state.callbacks
  | .finalEnding session stage => stage = .exchangeEnded ∧
      (state.sessions session).ended = true
  | _ => True

theorem WorkerSound.keep {state next : ServerState} {worker : Worker}
    (sound : WorkerSound state worker) (keeps : Keeps state next) : WorkerSound next worker := by
  cases worker <;>
    simp only [WorkerSound, keeps.notified, keeps.announced] at sound ⊢ <;>
    try exact sound
  case finalEnding session stage => exact ⟨sound.1, keeps.ended session sound.2⟩

namespace PipeServer

/-- How many threads have ended the session, and have still to report it as gone. -/
def enders (server : PipeServer) (session : Nat) : Nat :=
  (server.worker.ends session).toNat + server.senders.countP (Sender.ends session)

structure Sound (server : PipeServer) : Prop where
  state : StateSound server.state server.worker.session server.enders
  worker : WorkerSound server.state server.worker
  known : ∀ session, server.worker.session = some session → session < server.state.created
  active : ∀ session, server.state.activeSession = some session →
    server.worker.published = some session ∨ (server.state.sessions session).ended = true
  senders : ∀ sender ∈ server.senders, ∀ session, sender.committed = some session →
    (server.state.sessions session).connectedNotified = true

/-- The steps that keep the callbacks in order: a session is announced when no `Send` has still to
report another one as gone, and a `Send` reports a session as gone when it has been announced. -/
def Orderly (server : PipeServer) : PipeServerStep → Prop
  | .worker _ => ∀ session, server.worker = .announce session →
      ∀ sender ∈ server.senders, ∀ other, sender.ends other = true → other = session
  | .sender index _ => ∀ session, server.senders[index]? = some (.ending session .notify) →
      server.worker ≠ .announce session
  | _ => True

variable {server : PipeServer} {index : Nat} {sender : Sender}

theorem Sound.sender_reads (sound : server.Sound) (found : server.senders[index]? = some sender)
    {next : Sender} (same : ∀ session, next.ends session = sender.ends session)
    (committed : ∀ session, next.committed = some session →
      (server.state.sessions session).connectedNotified = true) :
    Sound { server with senders := server.senders.set index next } where
  state := by
    have kept : enders { server with senders := server.senders.set index next } =
        server.enders := by
      funext session
      have change := countP_set_add found next (Sender.ends session)
      rw [same] at change
      simp only [enders]
      omega
    rw [kept]
    exact sound.state
  worker := sound.worker
  known := sound.known
  active := sound.active
  senders other member session holds := by
    rcases List.mem_or_eq_of_mem_set member with earlier | new
    · exact sound.senders other earlier session holds
    · subst new
      exact committed session holds

theorem ne_exchange_of_endSession {state : ServerState} {session : Nat} {stage next : Ending}
    (left : (state.endSession session stage).1 = some next) : next ≠ .exchangeEnded := by
  cases stage with
  | exchangeEnded =>
      simp only [ServerState.endSession] at left
      split at left
      · cases left
      · cases left
        decide
  | cancel =>
      cases left
      decide
  | removeActive =>
      cases left
      decide
  | loadNotified =>
      simp only [ServerState.endSession] at left
      split at left
      · cases left
        decide
      · cases left
  | notify => cases left

theorem Sound.announced (sound : server.Sound) {session : Nat}
    (notified : (server.state.sessions session).connectedNotified = true)
    (passed : server.worker ≠ .announce session) :
    (.connected, session) ∈ server.state.callbacks := by
  by_cases handled : server.worker.session = some session
  · have worker := sound.worker
    generalize server.worker = stands at worker handled passed
    cases stands with
    | announce other =>
        cases handled
        exact absurd rfl passed
    | reading other =>
        cases handled
        exact worker.2
    | ending other stage =>
        cases handled
        exact worker.2
    | _ =>
        cases handled
        try
          rw [WorkerSound, notified] at worker
          cases worker
  · exact (sound.state.settled session notified handled).2

/-- What is left of a call of `Send` after a step of `EndSession`. -/
def afterEnding (session : Nat) : Option Ending → Sender
  | some stage => .ending session stage
  | none => .returned

theorem Sound.sender_ending (sound : server.Sound) {session : Nat} {stage : Ending}
    (found : server.senders[index]? = some (.ending session stage))
    (orderly : stage = .notify → server.worker ≠ .announce session) :
    Sound { server with
      state := (server.state.endSession session stage).2
      senders := server.senders.set index
        (afterEnding session (server.state.endSession session stage).1) } := by
  have notified := sound.senders _ (List.mem_of_getElem? found) session rfl
  have keeps := keeps_endSession server.state session stage
  constructor
  · refine sound.state.endSession notified (fun last => sound.announced notified (orderly last)) ?_
    intro other
    have change := countP_set_add found
      (afterEnding session (server.state.endSession session stage).1) (Sender.ends other)
    have before : (Sender.ends other (.ending session stage)).toNat =
        if other = session ∧ stage ≠ .exchangeEnded then 1 else 0 := by
      by_cases same : session = other
      · subst same
        by_cases first : stage = .exchangeEnded <;> simp [Sender.ends, first]
      · simp [Sender.ends, same, Ne.symm same]
    have later : (Sender.ends other
        (afterEnding session (server.state.endSession session stage).1)).toNat =
        if other = session ∧ (server.state.endSession session stage).1.isSome = true then 1
        else 0 := by
      cases left : (server.state.endSession session stage).1 with
      | none => simp [afterEnding, Sender.ends]
      | some next =>
          have further := ne_exchange_of_endSession left
          by_cases same : session = other
          · subst same
            simp [afterEnding, Sender.ends, further]
          · simp [afterEnding, Sender.ends, same, Ne.symm same]
    simp only [enders]
    omega
  · exact sound.worker.keep keeps
  · intro other handled
    have bound := sound.known other handled
    rw [← keeps.created] at bound
    exact bound
  · intro other active
    rcases sound.active other (keeps.active other active) with published | ended
    · exact .inl published
    · exact .inr (keeps.ended other ended)
  · intro other member committed holds
    refine (keeps.notified committed).trans ?_
    rcases List.mem_or_eq_of_mem_set member with earlier | new
    · exact sound.senders other earlier committed holds
    · subst new
      cases left : (server.state.endSession session stage).1 with
      | none =>
          rw [left] at holds
          cases holds
      | some next =>
          rw [left] at holds
          cases holds
          exact notified

theorem Sound.sender_step (sound : server.Sound) (writes : Bool)
    (found : server.senders[index]? = some sender)
    (orderly : server.Orderly (.sender index writes)) :
    Sound { server with
      state := (sender.step server.state writes).2
      senders := server.senders.set index (sender.step server.state writes).1 } := by
  have before := sound.senders _ (List.mem_of_getElem? found)
  cases sender with
  | loadActive =>
      simp only [Sender.step]
      split
      · exact sound.sender_reads found (fun _ => rfl) fun _ none => by cases none
      · exact sound.sender_reads found (fun _ => rfl) fun _ none => by cases none
  | loadRunning session =>
      simp only [Sender.step]
      split
      · exact sound.sender_reads found (fun _ => rfl) fun _ none => by cases none
      · exact sound.sender_reads found (fun _ => rfl) fun _ none => by cases none
  | loadEnded session =>
      simp only [Sender.step]
      split
      · exact sound.sender_reads found (fun _ => rfl) fun _ none => by cases none
      · exact sound.sender_reads found (fun _ => rfl) fun _ none => by cases none
  | loadNotified session =>
      simp only [Sender.step]
      split
      · rename_i notified
        refine sound.sender_reads found (fun _ => rfl) ?_
        intro other same
        cases same
        exact notified
      · exact sound.sender_reads found (fun _ => rfl) fun _ none => by cases none
  | loadStatus session =>
      simp only [Sender.step]
      split
      · exact sound.sender_reads found (fun _ => rfl) before
      · exact sound.sender_reads found (fun _ => rfl) fun _ none => by cases none
  | writeFrame session =>
      simp only [Sender.step]
      split
      · exact sound.sender_reads found (fun _ => rfl) fun _ none => by cases none
      · refine sound.sender_reads found ?_ before
        intro other
        simp [Sender.ends]
  | ending session stage =>
      have ended := sound.sender_ending found fun last => orderly session (last ▸ found)
      simp only [Sender.step]
      generalize server.state.endSession session stage = result at ended
      obtain ⟨left, state⟩ := result
      cases left <;> exact ended
  | returned => exact sound.sender_reads found (fun _ => rfl) fun _ none => by cases none

theorem Sound.worker_moves (sound : server.Sound) {next : Worker} {state : ServerState}
    (notified : ∀ session, (server.state.sessions session).connectedNotified = true →
      (state.sessions session).connectedNotified = true)
    (idle : ∀ session, next.ends session = server.worker.ends session)
    (stateSound : StateSound state next.session server.enders) (worker : WorkerSound state next)
    (known : ∀ session, next.session = some session → session < state.created)
    (active : ∀ session, state.activeSession = some session →
      next.published = some session ∨ (state.sessions session).ended = true) :
    Sound { server with
      state := state
      worker := next } where
  state := by
    have same : enders { server with
        state := state
        worker := next } = server.enders := by
      funext session
      simp only [enders, idle]
    rw [same]
    exact stateSound
  worker := worker
  known := known
  active := active
  senders sender member session holds :=
    notified session (sound.senders sender member session holds)

theorem Sound.worker_drops (sound : server.Sound) {session : Nat} {state : ServerState}
    (unnotified : (server.state.sessions session).connectedNotified = false)
    (idle : ∀ session, server.worker.ends session = false)
    (stateSound : StateSound state (some session) server.enders)
    (keeps : Keeps server.state state)
    (active : ∀ other, state.activeSession = some other →
      (state.sessions other).ended = true) :
    Sound { server with
      state := state
      worker := .accepting } := by
  refine sound.worker_moves ?_ ?_ ?_ trivial ?_ ?_
  · intro other notified
    exact (keeps.notified other).trans notified
  · intro other
    rw [idle]
    rfl
  · refine stateSound.turn ?_
    intro other same notified
    cases same
    rw [keeps.notified, unnotified] at notified
    cases notified
  · intro other none
    cases none
  · intro other published
    exact .inr (active other published)

section Worker

variable (sound : server.Sound)

include sound

theorem Sound.worker_accepting (stands : server.worker = .accepting) (outcome : PipeOutcome) :
    Sound { server with
      state := (Worker.step server.state outcome .accepting).2
      worker := (Worker.step server.state outcome .accepting).1 } := by
  have state := sound.state
  have active := sound.active
  rw [stands] at state active
  have idle (next : Worker) (never : ∀ session, next.ends session = false) :
      ∀ session, next.ends session = server.worker.ends session := by
    intro session
    rw [stands, never]
    rfl
  have ended : ∀ session, server.state.activeSession = some session →
      (server.state.sessions session).ended = true := by
    intro session published
    rcases active session published with none | ended
    · cases none
    · exact ended
  simp only [Worker.step]
  split
  · refine sound.worker_moves (fun _ => id) (idle _ fun _ => rfl) state trivial ?_ ?_
    · intro session none
      cases none
    · exact fun session published => .inr (ended session published)
  · split
    · refine sound.worker_moves (fun _ => id) (idle _ fun _ => rfl) ?_ ?_ ?_ ?_
      · have turned : StateSound server.state (some server.state.created) server.enders :=
          state.turn fun session none => by cases none
        exact { turned with
          fresh := fun session unused => sound.state.fresh session (Nat.le_of_succ_le unused) }
      · exact sound.state.fresh server.state.created (Nat.le_refl _)
      · intro session same
        cases same
        exact Nat.lt_succ_self _
      · exact fun session published => .inr (ended session published)
    · refine sound.worker_moves (fun _ => id) (idle _ fun _ => rfl) state trivial ?_ ?_
      · intro session none
        cases none
      · exact fun session published => .inr (ended session published)
    · refine sound.worker_moves (fun _ => id) (idle _ fun _ => rfl) state trivial ?_ ?_
      · intro session none
        cases none
      · exact fun session published => .inr (ended session published)

/-- Until the new session is announced for good, its worker handles it without a notification. -/
theorem Sound.worker_announcing {session : Nat}
    (stands : server.worker = .checkRunning session ∨ server.worker = .exchangeActive session ∨
      server.worker = .recheckRunning session ∨ server.worker = .withdraw session) :
    server.worker.session = some session ∧ (∀ other, server.worker.ends other = false) ∧
      (server.state.sessions session).connectedNotified = false := by
  have worker := sound.worker
  rcases stands with here | here | here | here <;> rw [here] at worker ⊢ <;>
    exact ⟨rfl, fun _ => rfl, worker⟩

theorem Sound.worker_setting {session : Nat}
    (stands : server.worker = .checkRunning session ∨ server.worker = .exchangeActive session)
    (outcome : PipeOutcome) :
    Sound { server with
      state := (Worker.step server.state outcome server.worker).2
      worker := (Worker.step server.state outcome server.worker).1 } := by
  obtain ⟨handled, idle, unnotified⟩ := sound.worker_announcing
    (stands.imp_right fun here => .inl here)
  have ended : ∀ other, server.state.activeSession = some other →
      (server.state.sessions other).ended = true := by
    intro other published
    rcases sound.active other published with none | ended
    · rcases stands with here | here <;> rw [here] at none <;> cases none
    · exact ended
  have bound := sound.known session handled
  have state := sound.state
  rw [handled] at state
  have dropped : Sound { server with
      state := server.state.cancel session
      worker := .accepting } := by
    refine sound.worker_drops unnotified idle (state.cancel session)
      (keeps_cancel _ _) ?_
    intro other published
    exact (keeps_cancel server.state session).ended other (ended other published)
  rcases stands with here | here
  · rw [here]
    simp only [Worker.step]
    split
    · refine sound.worker_moves (fun _ => id) ?_ state unnotified ?_ ?_
      · exact fun other => (idle other).symm
      · intro other same
        cases same
        exact bound
      · exact fun other published => .inr (ended other published)
    · exact dropped
  · rw [here]
    simp only [Worker.step]
    split
    · rename_i free
      refine sound.worker_moves ?_ ?_ (state.exchangeActive none (some session)) ?_ ?_ ?_
      · intro other
        rw [ServerState.exchangeActive, if_pos free]
        exact id
      · exact fun other => (idle other).symm
      · rw [ServerState.exchangeActive, if_pos free]
        exact unnotified
      · intro other same
        cases same
        rw [ServerState.exchangeActive, if_pos free]
        exact bound
      · intro other published
        rw [ServerState.exchangeActive, if_pos free] at published
        exact .inl published
    · exact dropped

theorem Sound.worker_published {session : Nat}
    (stands : server.worker = .recheckRunning session ∨ server.worker = .withdraw session)
    (outcome : PipeOutcome) :
    Sound { server with
      state := (Worker.step server.state outcome server.worker).2
      worker := (Worker.step server.state outcome server.worker).1 } := by
  obtain ⟨handled, idle, unnotified⟩ := sound.worker_announcing (.inr (.inr stands))
  have published : server.worker.published = some session := by
    rcases stands with here | here <;> rw [here] <;> rfl
  have bound := sound.known session handled
  have active := sound.active
  have state := sound.state
  rw [handled] at state
  rw [published] at active
  have known : ∀ other, some session = some other → other < server.state.created := by
    intro other same
    cases same
    exact bound
  rcases stands with here | here
  · rw [here]
    simp only [Worker.step]
    split
    · exact sound.worker_moves (fun _ => id) (fun other => (idle other).symm) state unnotified
        known active
    · exact sound.worker_moves (fun _ => id) (fun other => (idle other).symm) state unnotified
        known active
  · rw [here]
    simp only [Worker.step]
    have keeps := keeps_removeActive server.state session
    have cancels := keeps_cancel (server.state.exchangeActive (some session) none) session
    refine sound.worker_drops unnotified idle ((state.exchangeActive _ _).cancel session) ?_ ?_
    · exact ⟨fun other => (cancels.notified other).trans (keeps.notified other),
        fun other => (cancels.announced other).trans (keeps.announced other),
        fun other ended => cancels.ended other (keeps.ended other ended),
        cancels.created.trans keeps.created,
        fun other here => keeps.active other (cancels.active other here)⟩
    · intro other left
      refine cancels.ended other (keeps.ended other ?_)
      have before := keeps.active other (cancels.active other left)
      rcases active other before with same | ended
      · exfalso
        cases same
        have removed := cancels.active session left
        rw [ServerState.exchangeActive, if_pos before] at removed
        cases removed
      · exact ended

theorem Sound.worker_storeNotified {session : Nat}
    (stands : server.worker = .storeNotified session) :
    Sound { server with
      state := server.state.setSession session
        { server.state.sessions session with connectedNotified := true }
      worker := .announce session } := by
  have handled : server.worker.session = some session := by rw [stands]; rfl
  have unnotified : (server.state.sessions session).connectedNotified = false := by
    have worker := sound.worker
    rwa [stands] at worker
  have bound := sound.known session handled
  have active := sound.active
  have state := sound.state
  rw [handled] at state
  rw [stands] at active
  have ended : ∀ other, ((server.state.setSession session
      { server.state.sessions session with connectedNotified := true }).sessions other).ended =
        (server.state.sessions other).ended := by
    intro other
    simp only [ServerState.setSession]
    split
    · rename_i same
      rw [same]
    · rfl
  have others : ∀ other, other ≠ session → (server.state.setSession session
      { server.state.sessions session with connectedNotified := true }).sessions other =
        server.state.sessions other := by
    intro other different
    simp only [ServerState.setSession, if_neg different]
  have here : ((server.state.setSession session
      { server.state.sessions session with
        connectedNotified := true }).sessions session).connectedNotified = true := by
    simp only [ServerState.setSession, if_pos]
  refine sound.worker_moves ?_ ?_ ?_ ?_ ?_ ?_
  · intro other notified
    by_cases same : other = session
    · rw [same]
      exact here
    · rw [others other same]
      exact notified
  · intro other
    rw [stands]
    rfl
  · refine ⟨state.paired, ?_, ?_, ?_, ?_, ?_⟩
    · intro other absent
      by_cases same : other = session
      · rw [same, here] at absent
        cases absent
      · rw [others other same] at absent ⊢
        exact state.unnotified other absent
    · intro other notified elsewhere
      have different : other ≠ session := fun same => elsewhere (same ▸ rfl)
      rw [others other different] at notified ⊢
      exact state.settled other notified elsewhere
    · intro other member
      rw [ended]
      exact state.gone other member
    · intro other unused
      have different : other ≠ session := by
        rintro rfl
        exact absurd bound (Nat.not_lt.mpr unused)
      rw [others other different]
      exact state.fresh other unused
    · intro other
      rw [state.enders, ended]
      rfl
  · exact ⟨here, (state.unnotified session unnotified).2⟩
  · intro other same
    cases same
    exact bound
  · intro other published
    rcases active other published with same | gone
    · exact .inl same
    · exact .inr ((ended other).trans gone)

theorem Sound.none_outstanding {session : Nat} (stands : server.worker = .announce session)
    (orderly : ∀ sender ∈ server.senders, ∀ other, sender.ends other = true → other = session) :
    Paired server.state.callbacks none := by
  obtain ⟨outstanding, paired, -⟩ := sound.state.paired
  cases outstanding with
  | none => exact paired
  | some other =>
      exfalso
      obtain ⟨announced, kept⟩ := (paired.spec other).1.mp rfl
      have worker := sound.worker
      rw [stands] at worker
      have different : other ≠ session := fun same => worker.2 (same ▸ announced)
      have notified : (server.state.sessions other).connectedNotified = true := by
        by_contra absent
        exact (sound.state.unnotified other (Bool.not_eq_true _ ▸ absent)).2 announced
      have elsewhere : server.worker.session ≠ some other := by
        rw [stands]
        intro same
        cases same
        exact different rfl
      have ended := (sound.state.settled other notified elsewhere).1
      have count := sound.state.enders other
      rw [if_pos ⟨ended, kept⟩, enders, stands] at count
      have positive : 0 < server.senders.countP (Sender.ends other) := by
        simp only [Worker.ends, Bool.toNat_false] at count
        omega
      obtain ⟨sender, member, ends⟩ := List.countP_pos_iff.mp positive
      exact different (orderly sender member other ends)

theorem Sound.worker_announce {session : Nat} (stands : server.worker = .announce session)
    (orderly : ∀ sender ∈ server.senders, ∀ other, sender.ends other = true → other = session) :
    Sound { server with
      state := server.state.invokeConnectionCallback .connected session
      worker := .reading session } := by
  have paired := sound.none_outstanding stands orderly
  have worker := sound.worker
  have active := sound.active
  have state := sound.state
  have known := sound.known
  rw [stands] at worker active state known
  have connected : ∀ other, (.connected, other) ∈
      (server.state.invokeConnectionCallback .connected session).callbacks ↔
        (.connected, other) ∈ server.state.callbacks ∨ other = session := by
    intro other
    simp [ServerState.invokeConnectionCallback]
  have gone : ∀ other, (.disconnected, other) ∈
      (server.state.invokeConnectionCallback .connected session).callbacks ↔
        (.disconnected, other) ∈ server.state.callbacks := by
    intro other
    simp [ServerState.invokeConnectionCallback]
  refine sound.worker_moves (fun _ => id) ?_ ?_ ⟨worker.1, (connected session).mpr (.inr rfl)⟩
    known active
  · intro other
    rw [stands]
    rfl
  · refine ⟨⟨some session, paired.connect worker.2, rfl⟩, ?_, ?_, ?_, state.fresh, ?_⟩
    · intro other absent
      obtain ⟨alive, unannounced⟩ := state.unnotified other absent
      refine ⟨alive, fun member => ?_⟩
      rcases (connected other).mp member with earlier | same
      · exact unannounced earlier
      · subst same
        have notified := worker.1
        rw [show (server.state.sessions other).connectedNotified = false from absent] at notified
        cases notified
    · intro other notified elsewhere
      obtain ⟨ended, announced⟩ := state.settled other notified elsewhere
      exact ⟨ended, (connected other).mpr (.inl announced)⟩
    · intro other member
      exact state.gone other ((gone other).mp member)
    · intro other
      rw [state.enders]
      simp only [gone]
      rfl

theorem Sound.worker_reading {session : Nat} (stands : server.worker = .reading session)
    (outcome : PipeOutcome) :
    Sound { server with
      state := (Worker.step server.state outcome (.reading session)).2
      worker := (Worker.step server.state outcome (.reading session)).1 } := by
  have worker := sound.worker
  have active := sound.active
  have state := sound.state
  have known := sound.known
  rw [stands] at worker active state known
  have keeps := keeps_cancel server.state session
  have idle (next : Worker) (never : ∀ session, next.ends session = false) :
      ∀ session, next.ends session = server.worker.ends session := by
    intro session
    rw [stands, never]
    rfl
  have first : ∀ other, Worker.ends other (.ending session .exchangeEnded) = false := by
    intro other
    simp [Worker.ends]
  have ending : WorkerSound server.state (.ending session .exchangeEnded) := worker
  simp only [Worker.step]
  split
  · split
    · exact sound.worker_moves (fun _ => id) (idle _ fun _ => rfl) state worker known active
    · refine sound.worker_moves ?_ (idle _ first) (state.cancel session)
        (ending.keep keeps) known ?_
      · intro other notified
        exact (keeps.notified other).trans notified
      · intro other published
        rcases active other (keeps.active other published) with same | ended
        · exact .inl same
        · exact .inr (keeps.ended other ended)
  · exact sound.worker_moves (fun _ => id) (idle _ first) state worker known active

def afterWorkerEnding (session : Nat) : Option Ending → Worker
  | some stage => .ending session stage
  | none => .accepting

theorem Sound.ended_of_returned {session : Nat} {stage : Ending}
    (stands : server.worker = .ending session stage)
    (returned : (server.state.endSession session stage).1 = none) :
    (server.state.sessions session).ended = true := by
  have worker := sound.worker
  rw [stands] at worker
  cases stage with
  | exchangeEnded =>
      simp only [ServerState.endSession] at returned
      split at returned
      · assumption
      · cases returned
  | cancel => cases returned
  | removeActive => cases returned
  | loadNotified =>
      simp only [ServerState.endSession, worker.1, ↓reduceIte] at returned
      cases returned
  | notify =>
      have count := sound.state.enders session
      by_contra alive
      rw [if_neg fun both => alive both.1, enders, stands] at count
      simp [Worker.ends] at count

theorem Sound.worker_ending {session : Nat} {stage : Ending}
    (stands : server.worker = .ending session stage) :
    Sound { server with
      state := (server.state.endSession session stage).2
      worker := afterWorkerEnding session (server.state.endSession session stage).1 } := by
  have worker := sound.worker
  have active := sound.active
  have state := sound.state
  have known := sound.known
  rw [stands] at worker active state known
  have keeps := keeps_endSession server.state session stage
  have stateSound : StateSound (server.state.endSession session stage).2 (some session)
      (enders { server with
        state := (server.state.endSession session stage).2
        worker := afterWorkerEnding session (server.state.endSession session stage).1 }) := by
    refine state.endSession worker.1 (fun _ => worker.2) ?_
    intro other
    have before : (Worker.ends other (.ending session stage)).toNat =
        if other = session ∧ stage ≠ .exchangeEnded then 1 else 0 := by
      by_cases same : session = other
      · subst same
        by_cases first : stage = .exchangeEnded <;> simp [Worker.ends, first]
      · simp [Worker.ends, same, Ne.symm same]
    have later : (Worker.ends other
        (afterWorkerEnding session (server.state.endSession session stage).1)).toNat =
        if other = session ∧ (server.state.endSession session stage).1.isSome = true then 1
        else 0 := by
      cases left : (server.state.endSession session stage).1 with
      | none => simp [afterWorkerEnding, Worker.ends]
      | some next =>
          have further := ne_exchange_of_endSession left
          by_cases same : session = other
          · subst same
            simp [afterWorkerEnding, Worker.ends, further]
          · simp [afterWorkerEnding, Worker.ends, same, Ne.symm same]
    simp only [enders, stands]
    omega
  have senders : ∀ sender ∈ server.senders, ∀ other, sender.committed = some other →
      ((server.state.endSession session stage).2.sessions other).connectedNotified = true := by
    intro sender member other holds
    exact (keeps.notified other).trans (sound.senders sender member other holds)
  cases left : (server.state.endSession session stage).1 with
  | some next =>
      rw [left] at stateSound
      have ending : WorkerSound server.state (.ending session next) := worker
      refine ⟨stateSound, ending.keep keeps, ?_, ?_, senders⟩
      · intro other same
        have bound := known other same
        rw [← keeps.created] at bound
        exact bound
      · intro other published
        rcases active other (keeps.active other published) with same | ended
        · exact .inl same
        · exact .inr (keeps.ended other ended)
  | none =>
      have ended := keeps.ended session (sound.ended_of_returned stands left)
      rw [left] at stateSound
      refine ⟨stateSound.turn ?_, trivial, ?_, ?_, senders⟩
      · intro other same notified
        cases same
        exact ⟨ended, (keeps.announced session).mpr worker.2⟩
      · intro other none
        cases none
      · intro other published
        rcases active other (keeps.active other published) with same | gone
        · cases same
          exact .inr ended
        · exact .inr (keeps.ended other gone)

/-- `Run` after its loop. The active session, if any, has been ended by a `Send`. -/
theorem Sound.worker_finishes (outcome : PipeOutcome)
    (stands : server.worker = .loadActive ∨
      (∃ session stage, server.worker = .finalEnding session stage) ∨
      server.worker = .storeStopped ∨ server.worker = .returned) :
    Sound { server with
      state := (Worker.step server.state outcome server.worker).2
      worker := (Worker.step server.state outcome server.worker).1 } := by
  have unhandled : server.worker.session = none := by
    rcases stands with here | ⟨session, stage, here⟩ | here | here <;> rw [here] <;> rfl
  have unpublished : server.worker.published = none := by
    rcases stands with here | ⟨session, stage, here⟩ | here | here <;> rw [here] <;> rfl
  have worker := sound.worker
  have state := sound.state
  have ended : ∀ other, server.state.activeSession = some other →
      (server.state.sessions other).ended = true := by
    intro other published
    rcases sound.active other published with same | ended
    · rw [unpublished] at same
      cases same
    · exact ended
  rw [unhandled] at state
  have moves {next : Worker} {after : ServerState}
      (same : after = { server.state with running := after.running })
      (idle : ∀ session, next.ends session = server.worker.ends session)
      (nowhere : next.session = none) (workerSound : WorkerSound server.state next) :
      Sound { server with
        state := after
        worker := next } := by
    refine sound.worker_moves ?_ idle ?_ ?_ ?_ ?_
    · rw [same]
      exact fun _ => id
    · rw [nowhere, same]
      exact state.congr rfl rfl rfl (fun _ => rfl) fun _ => rfl
    · refine workerSound.keep ?_
      rw [same]
      exact ⟨fun _ => rfl, fun _ => Iff.rfl, fun _ => id, rfl, fun _ => id⟩
    · intro other handled
      rw [nowhere] at handled
      cases handled
    · intro other published
      rw [same] at published ⊢
      exact .inr (ended other published)
  rcases stands with here | ⟨session, stage, here⟩ | here | here
  · rw [here]
    simp only [Worker.step]
    split
    · rename_i session found
      refine moves rfl ?_ rfl ⟨rfl, ended session found⟩
      intro other
      simp [Worker.ends, here]
    · refine moves rfl ?_ rfl trivial
      intro other
      rw [here]
      rfl
  · rw [here] at worker ⊢
    obtain ⟨rfl, gone⟩ := worker
    simp only [Worker.step, ServerState.endSession, gone, ↓reduceIte]
    refine moves rfl ?_ rfl trivial
    intro other
    simp [Worker.ends, here]
  · rw [here]
    refine moves rfl ?_ rfl trivial
    intro other
    rw [here]
    rfl
  · rw [here]
    refine moves rfl ?_ rfl trivial
    intro other
    rw [here]
    rfl

theorem Sound.worker_step (outcome : PipeOutcome) (orderly : server.Orderly (.worker outcome)) :
    Sound { server with
      state := (server.worker.step server.state outcome).2
      worker := (server.worker.step server.state outcome).1 } := by
  cases stands : server.worker with
  | accepting => exact sound.worker_accepting stands outcome
  | checkRunning session => exact stands ▸ sound.worker_setting (.inl stands) outcome
  | exchangeActive session => exact stands ▸ sound.worker_setting (.inr stands) outcome
  | recheckRunning session => exact stands ▸ sound.worker_published (.inl stands) outcome
  | withdraw session => exact stands ▸ sound.worker_published (.inr stands) outcome
  | storeNotified session => exact sound.worker_storeNotified stands
  | announce session => exact sound.worker_announce stands (orderly session stands)
  | reading session => exact sound.worker_reading stands outcome
  | ending session stage =>
      have ended := sound.worker_ending stands
      simp only [Worker.step]
      generalize server.state.endSession session stage = result at ended
      obtain ⟨left, state⟩ := result
      cases left <;> exact ended
  | loadActive => exact stands ▸ sound.worker_finishes outcome (.inl stands)
  | finalEnding session stage =>
      exact stands ▸ sound.worker_finishes outcome (.inr (.inl ⟨session, stage, stands⟩))
  | storeStopped => exact stands ▸ sound.worker_finishes outcome (.inr (.inr (.inl stands)))
  | returned => exact stands ▸ sound.worker_finishes outcome (.inr (.inr (.inr stands)))

end Worker

theorem Sound.stopper_step (sound : server.Sound) {stopper : Stopper} :
    Sound { server with
      state := (stopper.step server.state).2
      stoppers := server.stoppers.set index (stopper.step server.state).1 } := by
  cases stopper with
  | storeStopped =>
      refine { sound with state := ?_, worker := ?_ }
      · exact sound.state.congr rfl rfl rfl (fun _ => rfl) fun _ => rfl
      · exact sound.worker.keep
          ⟨fun _ => rfl, fun _ => Iff.rfl, fun _ => id, rfl, fun _ => id⟩
  | loadActive =>
      simp only [Stopper.step]
      split <;> exact ⟨sound.state, sound.worker, sound.known, sound.active, sound.senders⟩
  | cancel session =>
      have keeps := keeps_cancel server.state session
      refine ⟨sound.state.cancel session, sound.worker.keep keeps, sound.known, ?_, ?_⟩
      · intro other published
        rcases sound.active other published with same | ended
        · exact .inl same
        · exact .inr (keeps.ended other ended)
      · intro sender member other holds
        exact (keeps.notified other).trans (sound.senders sender member other holds)
  | returned => exact ⟨sound.state, sound.worker, sound.known, sound.active, sound.senders⟩

theorem Sound.step (sound : server.Sound) {step : PipeServerStep}
    (orderly : server.Orderly step) : (server.step step).Sound := by
  cases step with
  | worker outcome => exact sound.worker_step outcome orderly
  | send =>
      have same : enders { server with senders := server.senders ++ [.loadActive] } =
          server.enders := by
        funext session
        simp [enders, Sender.ends]
      refine ⟨?_, sound.worker, sound.known, sound.active, ?_⟩
      · change StateSound server.state server.worker.session
          (enders { server with senders := server.senders ++ [.loadActive] })
        rw [same]
        exact sound.state
      · intro sender member session holds
        rcases List.mem_append.mp member with earlier | new
        · exact sound.senders sender earlier session holds
        · rw [List.mem_singleton.mp new] at holds
          cases holds
  | sender index writes =>
      simp only [PipeServer.step]
      split
      · rename_i sender found
        exact sound.sender_step writes found orderly
      · exact sound
  | requestStop => exact ⟨sound.state, sound.worker, sound.known, sound.active, sound.senders⟩
  | stopper index =>
      simp only [PipeServer.step]
      split
      · exact sound.stopper_step
      · exact sound

theorem sound_started : started.Sound where
  state := by
    refine ⟨⟨none, .start, rfl⟩, ?_, ?_, ?_, ?_, ?_⟩
    · exact fun session _ => ⟨rfl, by simp [started]⟩
    · intro session notified
      cases notified
    · intro session member
      cases member
    · exact fun session _ => rfl
    · intro session
      simp [enders, started, Worker.ends]
  worker := trivial
  known session none := by cases none
  active session none := by cases none
  senders sender member := by cases member

inductive OrderlyRun : List PipeServerStep → Prop where
  | start : OrderlyRun []
  | step {steps : List PipeServerStep} {step : PipeServerStep} (earlier : OrderlyRun steps)
      (orderly : (run steps).Orderly step) : OrderlyRun (steps ++ [step])

theorem run_append_singleton (steps : List PipeServerStep) (step : PipeServerStep) :
    run (steps ++ [step]) = (run steps).step step := by
  simp [run]

theorem OrderlyRun.sound {steps : List PipeServerStep} (orderly : OrderlyRun steps) :
    (run steps).Sound := by
  induction orderly with
  | start => exact sound_started
  | step earlier orderly ih =>
      rw [run_append_singleton]
      exact ih.step orderly

/-- What the callbacks tell: they alternate and, once every announced session has ended and been
reported as gone, the last one was `Disconnected` and the flag is cleared. -/
def CallbacksAlternate (server : PipeServer) : Prop :=
  (∃ outstanding, Paired server.state.callbacks outstanding) ∧
    ((∀ session, (.connected, session) ∈ server.state.callbacks →
        (server.state.sessions session).ended = true) →
      (∀ session, server.enders session = 0) →
        server.state.clientConnected = false ∧
          ∀ last, server.state.callbacks.getLast? = some last → last.1 = .disconnected)

theorem Sound.callbacksAlternate (sound : server.Sound) : server.CallbacksAlternate := by
  obtain ⟨outstanding, paired, flag⟩ := sound.state.paired
  refine ⟨⟨outstanding, paired⟩, fun ended none => ?_⟩
  cases outstanding with
  | some session =>
      exfalso
      obtain ⟨announced, kept⟩ := (paired.spec session).1.mp rfl
      have count := sound.state.enders session
      rw [none, if_pos ⟨ended session announced, kept⟩] at count
      cases count
  | none =>
      refine ⟨flag, fun last found => ?_⟩
      generalize server.state.callbacks = callbacks at paired found
      cases paired with
      | start => cases found
      | disconnect paired =>
          rw [List.getLast?_append_cons] at found
          cases found
          rfl

/-- A step out of order breaks the alternation at once. -/
theorem Sound.orderly (sound : server.Sound) {step : PipeServerStep}
    (alternate : ∃ outstanding, Paired (server.step step).state.callbacks outstanding) :
    server.Orderly step := by
  obtain ⟨outstanding, after⟩ := alternate
  cases step with
  | worker outcome =>
      intro session stands sender member other ends
      by_contra different
      have worker := sound.worker
      rw [stands] at worker
      have callbacks : (server.step (.worker outcome)).state.callbacks =
          server.state.callbacks ++ [(.connected, session)] := by
        simp only [PipeServer.step, stands]
        rfl
      rw [callbacks] at after
      have none := after.before_last
      have count := sound.state.enders other
      have positive : 0 < server.senders.countP (Sender.ends other) :=
        List.countP_pos_iff.mpr ⟨sender, member, ends⟩
      have pending : (server.state.sessions other).ended = true ∧
          (.disconnected, other) ∉ server.state.callbacks := by
        by_contra neither
        rw [if_neg neither, enders] at count
        omega
      have notified : (server.state.sessions other).connectedNotified = true := by
        by_contra absent
        have alive := (sound.state.unnotified other (Bool.not_eq_true _ ▸ absent)).1
        rw [pending.1] at alive
        cases alive
      have announced := sound.announced notified fun same => by
        rw [stands] at same
        cases same
        exact different rfl
      cases (none.spec other).1.mpr ⟨announced, pending.2⟩
  | sender index writes =>
      intro session found stands
      have worker := sound.worker
      rw [stands] at worker
      have callbacks : (server.step (.sender index writes)).state.callbacks =
          server.state.callbacks ++ [(.disconnected, session)] := by
        simp only [PipeServer.step, found]
        rfl
      rw [callbacks] at after
      exact worker.2 ((after.before_last.spec session).1.mp rfl).1
  | _ => trivial

end PipeServer

open PipeServer in
/-- The callbacks alternate throughout a run exactly when no `Send` reports a session as gone
before its announcement, and no session is announced while a `Send` has still to report another
one as gone. -/
theorem connectionCallbacks_alternate_iff (steps : List PipeServerStep) :
    (∀ earlier, earlier <+: steps → (run earlier).CallbacksAlternate) ↔ OrderlyRun steps := by
  constructor
  · intro alternate
    induction steps using List.reverseRecOn with
    | nil => exact .start
    | append_singleton steps step ih =>
        have earlier := ih fun prior isFirst =>
          alternate prior (isFirst.trans (List.prefix_append steps [step]))
        refine earlier.step (earlier.sound.orderly ?_)
        rw [← run_append_singleton]
        exact (alternate (steps ++ [step]) List.prefix_rfl).1
  · intro orderly
    induction orderly with
    | start =>
        intro earlier isFirst
        rw [List.prefix_nil.mp isFirst]
        exact sound_started.callbacksAlternate
    | step prior orderly ih =>
        intro earlier isFirst
        rcases List.prefix_concat_iff.mp isFirst with whole | shorter
        · rw [whole]
          exact (prior.step orderly).sound.callbacksAlternate
        · exact ih earlier shorter

/-- A `Send` finds the session announced, fails, and reports it as gone before the worker invokes
the callback that announces it. -/
def earlyDisconnect : List PipeServerStep :=
  List.replicate 5 (.worker .success) ++ .send :: List.replicate 11 (.sender 0 false) ++
    List.replicate 3 (.worker .success)

/-- Everything has returned, the session has ended, and the flag is still set. -/
theorem earlyDisconnect_not_alternate :
    ¬ ∀ steps, (PipeServer.run steps).CallbacksAlternate := by
  intro claim
  have flag := ((claim earlyDisconnect).2 ?_ ?_).1
  · have set : (PipeServer.run earlyDisconnect).state.clientConnected = true := by decide
    rw [set] at flag
    cases flag
  · have callbacks : (PipeServer.run earlyDisconnect).state.callbacks =
        [(.disconnected, 0), (.connected, 0)] := by decide
    intro session member
    rw [callbacks] at member
    have first : session = 0 := by simpa using member
    rw [first]
    decide
  · have worker : (PipeServer.run earlyDisconnect).worker = .accepting := by decide
    have senders : (PipeServer.run earlyDisconnect).senders = [.returned] := by decide
    intro session
    rw [PipeServer.enders, worker, senders]
    rfl

end WindowsKext
