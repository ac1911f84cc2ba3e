import Mathlib.Data.List.Perm.Basic

/-! Threads over a shared state. A thread is the list of the tasks it still has to do. A task is
atomic, and the tasks of different threads run in any order. -/

namespace Interleaving

variable {Shared Task Call Input Token : Type}

/-- A call starts a thread. A task changes the shared state and leaves the tasks that its thread
does next. -/
structure Machine (Shared Task Call Input : Type) where
  tasks : Call → List Task
  step : Input → Shared → Task → List Task × Shared

structure State (Shared Task : Type) where
  shared : Shared
  threads : List (List Task)

/-- The scheduler starts a thread, or lets one do its next task. -/
inductive Choice (Call Input : Type) where
  | start (call : Call)
  | advance (thread : Nat) (input : Input)

def State.pending (state : State Shared Task) : List Task := state.threads.flatten

namespace Machine

variable (machine : Machine Shared Task Call Input)

def next (state : State Shared Task) : Choice Call Input → State Shared Task
  | .start call => { state with threads := state.threads ++ [machine.tasks call] }
  | .advance thread input =>
      match state.threads[thread]? with
      | some (task :: rest) =>
          let (more, shared) := machine.step input state.shared task
          { shared := shared
            threads := state.threads.set thread (more ++ rest) }
      | _ => state

def run (shared : Shared) (choices : List (Choice Call Input)) : State Shared Task :=
  choices.foldl machine.next { shared := shared, threads := [] }

end Machine

theorem flatten_set_perm {threads : List (List Task)} {thread : Nat} {tasks : List Task}
    (found : threads[thread]? = some tasks) :
    ∃ others, threads.flatten.Perm (tasks ++ others) ∧
      ∀ left, (threads.set thread left).flatten.Perm (left ++ others) := by
  induction threads generalizing thread with
  | nil => cases found
  | cons first rest ih =>
      cases thread with
      | zero =>
          cases found
          exact ⟨rest.flatten, List.Perm.refl _, fun left => List.Perm.refl _⟩
      | succ thread =>
          obtain ⟨others, before, after⟩ := ih found
          refine ⟨first ++ others, ?_, fun left => ?_⟩
          · rw [List.flatten_cons]
            exact (before.append_left first).trans (List.perm_append_comm_assoc _ _ _)
          · rw [List.set_cons_succ, List.flatten_cons]
            exact ((after left).append_left first).trans (List.perm_append_comm_assoc _ _ _)

/-- The invariant rule. `guard` is something that only gets lost along a run. -/
theorem Machine.run_invariant (machine : Machine Shared Task Call Input)
    (guard : Shared → Prop) {holds : Shared → List Task → Prop}
    (earlier : ∀ input shared task, guard (machine.step input shared task).2 → guard shared)
    (reorder : ∀ {shared tasks others}, List.Perm tasks others → holds shared tasks →
      holds shared others)
    (start : ∀ shared pending call, holds shared pending →
      holds shared (machine.tasks call ++ pending))
    (step : ∀ input shared task pending, guard (machine.step input shared task).2 →
      holds shared (task :: pending) →
      holds (machine.step input shared task).2 ((machine.step input shared task).1 ++ pending))
    {shared : Shared} (initial : holds shared []) (choices : List (Choice Call Input))
    (guarded : guard (machine.run shared choices).shared) :
    holds (machine.run shared choices).shared (machine.run shared choices).pending := by
  suffices held : ∀ state : State Shared Task, (guard state.shared → holds state.shared
      state.pending) → guard (choices.foldl machine.next state).shared →
        holds (choices.foldl machine.next state).shared
          (choices.foldl machine.next state).pending from
    held _ (fun _ => initial) guarded
  clear guarded initial
  induction choices with
  | nil => exact fun state held => held
  | cons choice rest ih =>
      intro state held
      refine ih _ ?_
      cases choice with
      | start call =>
          intro guarded
          refine reorder ?_ (start state.shared state.pending call (held guarded))
          simp only [next, State.pending, List.flatten_append, List.flatten_singleton]
          exact List.perm_append_comm
      | advance thread input =>
          simp only [next]
          split
          · rename_i task tasks found
            intro guarded
            obtain ⟨others, before, after⟩ := flatten_set_perm found
            refine reorder ?_ (step input state.shared task (tasks ++ others) guarded ?_)
            · rw [← List.append_assoc]
              exact (after _).symm
            · exact reorder before (held (earlier input state.shared task guarded))
          · exact held

/-- Every token that was issued is held by the shared state or carried by one pending task. -/
def Conserved (held : List Token) (carried : Task → List Token) (pending : List Task)
    (issued : List Token) : Prop :=
  (held ++ pending.flatMap carried).Perm issued

namespace Conserved

variable {held after new issued : List Token} {carried : Task → List Token}
  {pending more : List Task} {task : Task}

theorem reorder {others : List Task} (same : pending.Perm others)
    (conserved : Conserved held carried pending issued) :
    Conserved held carried others issued :=
  ((same.flatMap_right carried).append_left held).symm.trans conserved

theorem start (conserved : Conserved held carried pending issued)
    (nothing : ∀ task ∈ more, carried task = []) :
    Conserved held carried (more ++ pending) issued := by
  have none : more.flatMap carried = [] := List.flatMap_eq_nil_iff.mpr nothing
  rw [Conserved, List.flatMap_append, none, List.nil_append]
  exact conserved

/-- A task hands its tokens on, with those that it issues. -/
theorem step (conserved : Conserved held carried (task :: pending) issued)
    (handed : (after ++ more.flatMap carried).Perm (held ++ carried task ++ new)) :
    Conserved after carried (more ++ pending) (issued ++ new) := by
  unfold Conserved at conserved ⊢
  rw [List.flatMap_cons] at conserved
  rw [List.flatMap_append, ← List.append_assoc]
  refine (handed.append_right _).trans ?_
  rw [List.append_assoc (held ++ carried task)]
  refine (List.perm_append_comm.append_left _).trans ?_
  rw [← List.append_assoc, List.append_assoc held]
  exact conserved.append_right new

end Conserved

/-- Tokens that a machine issues, numbered in the order in which they are issued. -/
structure Tokens (Shared Task : Type) where
  issued : Shared → List Nat
  held : Shared → List Nat
  carried : Task → List Nat

namespace Tokens

variable (tokens : Tokens Shared Task)

/-- A task leaves its tokens to the shared state and to its followers, with one that it may
issue. -/
def HandsOn (before : Shared) (task : Task) (result : List Task × Shared) : Prop :=
  ∃ new, tokens.issued result.2 = tokens.issued before ++ new ∧
    (new = [] ∨ new = [(tokens.issued before).length]) ∧
    (tokens.held result.2 ++ result.1.flatMap tokens.carried).Perm
      (tokens.held before ++ tokens.carried task ++ new)

structure Accounted (shared : Shared) (pending : List Task) : Prop where
  numbered : tokens.issued shared = List.range (tokens.issued shared).length
  conserved : Conserved (tokens.held shared) tokens.carried pending (tokens.issued shared)

variable {tokens} {shared : Shared} {pending : List Task}

theorem Accounted.step {task : Task} {result : List Task × Shared}
    (accounted : tokens.Accounted shared (task :: pending))
    (handsOn : tokens.HandsOn shared task result) :
    tokens.Accounted result.2 (result.1 ++ pending) := by
  obtain ⟨new, issued, fresh, handed⟩ := handsOn
  refine ⟨?_, ?_⟩
  · rw [issued]
    rcases fresh with rfl | rfl
    · simpa using accounted.numbered
    · rw [List.length_append, List.length_singleton, List.range_succ]
      exact congrArg (· ++ _) accounted.numbered
  · rw [issued]
    exact accounted.conserved.step handed

theorem Accounted.nodup (accounted : tokens.Accounted shared pending) :
    (tokens.held shared ++ pending.flatMap tokens.carried).Nodup := by
  refine accounted.conserved.nodup_iff.mpr ?_
  rw [accounted.numbered]
  exact List.nodup_range

end Tokens

theorem countP_set_add {Thread : Type} {threads : List Thread} {thread : Nat} {old : Thread}
    (found : threads[thread]? = some old) (new : Thread) (test : Thread → Bool) :
    (threads.set thread new).countP test + (test old).toNat =
      threads.countP test + (test new).toNat := by
  induction threads generalizing thread with
  | nil => cases found
  | cons first rest ih =>
      cases thread with
      | zero =>
          cases found
          simp only [List.set_cons_zero, List.countP_cons]
          cases test old <;> cases test new <;> simp
      | succ thread =>
          have later := ih found
          simp only [List.set_cons_succ, List.countP_cons]
          omega

section Counters

variable {Thread : Type} {threads : List Thread} {thread : Nat} {old new other : Thread}
  {test : Thread → Bool}

theorem toNat_le_countP (found : threads[thread]? = some old) :
    (test old).toNat ≤ threads.countP test := by
  cases holds : test old with
  | false => exact Nat.zero_le _
  | true => exact List.countP_pos_iff.mpr ⟨old, List.mem_of_getElem? found, holds⟩

theorem counter_set {before after : Nat} (found : threads[thread]? = some old)
    (counted : before = threads.countP test)
    (change : (test old).toNat ≤ before → after + (test old).toNat = before + (test new).toNat) :
    after = (threads.set thread new).countP test := by
  have enough : (test old).toNat ≤ before := counted ▸ toNat_le_countP found
  have own := change enough
  have all := countP_set_add found new test
  omega

/-- When at most one thread is inside, a step of that thread finds all others outside. -/
theorem outside_of_inside (found : threads[thread]? = some old) (inside : test old = true)
    (single : threads.countP test ≤ 1) (member : other ∈ threads.set thread new) :
    other = new ∨ test other = false := by
  induction threads generalizing thread with
  | nil => cases found
  | cons first rest ih =>
      cases thread with
      | zero =>
          cases found
          rw [List.countP_cons_of_pos inside] at single
          rw [List.set_cons_zero] at member
          rcases List.mem_cons.mp member with same | later
          · exact .inl same
          · have none : rest.countP test = 0 := by omega
            exact .inr (Bool.eq_false_iff.mpr (List.countP_eq_zero.mp none other later))
      | succ thread =>
          have foundLater : rest[thread]? = some old := found
          have others : 0 < rest.countP test :=
            List.countP_pos_iff.mpr ⟨old, List.mem_of_getElem? foundLater, inside⟩
          rw [List.countP_cons] at single
          rw [List.set_cons_succ] at member
          rcases List.mem_cons.mp member with rfl | later
          · refine .inr ?_
            cases holds : test other with
            | false => rfl
            | true =>
                rw [if_pos holds] at single
                omega
          · exact ih foundLater (by omega) later

end Counters

end Interleaving
