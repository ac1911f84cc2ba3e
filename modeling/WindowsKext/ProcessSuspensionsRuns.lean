import Mathlib.Algebra.GroupWithZero.Nat
import WindowsKext.Library.PastTime
import WindowsKext.ProcessSuspensionsCore

/-! Runs of `ProcessSuspensions` with the history of its native operations. -/

namespace WindowsKext

open PastTime

namespace SuspensionEvent

variable (generation : Nat) (history : List SuspensionEvent)

def Suspended : Prop := ∃ pid handle, .suspended generation pid handle ∈ history

def Resumed : Prop := ∃ handle cause, .resumed generation handle cause true ∈ history

def Closed : Prop := ∃ handle, .closed generation handle ∈ history

/-- Every token of the generation that was handed out has been released. -/
def AllReleased : Prop := history.count (.released generation) = history.count (.acquired generation)

end SuspensionEvent

open SuspensionEvent

/-- What may happen after a history. A generation is suspended once, its tokens are handed out before
the stop, and it is resumed until that succeeds. A release resumes the generation of its own token,
once all tokens of it are released. A handle is closed once, by a successful resume or by the
destructor. -/
def ProperSuspension (before : List SuspensionEvent) : SuspensionEvent → Prop
  | .suspended generation _ _ => ¬ Suspended generation before
  | .acquired generation =>
      Suspended generation before ∧ ¬ Resumed generation before ∧ .stopped ∉ before
  | .released _ => True
  | .resumed generation handle cause _ =>
      (∃ pid, .suspended generation pid handle ∈ before) ∧ ¬ Resumed generation before ∧
        (cause = .release →
          before.getLast? = some (.released generation) ∧ AllReleased generation before)
  | .closed generation handle =>
      (∃ pid, .suspended generation pid handle ∈ before) ∧ ¬ Closed generation before ∧
        ((∃ cause, before.getLast? = some (.resumed generation handle cause true)) ∨
          .destroyed ∈ before)
  | .stopped => True
  | .destroyed => True

structure GenerationSound (history : List SuspensionEvent) (generation : Nat)
    (stored : Option SuspensionEntry) : Prop where
  kept : ∀ entry : SuspensionEntry, stored = some entry →
    .suspended generation entry.pid entry.handle ∈ history ∧ ¬ Resumed generation history ∧
      entry.pending + history.count (.released generation) = history.count (.acquired generation)
  gone : stored = none → Suspended generation history → Resumed generation history
  closed : Closed generation history ↔ Resumed generation history
  issued : .acquired generation ∈ history → Suspended generation history
  resumed : Resumed generation history → Suspended generation history
  balanced : generation ≠ 0 →
    history.count (.released generation) ≤ history.count (.acquired generation)

structure SuspensionsSound (suspensions : ProcessSuspensions) (history : List SuspensionEvent) :
    Prop where
  proper : Always ProperSuspension history
  generations : ∀ generation,
    GenerationSound history generation suspensions.entries[generation]?
  fresh : ∀ generation, Suspended generation history →
    generation ≠ 0 ∧ (suspensions.nextGeneration = 0 ∨ generation < suspensions.nextGeneration)
  current : ∀ pid generation, suspensions.current[pid]? = some generation →
    ∃ entry : SuspensionEntry, suspensions.entries[generation]? = some entry ∧ entry.pid = pid
  bound : suspensions.nextGeneration < 2 ^ 64
  stopping : suspensions.stopping = true ↔ .stopped ∈ history
  alive : .destroyed ∉ history

def SuspensionEvent.generation : SuspensionEvent → Option Nat
  | .suspended generation _ _ => some generation
  | .acquired generation => some generation
  | .released generation => some generation
  | .resumed generation _ _ _ => some generation
  | .closed generation _ => some generation
  | .stopped => none
  | .destroyed => none

section Frames

variable {history events : List SuspensionEvent} {generation : Nat}

theorem not_mem_of_others (others : ∀ event ∈ events, event.generation ≠ some generation)
    {event : SuspensionEvent} (own : event.generation = some generation) : event ∉ events :=
  fun member => others event member own

theorem GenerationSound.frame {stored : Option SuspensionEntry}
    (sound : GenerationSound history generation stored)
    (others : ∀ event ∈ events, event.generation ≠ some generation) :
    GenerationSound (history ++ events) generation stored := by
  have foreign : ∀ event : SuspensionEvent, event.generation = some generation →
      (event ∈ history ++ events ↔ event ∈ history) := by
    intro event own
    rw [List.mem_append, or_iff_left (not_mem_of_others others own)]
  have counted : ∀ event : SuspensionEvent, event.generation = some generation →
      (history ++ events).count event = history.count event := by
    intro event own
    rw [List.count_append, List.count_eq_zero_of_not_mem (not_mem_of_others others own),
      Nat.add_zero]
  have suspended : Suspended generation (history ++ events) ↔ Suspended generation history :=
    exists_congr fun _ => exists_congr fun _ => foreign _ rfl
  have resumed : Resumed generation (history ++ events) ↔ Resumed generation history :=
    exists_congr fun _ => exists_congr fun _ => foreign _ rfl
  have closed : Closed generation (history ++ events) ↔ Closed generation history :=
    exists_congr fun _ => foreign _ rfl
  refine ⟨?_, ?_, ?_, ?_, ?_, ?_⟩
  · intro entry found
    rw [foreign _ rfl, resumed, counted _ rfl, counted _ rfl]
    exact sound.kept entry found
  · rw [suspended, resumed]
    exact sound.gone
  · rw [closed, resumed]
    exact sound.closed
  · rw [foreign _ rfl, suspended]
    exact sound.issued
  · rw [suspended, resumed]
    exact sound.resumed
  · rw [counted _ rfl, counted _ rfl]
    exact sound.balanced

/-- An event that leaves the generation suspended, with another number of tokens. -/
theorem GenerationSound.keep {entry changed : SuspensionEntry} {event : SuspensionEvent}
    (sound : GenerationSound history generation (some entry)) (samePid : changed.pid = entry.pid)
    (sameHandle : changed.handle = entry.handle)
    (resumed : Resumed generation (history ++ [event]) ↔ Resumed generation history)
    (closed : Closed generation (history ++ [event]) ↔ Closed generation history)
    (counted : changed.pending + (history ++ [event]).count (.released generation) =
      (history ++ [event]).count (.acquired generation)) :
    GenerationSound (history ++ [event]) generation (some changed) := by
  obtain ⟨suspended, unresumed, -⟩ := sound.kept entry rfl
  have still : Suspended generation (history ++ [event]) :=
    ⟨_, _, List.mem_append_left _ suspended⟩
  refine ⟨?_, ?_, ?_, fun _ => still, fun _ => still, ?_⟩
  · intro stored isStored
    cases isStored
    rw [samePid, sameHandle, resumed]
    exact ⟨List.mem_append_left _ suspended, unresumed, counted⟩
  · intro absent
    cases absent
  · rw [closed, resumed]
    exact sound.closed
  · omega

end Frames

namespace SuspensionsSound

variable {suspensions : ProcessSuspensions} {history : List SuspensionEvent}

theorem new : SuspensionsSound .new [] where
  proper := always_nil
  generations := by
    intro generation
    constructor
    · simp [ProcessSuspensions.new]
    · simp [Suspended]
    · simp [Closed, Resumed]
    · simp
    · simp [Resumed]
    · simp
  fresh := by simp [Suspended]
  current := by simp [ProcessSuspensions.new]
  bound := by decide
  stopping := by simp [ProcessSuspensions.new]
  alive := by simp

theorem not_stopped (sound : SuspensionsSound suspensions history)
    (running : suspensions.stopping = false) : .stopped ∉ history := by
  intro member
  rw [← sound.stopping, running] at member
  cases member

/-- Some events of one generation, whose entry changes with them. -/
theorem change (sound : SuspensionsSound suspensions history) {next : ProcessSuspensions}
    {events : List SuspensionEvent} (generation : Nat)
    (own : ∀ event ∈ events, event.generation = some generation)
    (proper : Always ProperSuspension (history ++ events))
    (others : ∀ other, generation ≠ other → next.entries[other]? = suspensions.entries[other]?)
    (mine : GenerationSound (history ++ events) generation next.entries[generation]?)
    (fresh : ∀ other, Suspended other (history ++ events) →
      other ≠ 0 ∧ (next.nextGeneration = 0 ∨ other < next.nextGeneration))
    (current : ∀ pid other, next.current[pid]? = some other →
      ∃ entry : SuspensionEntry, next.entries[other]? = some entry ∧ entry.pid = pid)
    (bound : next.nextGeneration < 2 ^ 64) (stopping : next.stopping = suspensions.stopping) :
    SuspensionsSound next (history ++ events) where
  proper := proper
  generations := by
    intro other
    by_cases same : generation = other
    · rw [← same]
      exact mine
    · rw [others other same]
      refine (sound.generations other).frame ?_
      intro event member about
      rw [own event member] at about
      exact same (Option.some.inj about)
  fresh := fresh
  current := current
  bound := bound
  stopping := by
    rw [stopping, sound.stopping, List.mem_append, or_iff_left]
    intro member
    cases own _ member
  alive := by
    intro member
    rcases List.mem_append.mp member with earlier | last
    · exact sound.alive earlier
    · cases own _ last

theorem current_insert (sound : SuspensionsSound suspensions history) {generation : Nat}
    {entry changed : SuspensionEntry} (found : suspensions.entries[generation]? = some entry)
    (samePid : changed.pid = entry.pid) (pid other : Nat)
    (latest : suspensions.current[pid]? = some other) :
    ∃ stored : SuspensionEntry,
      (suspensions.entries.insert generation changed)[other]? = some stored ∧ stored.pid = pid := by
  obtain ⟨stored, isStored, isPid⟩ := sound.current pid other latest
  rw [Std.TreeMap.getElem?_insert]
  by_cases same : generation = other
  · subst same
    rw [found] at isStored
    cases isStored
    exact ⟨changed, if_pos (by simp), samePid.trans isPid⟩
  · exact ⟨stored, by rw [if_neg (by simpa using same), isStored], isPid⟩

theorem getElem?_insert_ne {generation other : Nat} (entry : SuspensionEntry)
    (different : generation ≠ other) :
    (suspensions.entries.insert generation entry)[other]? = suspensions.entries[other]? := by
  rw [Std.TreeMap.getElem?_insert, if_neg (by simpa using different)]

theorem share (sound : SuspensionsSound suspensions history) {generation : Nat}
    {entry : SuspensionEntry} (found : suspensions.entries[generation]? = some entry)
    (running : suspensions.stopping = false) (fits : entry.pending + 1 < 2 ^ 64) :
    SuspensionsSound
      { suspensions with
        entries := suspensions.entries.insert generation
          { entry with pending := (entry.pending + 1) % 2 ^ 64 } }
      (history ++ [.acquired generation]) := by
  have own := sound.generations generation
  obtain ⟨suspended, unresumed, counted⟩ := own.kept entry found
  rw [Nat.mod_eq_of_lt fits]
  refine sound.change generation (by simp [SuspensionEvent.generation]) ?_ ?_ ?_ ?_ ?_ sound.bound rfl
  · exact sound.proper.append_singleton
      ⟨⟨_, _, suspended⟩, unresumed, sound.not_stopped running⟩
  · intro other different
    exact getElem?_insert_ne _ different
  · rw [Std.TreeMap.getElem?_insert, if_pos (by simp)]
    rw [found] at own
    refine own.keep rfl rfl (by simp [Resumed]) (by simp [Closed]) ?_
    simp
    omega
  · intro other
    simpa [Suspended] using sound.fresh other
  · exact sound.current_insert found rfl

theorem next_not_suspended (sound : SuspensionsSound suspensions history)
    (remaining : suspensions.nextGeneration ≠ 0) :
    ¬ Suspended suspensions.nextGeneration history := by
  intro suspended
  have fresh := (sound.fresh _ suspended).2
  omega

theorem start (sound : SuspensionsSound suspensions history) (pid handle : Nat)
    (running : suspensions.stopping = false) (remaining : suspensions.nextGeneration ≠ 0)
    (replaced : suspensions.current[pid]? = none) :
    SuspensionsSound
      { suspensions with
        entries := (suspensions.entries.insertIfNew suspensions.nextGeneration
            { pid := pid, handle := 0, pending := 0 }).insert suspensions.nextGeneration
          { pid := pid, handle := handle, pending := 1 }
        current := suspensions.current.insertIfNew pid suspensions.nextGeneration
        nextGeneration := (suspensions.nextGeneration + 1) % 2 ^ 64 }
      (history ++ [.suspended suspensions.nextGeneration pid handle,
        .acquired suspensions.nextGeneration]) := by
  have bound := sound.bound
  have unused := sound.next_not_suspended remaining
  generalize next : suspensions.nextGeneration = generation at *
  have own := sound.generations generation
  have unresumed : ¬ Resumed generation history := fun resumed => unused (own.resumed resumed)
  have unclosed : ¬ Closed generation history := fun closed => unresumed (own.closed.mp closed)
  have unacquired : history.count (.acquired generation) = 0 :=
    List.count_eq_zero_of_not_mem fun member => unused (own.issued member)
  have balanced := own.balanced remaining
  have started : Suspended generation
      (history ++ [.suspended generation pid handle, .acquired generation]) :=
    ⟨pid, handle, by simp⟩
  have still : ¬ Resumed generation
      (history ++ [.suspended generation pid handle, .acquired generation]) := by
    simpa [Resumed] using unresumed
  refine sound.change generation (by simp [SuspensionEvent.generation]) ?_ ?_ ?_ ?_ ?_
    (Nat.mod_lt _ (by decide)) rfl
  · rw [List.append_cons]
    have first : ProperSuspension history (.suspended generation pid handle) := unused
    refine (sound.proper.append_singleton first).append_singleton ⟨⟨pid, handle, ?_⟩, ?_, ?_⟩
    · simp
    · simpa [Resumed] using unresumed
    · simpa using sound.not_stopped running
  · intro other different
    simp [Std.TreeMap.getElem?_insert, Std.TreeMap.getElem?_insertIfNew, different]
  · rw [Std.TreeMap.getElem?_insert, if_pos (by simp)]
    refine ⟨?_, ?_, ?_, ?_, ?_, ?_⟩
    · intro stored isStored
      cases isStored
      refine ⟨by simp, still, ?_⟩
      simp
      omega
    · intro absent
      cases absent
    · constructor
      · intro closed
        exact absurd (by simpa [Closed] using closed) unclosed
      · intro resumed
        exact absurd resumed still
    · intro _
      exact started
    · intro _
      exact started
    · simp
      omega
  · intro other suspended
    obtain rfl | earlier : other = generation ∨ Suspended other history := by
      obtain ⟨otherPid, otherHandle, member⟩ := suspended
      rcases List.mem_append.mp member with earlier | last
      · exact .inr ⟨_, _, earlier⟩
      · rcases List.mem_cons.mp last with same | other
        · cases same
          exact .inl rfl
        · cases List.mem_singleton.mp other
    · exact ⟨remaining, by dsimp only; omega⟩
    · obtain ⟨nonzero, smaller⟩ := sound.fresh other earlier
      exact ⟨nonzero, by dsimp only; omega⟩
  · intro latestPid other latest
    dsimp only at latest ⊢
    rw [Std.TreeMap.getElem?_insertIfNew] at latest
    by_cases isNew : pid = latestPid
    · subst isNew
      have absent : pid ∉ suspensions.current := by
        rw [Std.TreeMap.mem_iff_isSome_getElem?, replaced]
        exact Bool.false_ne_true
      rw [if_pos ⟨by simp, absent⟩] at latest
      cases latest
      exact ⟨_, by rw [Std.TreeMap.getElem?_insert, if_pos (by simp)], rfl⟩
    · rw [if_neg (fun both => isNew (by simpa using both.1))] at latest
      obtain ⟨entry, stored, isPid⟩ := sound.current latestPid other latest
      have different : generation ≠ other := by
        rintro rfl
        exact unused ⟨_, _, (own.kept entry stored).1⟩
      refine ⟨entry, ?_, isPid⟩
      simp [Std.TreeMap.getElem?_insert, Std.TreeMap.getElem?_insertIfNew, different, stored]

theorem forget (sound : SuspensionsSound suspensions history) {next : ProcessSuspensions}
    (entries : ∀ generation : Nat,
      next.entries[generation]? = suspensions.entries[generation]?)
    (current : ∀ pid generation : Nat, next.current[pid]? = some generation →
      suspensions.current[pid]? = some generation)
    (later : next.nextGeneration = 0 ∨ suspensions.nextGeneration ≠ 0 ∧
      suspensions.nextGeneration ≤ next.nextGeneration)
    (bound : next.nextGeneration < 2 ^ 64) (stopping : next.stopping = suspensions.stopping) :
    SuspensionsSound next history where
  proper := sound.proper
  generations := by
    intro generation
    rw [entries]
    exact sound.generations generation
  fresh := by
    intro generation suspended
    obtain ⟨nonzero, smaller⟩ := sound.fresh generation suspended
    exact ⟨nonzero, by omega⟩
  current := by
    intro pid generation latest
    rw [entries]
    exact sound.current pid generation (current pid generation latest)
  bound := bound
  stopping := by rw [stopping, sound.stopping]
  alive := sound.alive

/-- A token that is released. A generation without an entry has been resumed already. -/
theorem giveBack (sound : SuspensionsSound suspensions history) {generation : Nat}
    (issued : generation = 0 ∨
      history.count (.released generation) < history.count (.acquired generation))
    (absent : suspensions.entries[generation]? = none) :
    SuspensionsSound suspensions (history ++ [.released generation]) := by
  have own := sound.generations generation
  have balanced := own.balanced
  refine sound.change generation (by simp [SuspensionEvent.generation]) ?_ ?_ ?_ ?_ ?_ sound.bound rfl
  · exact sound.proper.append_singleton trivial
  · intro other _
    rfl
  · refine ⟨?_, ?_, ?_, ?_, ?_, ?_⟩
    · intro stored isStored
      rw [absent] at isStored
      cases isStored
    · intro _ suspended
      simpa [Resumed] using own.gone absent (by simpa [Suspended] using suspended)
    · simpa [Closed, Resumed] using own.closed
    · simpa [Suspended] using own.issued
    · simpa [Suspended, Resumed] using own.resumed
    · simp
      omega
  · intro other
    simpa [Suspended] using sound.fresh other
  · exact sound.current

theorem lower (sound : SuspensionsSound suspensions history) {generation : Nat}
    {entry : SuspensionEntry} (found : suspensions.entries[generation]? = some entry)
    (issued : history.count (.released generation) < history.count (.acquired generation)) :
    SuspensionsSound
      { suspensions with
        entries := suspensions.entries.insert generation
          { entry with pending := entry.pending - 1 } }
      (history ++ [.released generation]) := by
  have own := sound.generations generation
  obtain ⟨-, -, counted⟩ := own.kept entry found
  refine sound.change generation (by simp [SuspensionEvent.generation]) ?_ ?_ ?_ ?_ ?_ sound.bound rfl
  · exact sound.proper.append_singleton trivial
  · intro other different
    exact getElem?_insert_ne _ different
  · rw [Std.TreeMap.getElem?_insert, if_pos (by simp)]
    rw [found] at own
    refine own.keep rfl rfl (by simp [Resumed]) (by simp [Closed]) ?_
    simp
    omega
  · intro other
    simpa [Suspended] using sound.fresh other
  · exact sound.current_insert found rfl

theorem forgetCurrent_eq (suspensions : ProcessSuspensions) (pid generation : Nat) :
    ∃ current, suspensions.forgetCurrent pid generation =
        { suspensions with current := current } ∧
      ∀ other latest : Nat, current[other]? = some latest →
        suspensions.current[other]? = some latest ∧ ¬ (other = pid ∧ latest = generation) := by
  unfold ProcessSuspensions.forgetCurrent
  by_cases isLatest : suspensions.current[pid]? = some generation
  · refine ⟨suspensions.current.erase pid, if_pos isLatest, ?_⟩
    intro other latest found
    rw [Std.TreeMap.getElem?_erase] at found
    by_cases same : pid = other
    · rw [if_pos (by simpa using same)] at found
      cases found
    · rw [if_neg (by simpa using same)] at found
      exact ⟨found, fun both => same both.1.symm⟩
  · refine ⟨suspensions.current, if_neg isLatest, ?_⟩
    intro other latest found
    refine ⟨found, ?_⟩
    rintro ⟨rfl, rfl⟩
    exact isLatest found

theorem resume (sound : SuspensionsSound suspensions history) {generation : Nat}
    {entry : SuspensionEntry} (found : suspensions.entries[generation]? = some entry)
    {cause : ResumeCause} (allowed : cause = .release →
      history.getLast? = some (.released generation) ∧ AllReleased generation history)
    (resumes : Bool) :
    SuspensionsSound (suspensions.resumeEntry generation entry cause resumes).2
      (history ++ (suspensions.resumeEntry generation entry cause resumes).1) := by
  have own := sound.generations generation
  obtain ⟨suspended, unresumed, counted⟩ := own.kept entry found
  have balanced := own.balanced
  have first : ∀ succeeded, ProperSuspension history
      (.resumed generation entry.handle cause succeeded) :=
    fun _ => ⟨⟨_, suspended⟩, unresumed, allowed⟩
  rw [ProcessSuspensions.resumeEntry]
  split
  · obtain ⟨current, forgotten, latest⟩ := forgetCurrent_eq suspensions entry.pid generation
    rw [forgotten]
    have resumed : Resumed generation (history ++ [.resumed generation entry.handle cause true,
        .closed generation entry.handle]) := ⟨_, _, List.mem_append_right _ List.mem_cons_self⟩
    refine sound.change generation (by simp [SuspensionEvent.generation]) ?_ ?_ ?_ ?_ ?_ sound.bound rfl
    · rw [List.append_cons]
      refine (sound.proper.append_singleton (first true)).append_singleton ⟨⟨entry.pid, ?_⟩, ?_, ?_⟩
      · exact List.mem_append_left _ suspended
      · intro closed
        exact unresumed (own.closed.mp (by simpa [Closed] using closed))
      · exact .inl ⟨cause, List.getLast?_concat⟩
    · intro other different
      dsimp only
      rw [Std.TreeMap.getElem?_erase, if_neg (by simpa using different)]
    · dsimp only
      rw [Std.TreeMap.getElem?_erase, if_pos (by simp)]
      refine ⟨?_, ?_, ?_, ?_, ?_, ?_⟩
      · intro stored isStored
        cases isStored
      · exact fun _ _ => resumed
      · exact ⟨fun _ => resumed, fun _ => ⟨entry.handle, by simp⟩⟩
      · simpa [Suspended] using own.issued
      · exact fun _ => ⟨_, _, List.mem_append_left _ suspended⟩
      · simpa using balanced
    · intro other
      simpa [Suspended] using sound.fresh other
    · intro pid other isLatest
      obtain ⟨wasLatest, another⟩ := latest pid other isLatest
      obtain ⟨stored, isStored, isPid⟩ := sound.current pid other wasLatest
      have different : generation ≠ other := by
        rintro rfl
        rw [found] at isStored
        cases isStored
        exact another ⟨isPid.symm, rfl⟩
      refine ⟨stored, ?_, isPid⟩
      dsimp only
      rw [Std.TreeMap.getElem?_erase, if_neg (by simpa using different), isStored]
  · refine sound.change generation (by simp [SuspensionEvent.generation]) ?_ ?_ ?_ ?_ ?_ sound.bound rfl
    · exact sound.proper.append_singleton (first false)
    · intro other _
      rfl
    · rw [found] at own ⊢
      exact own.keep rfl rfl (by simp [Resumed]) (by simp [Closed]) (by simpa using counted)
    · intro other
      simpa [Suspended] using sound.fresh other
    · exact sound.current

theorem unused (sound : SuspensionsSound suspensions history)
    (remaining : suspensions.nextGeneration ≠ 0) :
    suspensions.entries[suspensions.nextGeneration]? = none := by
  cases stored : suspensions.entries[suspensions.nextGeneration]? with
  | none => rfl
  | some entry =>
      have suspended := ((sound.generations _).kept entry stored).1
      exact absurd ⟨_, _, suspended⟩ (sound.next_not_suspended remaining)

theorem undo (sound : SuspensionsSound suspensions history) {started : ProcessSuspensions}
    (remaining : suspensions.nextGeneration ≠ 0) {pid : Nat} {entry : SuspensionEntry}
    (isStarted : started =
      { suspensions with
        entries := suspensions.entries.insertIfNew suspensions.nextGeneration entry
        current := suspensions.current.insertIfNew pid suspensions.nextGeneration
        nextGeneration := (suspensions.nextGeneration + 1) % 2 ^ 64 }) :
    SuspensionsSound
      { started.forgetCurrent pid suspensions.nextGeneration with
        entries := (started.forgetCurrent pid suspensions.nextGeneration).entries.erase
          suspensions.nextGeneration }
      history := by
  have bound := sound.bound
  obtain ⟨current, forgotten, latest⟩ :=
    forgetCurrent_eq started pid suspensions.nextGeneration
  rw [forgotten]
  subst isStarted
  refine sound.forget ?_ ?_ ?_ (Nat.mod_lt _ (by decide)) rfl
  · intro other
    dsimp only
    rw [Std.TreeMap.getElem?_erase, Std.TreeMap.getElem?_insertIfNew]
    by_cases same : suspensions.nextGeneration = other
    · rw [if_pos (by simpa using same), ← same, sound.unused remaining]
    · rw [if_neg (by simpa using same), if_neg (fun both => same (by simpa using both.1))]
  · intro other generation isLatest
    obtain ⟨inserted, another⟩ := latest other generation isLatest
    dsimp only at inserted
    rw [Std.TreeMap.getElem?_insertIfNew] at inserted
    split at inserted
    · rename_i isNew
      cases inserted
      exact absurd ⟨(Std.LawfulEqCmp.compare_eq_iff_eq.mp isNew.1).symm, rfl⟩ another
    · exact inserted
  · dsimp only
    omega

theorem acquireNew (sound : SuspensionsSound suspensions history) (pid : Nat)
    (outcome : SuspendOutcome) (running : suspensions.stopping = false)
    (replaced : suspensions.current[pid]? = none) :
    SuspensionsSound (suspensions.acquireNew pid outcome).2.2
      (history ++ (suspensions.acquireNew pid outcome).2.1) := by
  unfold ProcessSuspensions.acquireNew
  split
  · rw [List.append_nil]
    exact sound
  · rename_i remaining
    cases outcome with
    | threw =>
        rw [List.append_nil]
        exact sound.undo remaining rfl
    | failed error =>
        rw [List.append_nil]
        exact sound.undo remaining rfl
    | suspended handle => exact sound.start pid handle running remaining replaced

theorem acquire (sound : SuspensionsSound suspensions history) (currentProcessId pid : Nat)
    (alive : Bool) (outcome : SuspendOutcome)
    (fits : ∀ generation, history.count (.acquired generation) + 1 <
      2 ^ 64 + history.count (.released generation)) :
    SuspensionsSound (suspensions.acquire currentProcessId pid alive outcome).2.2
      (history ++ (suspensions.acquire currentProcessId pid alive outcome).2.1) := by
  unfold ProcessSuspensions.acquire
  split
  · rw [List.append_nil]
    exact sound
  · split
    · rw [List.append_nil]
      exact sound
    · rename_i notStopping
      have running : suspensions.stopping = false := by
        rwa [Bool.not_eq_true] at notStopping
      split
      · rename_i absent
        exact sound.acquireNew pid outcome running absent
      · rename_i generation isLatest
        obtain ⟨entry, stored, _⟩ := sound.current pid generation isLatest
        rw [stored]
        dsimp only
        split
        · have counted := ((sound.generations generation).kept entry stored).2.2
          have room := fits generation
          exact sound.share stored running (by omega)
        · have erased : SuspensionsSound
              { suspensions with current := suspensions.current.erase pid } history := by
            refine sound.forget (fun _ => rfl) ?_ ?_ sound.bound rfl
            · intro other latest found
              rw [Std.TreeMap.getElem?_erase] at found
              split at found
              · cases found
              · exact found
            · dsimp only
              omega
          refine erased.acquireNew pid outcome running ?_
          rw [Std.TreeMap.getElem?_erase, if_pos (by simp)]

theorem release (sound : SuspensionsSound suspensions history) (generation : Nat) (resumes : Bool)
    (issued : generation = 0 ∨
      history.count (.released generation) < history.count (.acquired generation)) :
    SuspensionsSound (suspensions.release generation resumes).2.2
      (history ++ (suspensions.release generation resumes).2.1) := by
  unfold ProcessSuspensions.release
  split
  · rename_i absent
    exact sound.giveBack issued absent
  · rename_i entry stored
    obtain ⟨suspended, _, counted⟩ := (sound.generations generation).kept entry stored
    have nonzero := (sound.fresh generation ⟨_, _, suspended⟩).1
    have outstanding := issued.resolve_left nonzero
    have lowered := sound.lower stored outstanding
    dsimp only
    split
    · exact lowered
    · rename_i last
      have none : entry.pending - 1 = 0 := by simpa using last
      rw [List.append_cons]
      refine lowered.resume ?_ ?_ resumes
      · dsimp only
        rw [Std.TreeMap.getElem?_insert, if_pos (by simp)]
      · intro _
        refine ⟨List.getLast?_concat, ?_⟩
        simp [AllReleased]
        omega

theorem getElem?_resumeEntry_ne {generation other : Nat} (entry : SuspensionEntry)
    (cause : ResumeCause) (resumes : Bool) (different : generation ≠ other) :
    (suspensions.resumeEntry generation entry cause resumes).2.entries[other]? =
      suspensions.entries[other]? := by
  rw [ProcessSuspensions.resumeEntry]
  split
  · obtain ⟨current, forgotten, _⟩ := forgetCurrent_eq suspensions entry.pid generation
    rw [forgotten]
    dsimp only
    rw [Std.TreeMap.getElem?_erase, if_neg (by simpa using different)]
  · rfl

theorem resumeEntries (resumes : Nat → Bool) {rest : List (Nat × SuspensionEntry)}
    (sound : SuspensionsSound suspensions history)
    (distinct : rest.Pairwise fun first second => first.1 ≠ second.1)
    (stored : ∀ item ∈ rest, suspensions.entries[item.1]? = some item.2) :
    SuspensionsSound (ProcessSuspensions.resumeEntries resumes rest suspensions).2
      (history ++ (ProcessSuspensions.resumeEntries resumes rest suspensions).1) := by
  induction rest generalizing suspensions history with
  | nil =>
      rw [ProcessSuspensions.resumeEntries, List.append_nil]
      exact sound
  | cons item rest ih =>
      obtain ⟨generation, entry⟩ := item
      obtain ⟨others, distinctRest⟩ := List.pairwise_cons.mp distinct
      have found := stored (generation, entry) List.mem_cons_self
      have first := @resume _ _ sound generation entry found .resumeAll (by simp) (resumes generation)
      have later := ih first distinctRest (by
        intro item member
        rw [getElem?_resumeEntry_ne _ _ _ (others item member)]
        exact stored item (List.mem_cons_of_mem _ member))
      rw [ProcessSuspensions.resumeEntries]
      dsimp only
      rw [← List.append_assoc]
      exact later

theorem distinct_toList (suspensions : ProcessSuspensions) :
    suspensions.entries.toList.Pairwise fun first second => first.1 ≠ second.1 := by
  refine suspensions.entries.distinct_keys_toList.imp ?_
  intro first second different same
  exact different (by rw [same]; simp)

theorem resumeAll (sound : SuspensionsSound suspensions history) (resumes : Nat → Bool) :
    SuspensionsSound (suspensions.resumeAll resumes).2.2
      (history ++ (suspensions.resumeAll resumes).2.1) := by
  have stopped : SuspensionsSound { suspensions with stopping := true }
      (history ++ [.stopped]) := by
    refine ⟨sound.proper.append_singleton trivial, ?_, ?_, sound.current, sound.bound, ?_, ?_⟩
    · intro generation
      exact (sound.generations generation).frame (by simp [SuspensionEvent.generation])
    · intro generation
      simpa [Suspended] using sound.fresh generation
    · simp
    · simpa using sound.alive
  rw [ProcessSuspensions.resumeAll]
  dsimp only
  rw [List.append_cons]
  refine stopped.resumeEntries resumes (distinct_toList suspensions) ?_
  intro item member
  exact Std.TreeMap.mem_toList_iff_getElem?_eq_some.mp member

end SuspensionsSound

/-- What the accounting promises, for the maps and the history of a run. -/
structure SuspensionsExact (suspensions : ProcessSuspensions) (history : List SuspensionEvent) :
    Prop where
  proper : Always ProperSuspension history
  kept : ∀ generation, suspensions.entries[generation]?.isSome = true ↔
    Suspended generation history ∧ ¬ Resumed generation history
  entry : ∀ generation (entry : SuspensionEntry),
    suspensions.entries[generation]? = some entry →
      .suspended generation entry.pid entry.handle ∈ history
  closed : ∀ generation, Closed generation history ↔
    Resumed generation history ∨ .destroyed ∈ history ∧ Suspended generation history
  current : ∀ pid generation, suspensions.current[pid]? = some generation →
    ∃ entry : SuspensionEntry, suspensions.entries[generation]? = some entry ∧ entry.pid = pid

namespace SuspensionsSound

variable {suspensions : ProcessSuspensions} {history : List SuspensionEvent}

theorem kept (sound : SuspensionsSound suspensions history) (generation : Nat) :
    suspensions.entries[generation]?.isSome = true ↔
      Suspended generation history ∧ ¬ Resumed generation history := by
  have own := sound.generations generation
  cases stored : suspensions.entries[generation]? with
  | none =>
      refine ⟨fun some => absurd some Bool.false_ne_true, ?_⟩
      rintro ⟨suspended, unresumed⟩
      exact absurd (own.gone stored suspended) unresumed
  | some entry =>
      obtain ⟨suspended, unresumed, _⟩ := own.kept entry stored
      exact ⟨fun _ => ⟨⟨_, _, suspended⟩, unresumed⟩, fun _ => rfl⟩

theorem exact (sound : SuspensionsSound suspensions history) :
    SuspensionsExact suspensions history where
  proper := sound.proper
  kept := sound.kept
  entry := fun generation entry stored => ((sound.generations generation).kept entry stored).1
  closed := by
    intro generation
    rw [(sound.generations generation).closed]
    constructor
    · exact .inl
    · rintro (resumed | ⟨destroyed, _⟩)
      · exact resumed
      · exact absurd destroyed sound.alive
  current := sound.current

theorem closeAll (sound : SuspensionsSound suspensions history) :
    SuspensionsExact suspensions (history ++ .destroyed ::
      suspensions.entries.toList.map fun item => .closed item.1 item.2.handle) := by
  rw [List.append_cons]
  generalize closes : (suspensions.entries.toList.map fun item =>
    SuspensionEvent.closed item.1 item.2.handle) = events
  have ended : Always ProperSuspension (history ++ [.destroyed]) :=
    sound.proper.append_singleton trivial
  have isClose : ∀ event, event ∈ events ↔ ∃ item : Nat × SuspensionEntry,
      suspensions.entries[item.1]? = some item.2 ∧ event = .closed item.1 item.2.handle := by
    intro event
    rw [← closes, List.mem_map]
    refine exists_congr fun item => and_congr Std.TreeMap.mem_toList_iff_getElem?_eq_some eq_comm
  have suspended : ∀ generation, Suspended generation (history ++ [.destroyed] ++ events) ↔
      Suspended generation history := by
    intro generation
    simp [Suspended, isClose]
  have resumed : ∀ generation, Resumed generation (history ++ [.destroyed] ++ events) ↔
      Resumed generation history := by
    intro generation
    simp [Resumed, isClose]
  have closed : ∀ generation, Closed generation (history ++ [.destroyed] ++ events) ↔
      Closed generation history ∨ suspensions.entries[generation]?.isSome = true := by
    intro generation
    simp only [Closed, List.mem_append, List.mem_singleton, isClose, reduceCtorEq, or_false,
      exists_or]
    refine or_congr Iff.rfl ?_
    constructor
    · rintro ⟨handle, item, stored, same⟩
      cases same
      rw [stored]
      rfl
    · intro some
      obtain ⟨entry, stored⟩ := Option.isSome_iff_exists.mp some
      exact ⟨entry.handle, (generation, entry), stored, rfl⟩
  refine ⟨?_, ?_, ?_, ?_, sound.current⟩
  · refine ended.append ?_
    intro before event after split
    rw [← closes] at split
    obtain ⟨earlier, later, items, rfl, rest⟩ := List.map_eq_append_iff.mp split
    obtain ⟨item, others, rfl, rfl, -⟩ := List.map_eq_cons_iff.mp rest
    have stored : suspensions.entries[item.1]? = some item.2 := by
      apply Std.TreeMap.mem_toList_iff_getElem?_eq_some.mp
      rw [items]
      exact List.mem_append_right _ List.mem_cons_self
    obtain ⟨isSuspended, unresumed, _⟩ := (sound.generations item.1).kept item.2 stored
    refine ⟨⟨item.2.pid, ?_⟩, ?_, .inr ?_⟩
    · exact List.mem_append_left _ (List.mem_append_left _ isSuspended)
    · rintro ⟨handle, member⟩
      rcases List.mem_append.mp member with old | new
      · refine unresumed ((sound.generations item.1).closed.mp ⟨handle, ?_⟩)
        simpa using old
      · obtain ⟨other, isOther, same⟩ := List.mem_map.mp new
        have distinct := distinct_toList suspensions
        rw [items] at distinct
        exact (List.pairwise_append.mp distinct).2.2 other isOther item List.mem_cons_self
          (SuspensionEvent.closed.inj same).1
    · simp
  · intro generation
    rw [sound.kept, suspended, resumed]
  · intro generation entry stored
    exact List.mem_append_left _
      (List.mem_append_left _ ((sound.generations generation).kept entry stored).1)
  · intro generation
    have own := sound.generations generation
    rw [closed, resumed, suspended, own.closed, sound.kept]
    have destroyed : .destroyed ∈ history ++ [.destroyed] ++ events := by simp
    constructor
    · rintro (isResumed | ⟨isSuspended, _⟩)
      · exact .inl isResumed
      · exact .inr ⟨destroyed, isSuspended⟩
    · rintro (isResumed | ⟨_, isSuspended⟩)
      · exact .inl isResumed
      · by_cases isResumed : Resumed generation history
        · exact .inl isResumed
        · exact .inr ⟨isSuspended, isResumed⟩

end SuspensionsSound

inductive SuspensionOp where
  | acquire (currentProcessId pid : Nat) (alive : Bool) (outcome : SuspendOutcome)
  | release (generation : Nat) (resumes : Bool)
  | resumeAll (resumes : Nat → Bool)
  | destroy (resumes : Nat → Bool)

structure SuspensionRun where
  suspensions : ProcessSuspensions
  history : List SuspensionEvent

namespace SuspensionRun

def step (run : SuspensionRun) : SuspensionOp → SuspensionRun
  | .acquire currentProcessId pid alive outcome =>
      let (_, events, suspensions) := run.suspensions.acquire currentProcessId pid alive outcome
      ⟨suspensions, run.history ++ events⟩
  | .release generation resumes =>
      let (_, events, suspensions) := run.suspensions.release generation resumes
      ⟨suspensions, run.history ++ events⟩
  | .resumeAll resumes =>
      let (_, events, suspensions) := run.suspensions.resumeAll resumes
      ⟨suspensions, run.history ++ events⟩
  | .destroy resumes =>
      let (events, suspensions) := run.suspensions.destroy resumes
      ⟨suspensions, run.history ++ events⟩

/-- The object is not used after its destruction, and a token is released at most once. The token of
a refused call is zero. -/
def Disciplined (run : SuspensionRun) (op : SuspensionOp) : Prop :=
  .destroyed ∉ run.history ∧
    ∀ generation resumes, op = .release generation resumes → generation = 0 ∨
      run.history.count (.released generation) < run.history.count (.acquired generation)

/-- Fewer than `2 ^ 64` tokens of one generation are outstanding after a further `Acquire`. -/
def CountFits (run : SuspensionRun) (op : SuspensionOp) : Prop :=
  ∀ currentProcessId pid alive outcome, op = .acquire currentProcessId pid alive outcome →
    ∀ generation, run.history.count (.acquired generation) + 1 <
      2 ^ 64 + run.history.count (.released generation)

inductive Reachable (allowed : SuspensionRun → SuspensionOp → Prop) : SuspensionRun → Prop where
  | start : Reachable allowed ⟨.new, []⟩
  | step {run : SuspensionRun} {op : SuspensionOp} (reachable : Reachable allowed run)
      (isAllowed : allowed run op) : Reachable allowed (run.step op)

theorem Reachable.sound {run : SuspensionRun}
    (reachable : Reachable (fun run op => run.Disciplined op ∧ run.CountFits op) run) :
    (.destroyed ∉ run.history → SuspensionsSound run.suspensions run.history) ∧
      SuspensionsExact run.suspensions run.history := by
  induction reachable with
  | start => exact ⟨fun _ => .new, SuspensionsSound.new.exact⟩
  | @step run op _ isAllowed ih =>
      obtain ⟨⟨alive, issued⟩, fits⟩ := isAllowed
      have sound := ih.1 alive
      cases op with
      | acquire currentProcessId pid answer outcome =>
          have next := sound.acquire currentProcessId pid answer outcome
            (fits currentProcessId pid answer outcome rfl)
          exact ⟨fun _ => next, next.exact⟩
      | release generation resumes =>
          have next := sound.release generation resumes (issued generation resumes rfl)
          exact ⟨fun _ => next, next.exact⟩
      | resumeAll resumes =>
          have next := sound.resumeAll resumes
          exact ⟨fun _ => next, next.exact⟩
      | destroy resumes =>
          have exact := (sound.resumeAll resumes).closeAll
          rw [List.append_assoc] at exact
          refine ⟨fun still => absurd ?_ still, exact⟩
          rw [SuspensionRun.step, ProcessSuspensions.destroy]
          simp

end SuspensionRun

/-- Every generation is suspended once and kept until a resume of it succeeds, and every handle is
closed once, in all runs in which the `size_t` of an entry can hold its outstanding tokens. -/
theorem processSuspensions_exact {run : SuspensionRun}
    (reachable : SuspensionRun.Reachable (fun run op => run.Disciplined op ∧ run.CountFits op) run) :
    SuspensionsExact run.suspensions run.history :=
  reachable.sound.2

/-- The tokens of one process, one after another. -/
def sharedRun : Nat → SuspensionRun
  | 0 => ⟨.new, []⟩
  | count + 1 => (sharedRun count).step (.acquire 1 100 true (.suspended 7))

theorem sharedRun_state (count : Nat) :
    (sharedRun (count + 1)).history =
        .suspended 1 100 7 :: List.replicate (count + 1) (.acquired 1) ∧
      (sharedRun (count + 1)).suspensions.stopping = false ∧
      (sharedRun (count + 1)).suspensions.current[100]? = some 1 ∧
      (sharedRun (count + 1)).suspensions.entries[1]? =
        some { pid := 100, handle := 7, pending := (count + 1) % 2 ^ 64 } := by
  induction count with
  | zero =>
      refine ⟨by decide +kernel, by decide +kernel, by decide +kernel, by decide +kernel⟩
  | succ count ih =>
      obtain ⟨history, running, current, stored⟩ := ih
      rw [sharedRun]
      generalize sharedRun (count + 1) = run at *
      have acquired : run.suspensions.acquire 1 100 true (.suspended 7) =
          (.ok 1, [.acquired 1],
            { run.suspensions with
              entries := run.suspensions.entries.insert 1
                { pid := 100, handle := 7, pending := ((count + 1) % 2 ^ 64 + 1) % 2 ^ 64 } }) := by
        rw [ProcessSuspensions.acquire, if_neg (by decide), if_neg (by rw [running]; decide), current]
        dsimp only
        rw [stored]
        dsimp only
        rw [if_pos rfl]
      rw [SuspensionRun.step, acquired]
      dsimp only
      refine ⟨?_, running, current, ?_⟩
      · have grown : List.replicate (count + 1 + 1) (SuspensionEvent.acquired 1) =
            List.replicate (count + 1) (.acquired 1) ++ [.acquired 1] := List.replicate_succ'
        rw [history, grown, List.cons_append]
      · rw [Std.TreeMap.getElem?_insert, if_pos (by simp)]
        congr 2
        omega

theorem sharedRun_history (count : Nat) :
    .destroyed ∉ (sharedRun count).history ∧
      ∀ generation, (sharedRun count).history.count (.acquired generation) ≤ count := by
  cases count with
  | zero => exact ⟨List.not_mem_nil, fun _ => Nat.le_refl 0⟩
  | succ count =>
      rw [(sharedRun_state count).1]
      refine ⟨by simp [List.mem_replicate], ?_⟩
      intro generation
      rw [List.count_cons_of_ne (by simp), List.count_replicate]
      split
      · exact Nat.le_refl _
      · exact Nat.zero_le _

theorem sharedRun_disciplined (count : Nat) :
    (sharedRun count).Disciplined (.acquire 1 100 true (.suspended 7)) := by
  refine ⟨(sharedRun_history count).1, ?_⟩
  intro generation resumes isRelease
  cases isRelease

theorem sharedRun_reachable (count : Nat) :
    SuspensionRun.Reachable SuspensionRun.Disciplined (sharedRun count) := by
  induction count with
  | zero => exact .start
  | succ count ih => exact ih.step (sharedRun_disciplined count)

/-- Two connections of a process share its suspension. -/
theorem processSuspensions_exact_twoTokens :
    SuspensionsExact (sharedRun 2).suspensions (sharedRun 2).history := by
  have fits : ∀ count < 2, (sharedRun count).CountFits (.acquire 1 100 true (.suspended 7)) := by
    intro count few _ _ _ _ _ generation
    have acquired := (sharedRun_history count).2 generation
    omega
  exact processSuspensions_exact
    (.step (.step .start ⟨sharedRun_disciplined 0, fits 0 (by decide)⟩)
      ⟨sharedRun_disciplined 1, fits 1 (by decide)⟩)

theorem sharedRun_release_early {count : Nat} (several : 0 < count)
    (wraps : (count + 1) % 2 ^ 64 = 0) :
    (sharedRun (count + 1)).Disciplined (.release 1 true) ∧
      ¬ Always ProperSuspension ((sharedRun (count + 1)).step (.release 1 true)).history := by
  obtain ⟨history, _, _, stored⟩ := sharedRun_state count
  have notDestroyed := (sharedRun_history (count + 1)).1
  rw [wraps] at stored
  generalize sharedRun (count + 1) = run at *
  have released : run.history.count (.released 1) = 0 := by
    rw [history]
    simp [List.count_replicate]
  have acquired : run.history.count (.acquired 1) = count + 1 := by
    rw [history, List.count_cons_of_ne (by simp), List.count_replicate_self]
  constructor
  · refine ⟨notDestroyed, ?_⟩
    intro generation resumes isRelease
    cases isRelease
    omega
  · intro proper
    rw [SuspensionRun.step, ProcessSuspensions.release, stored] at proper
    dsimp only at proper
    rw [if_neg (by decide), ProcessSuspensions.resumeEntry, if_pos rfl] at proper
    obtain ⟨-, -, early⟩ := proper (run.history ++ [.released 1]) (.resumed 1 7 .release true)
      [.closed 1 7] (by simp)
    have all := (early rfl).2
    simp only [AllReleased, List.count_append, released, acquired] at all
    simp at all
    omega

/-- With `2 ^ 64` tokens the counter is zero again, and the release of one of them resumes the
process. -/
theorem sharedRun_resumed_early :
    ¬ ∀ run, SuspensionRun.Reachable SuspensionRun.Disciplined run →
      SuspensionsExact run.suspensions run.history := by
  intro claim
  obtain ⟨allowed, early⟩ := @sharedRun_release_early (2 ^ 64 - 1) (by decide) (by decide)
  exact early (claim _ ((sharedRun_reachable _).step allowed)).proper

end WindowsKext
