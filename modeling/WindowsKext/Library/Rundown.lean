import WindowsKext.Library.Interleaving

/-! Rundown protection. A reference can be acquired until a wait for the release of all references
has begun, and again after the next initialization. -/

namespace Rundown

/-- `epoch` counts the initializations. A reference belongs to the epoch in which it was
acquired. -/
structure Ref where
  epoch : Nat
  closing : Bool
  references : Nat
deriving DecidableEq

namespace Ref

def empty : Ref where
  epoch := 0
  closing := false
  references := 0

/-- Answers the epoch of the new reference. -/
def acquire (ref : Ref) : Option Nat × Ref :=
  if ref.closing then (none, ref)
  else (some ref.epoch, { ref with references := ref.references + 1 })

def release (ref : Ref) : Ref := { ref with references := ref.references - 1 }

def beginWait (ref : Ref) : Ref := { ref with closing := true }

def restart (ref : Ref) : Ref where
  epoch := ref.epoch + 1
  closing := false
  references := 0

end Ref

variable {Thread : Type} {holds : Thread → Option Nat} {ref : Ref} {threads : List Thread}
  {thread : Nat} {old new : Thread}

/-- The references are those that the threads hold, all of the current epoch. -/
structure Tracks (ref : Ref) (holds : Thread → Option Nat) (threads : List Thread) : Prop where
  counted : ref.references = threads.countP fun thread => (holds thread).isSome
  current : ∀ thread ∈ threads, ∀ epoch, holds thread = some epoch → epoch = ref.epoch

theorem Tracks.not_held (tracks : Tracks ref holds threads) (released : ref.references = 0)
    {thread : Thread} (member : thread ∈ threads) : holds thread = none := by
  have none := List.countP_eq_zero.mp (tracks.counted ▸ released) thread member
  simpa using none

theorem Tracks.append (tracks : Tracks ref holds threads) (idle : holds new = none) :
    Tracks ref holds (threads ++ [new]) where
  counted := by simp [tracks.counted, idle]
  current thread member epoch held := by
    rcases List.mem_append.mp member with earlier | last
    · exact tracks.current thread earlier epoch held
    · rw [List.mem_singleton.mp last, idle] at held
      cases held

theorem Tracks.current_set (tracks : Tracks ref holds threads)
    (fresh : ∀ epoch, holds new = some epoch → epoch = ref.epoch) :
    ∀ other ∈ threads.set thread new, ∀ epoch, holds other = some epoch →
      epoch = ref.epoch := by
  intro other member epoch held
  rcases List.mem_or_eq_of_mem_set member with earlier | same
  · exact tracks.current other earlier epoch held
  · subst same
    exact fresh epoch held

theorem Tracks.keep (tracks : Tracks ref holds threads) (found : threads[thread]? = some old)
    (same : holds new = holds old) : Tracks ref holds (threads.set thread new) where
  counted := by
    have change := Interleaving.countP_set_add found new fun thread => (holds thread).isSome
    rw [same] at change
    rw [tracks.counted]
    omega
  current := tracks.current_set fun epoch held =>
    tracks.current old (List.mem_of_getElem? found) epoch (same ▸ held)

theorem Tracks.acquire (tracks : Tracks ref holds threads) (found : threads[thread]? = some old)
    (idle : holds old = none) (holding : holds new = some ref.epoch) :
    Tracks { ref with references := ref.references + 1 } holds (threads.set thread new) where
  counted := by
    have change := Interleaving.countP_set_add found new fun thread => (holds thread).isSome
    simp only [idle, holding, Option.isSome_none, Option.isSome_some, Bool.toNat_false,
      Bool.toNat_true] at change
    have before := tracks.counted
    simp only
    omega
  current := tracks.current_set fun epoch held => by
    rw [holding] at held
    exact (Option.some.inj held).symm

theorem Tracks.release (tracks : Tracks ref holds threads) (found : threads[thread]? = some old)
    {epoch : Nat} (holding : holds old = some epoch) (idle : holds new = none) :
    Tracks ref.release holds (threads.set thread new) where
  counted := by
    have change := Interleaving.countP_set_add found new fun thread => (holds thread).isSome
    simp only [idle, holding, Option.isSome_none, Option.isSome_some, Bool.toNat_false,
      Bool.toNat_true] at change
    have before := tracks.counted
    simp only [Ref.release]
    omega
  current := tracks.current_set fun epoch held => by
    rw [idle] at held
    cases held

theorem Tracks.beginWait (tracks : Tracks ref holds threads) :
    Tracks ref.beginWait holds threads where
  counted := tracks.counted
  current := tracks.current

theorem Tracks.restart (tracks : Tracks ref holds threads) (released : ref.references = 0) :
    Tracks ref.restart holds threads where
  counted := by rw [← tracks.counted, released, Ref.restart]
  current thread member epoch held := by
    rw [tracks.not_held released member] at held
    cases held

end Rundown
