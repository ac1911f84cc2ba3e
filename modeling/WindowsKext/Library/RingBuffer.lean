import Std

/-! A ring of slots that holds a list, oldest element first. Slots without an element are empty. -/

namespace RingBuffer

/-- How far a slot is behind the first one. -/
def distance (size start index : Nat) : Nat :=
  if start ≤ index then index - start else index + size - start

/-- The slots hold the elements from `start` on, and nothing else. -/
structure Holds {α : Type} {size : Nat} (slots : Vector (Option α) size) (start : Nat)
    (contents : List α) : Prop where
  inside : start < size
  fits : contents.length ≤ size
  slot : ∀ index (bound : index < size), slots[index] = contents[distance size start index]?

theorem position_eq {size start offset : Nat} (inside : start < size) (within : offset ≤ size) :
    (start + offset) % size =
      if start + offset < size then start + offset else start + offset - size := by
  split
  · rename_i before
    exact Nat.mod_eq_of_lt before
  · rename_i wraps
    rw [Nat.mod_eq_sub_mod (Nat.le_of_not_lt wraps), Nat.mod_eq_of_lt (by omega)]

theorem distance_eq_iff {size start index offset : Nat} (inside : start < size)
    (bound : index < size) (within : offset < size) :
    distance size start index = offset ↔ index = (start + offset) % size := by
  rw [position_eq inside (Nat.le_of_lt within)]
  unfold distance
  split <;> split <;> omega

section Slots

variable {α : Type} {size start : Nat} {slots : Vector (Option α) size} {contents : List α}

theorem Holds.empty (inside : start < size) :
    Holds (Vector.replicate size (none : Option α)) start [] := by
  refine ⟨inside, Nat.zero_le _, ?_⟩
  intro index bound
  rw [Vector.getElem_replicate, List.getElem?_nil]

theorem Holds.restart (holds : Holds slots start []) {other : Nat} (inside : other < size) :
    Holds slots other [] := by
  refine ⟨inside, Nat.zero_le _, ?_⟩
  intro index bound
  rw [holds.slot index bound, List.getElem?_nil, List.getElem?_nil]

/-- The slots in use are those from `start` on. -/
theorem Holds.isSome_iff (holds : Holds slots start contents) {index : Nat} (bound : index < size) :
    slots[index].isSome = true ↔
      ∃ offset, offset < contents.length ∧ index = (start + offset) % size := by
  have fits := holds.fits
  rw [holds.slot index bound, Option.isSome_iff_ne_none, ne_eq, List.getElem?_eq_none_iff,
    Nat.not_le]
  constructor
  · intro used
    exact ⟨_, used, (distance_eq_iff holds.inside bound (by omega)).mp rfl⟩
  · rintro ⟨offset, used, place⟩
    rw [(distance_eq_iff holds.inside bound (by omega)).mpr place]
    exact used

theorem Holds.mem (holds : Holds slots start contents) {index : Nat} (bound : index < size)
    {value : α} (stored : slots[index] = some value) : value ∈ contents := by
  rw [holds.slot index bound] at stored
  exact List.mem_of_getElem? stored

theorem Holds.push (holds : Holds slots start contents) (room : contents.length < size) (value : α)
    (bound : (start + contents.length) % size < size) :
    Holds (slots.set ((start + contents.length) % size) (some value) bound) start
      (contents ++ [value]) := by
  refine ⟨holds.inside, ?_, ?_⟩
  · rw [List.length_append, List.length_singleton]
    omega
  · intro index inside
    have place := distance_eq_iff holds.inside inside room
    rw [Vector.getElem_set, List.getElem?_append]
    by_cases here : (start + contents.length) % size = index
    · rw [if_pos here, place.mpr here.symm, if_neg (Nat.lt_irrefl _), Nat.sub_self]
      rfl
    · rw [if_neg here, holds.slot index inside]
      split
      · rfl
      · rename_i behind
        have beyond : contents.length < distance size start index := by
          have different : distance size start index ≠ contents.length :=
            fun same => here (place.mp same).symm
          omega
        rw [List.getElem?_eq_none (by omega), List.getElem?_eq_none]
        rw [List.length_singleton]
        omega

theorem Holds.first {oldest : α} (holds : Holds slots start (oldest :: contents))
    (inside : start < size) : slots[start] = some oldest := by
  have none : distance size start start = 0 := by
    unfold distance
    split <;> omega
  rw [holds.slot start inside, none]
  rfl

theorem Holds.remove {oldest : α} (holds : Holds slots start (oldest :: contents))
    (inside : start < size) :
    Holds (slots.set start none inside) ((start + 1) % size) contents := by
  have fits := holds.fits
  rw [List.length_cons] at fits
  have next := position_eq inside (show 1 ≤ size by omega)
  refine ⟨Nat.mod_lt _ (by omega), by omega, ?_⟩
  intro index bound
  rw [Vector.getElem_set]
  by_cases here : start = index
  · -- The slot before the first one is the farthest behind it.
    have last : distance size ((start + 1) % size) index = size - 1 := by
      rw [next]
      unfold distance
      split <;> split <;> omega
    rw [if_pos here, last, List.getElem?_eq_none (by omega)]
  · have later : distance size start index = distance size ((start + 1) % size) index + 1 := by
      rw [next]
      unfold distance
      split <;> split <;> split <;> omega
    rw [if_neg here, holds.slot index bound, later, List.getElem?_cons_succ]

/-- In a full ring the newest element takes the slot of the oldest one. -/
theorem Holds.overwrite {oldest : α} (holds : Holds slots start (oldest :: contents))
    (full : contents.length + 1 = size) (inside : start < size) (value : α) :
    Holds (slots.set start (some value) inside) ((start + 1) % size) (contents ++ [value]) := by
  have removed := holds.remove inside
  have same : ((start + 1) % size + contents.length) % size = start := by
    rw [position_eq removed.inside removed.fits, position_eq inside (by omega)]
    split <;> split <;> omega
  have pushed := removed.push (by omega) value (by rw [same]; exact inside)
  simpa only [same, Vector.set_set] using pushed

end Slots

end RingBuffer
