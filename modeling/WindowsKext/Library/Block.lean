import WindowsKext.Library.ByteString

/-! Arrays of a fixed number of bytes, read and overwritten at an offset. -/

open ByteString

structure Block (capacity : Nat) where
  bytes : Bytes
  length_bytes : bytes.length = capacity

namespace Block

variable {capacity : Nat}

def load (block : Block capacity) (start stop : Nat) : Bytes := slice block.bytes start stop

def store (block : Block capacity) (offset : Nat) (new : Bytes) : Block capacity where
  bytes := writeAt block.bytes offset new
  length_bytes := by rw [length_writeAt, block.length_bytes]

def zeros (capacity : Nat) : Block capacity where
  bytes := List.replicate capacity 0
  length_bytes := List.length_replicate

theorem length_load {block : Block capacity} {start stop : Nat} (inside : stop ≤ capacity) :
    (block.load start stop).length = stop - start := by
  rw [load, length_slice, block.length_bytes, Nat.min_eq_left inside]

theorem load_self (block : Block capacity) (start : Nat) : block.load start start = [] := by
  apply List.eq_nil_of_length_eq_zero
  rw [load, length_slice]
  omega

theorem load_whole (block : Block capacity) : block.load 0 capacity = block.bytes := by
  rw [load, slice, List.drop_zero, List.take_of_length_le (Nat.le_of_eq block.length_bytes)]

theorem load_append {block : Block capacity} {start middle stop : Nat} (first : start ≤ middle)
    (second : middle ≤ stop) :
    block.load start middle ++ block.load middle stop = block.load start stop := by
  have nested : (block.bytes.take stop).take middle = block.bytes.take middle := by
    rw [List.take_take, Nat.min_eq_left second]
  have split := List.take_append_drop (middle - start) ((block.bytes.take stop).drop start)
  rw [List.drop_drop, Nat.add_sub_cancel' first, ← List.drop_take, nested] at split
  exact split

theorem slice_load {block : Block capacity} {start stop first last : Nat}
    (inside : start + last ≤ stop) :
    slice (block.load start stop) first last = block.load (start + first) (start + last) := by
  have nested : (block.bytes.take stop).take (start + last) = block.bytes.take (start + last) := by
    rw [List.take_take, Nat.min_eq_left inside]
  rw [load, load, slice, slice, slice, List.take_drop, nested, List.drop_drop]

theorem load_store_self {block : Block capacity} {offset : Nat} {new : Bytes}
    (fits : offset + new.length ≤ capacity) :
    (block.store offset new).load offset (offset + new.length) = new := by
  have inside : offset + new.length ≤ block.bytes.length := by rwa [block.length_bytes]
  apply @slice_modifySlice block.bytes offset (offset + new.length) (fun _ => new) inside
  rw [length_slice]
  omega

theorem load_store_of_outside {block : Block capacity} {offset start stop : Nat} {new : Bytes}
    (outside : offset + new.length ≤ start ∨ stop ≤ offset) :
    (block.store offset new).load start stop = block.load start stop :=
  slice_writeAt_of_outside outside

theorem load_store_behind {block : Block capacity} {start offset : Nat} {new : Bytes}
    (ordered : start ≤ offset) (fits : offset + new.length ≤ capacity) :
    (block.store offset new).load start (offset + new.length) = block.load start offset ++ new := by
  rw [← load_append ordered (Nat.le_add_right offset new.length), load_store_self fits,
    load_store_of_outside (Or.inr (Nat.le_refl offset))]

end Block
