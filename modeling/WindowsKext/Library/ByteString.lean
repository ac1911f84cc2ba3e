import Std

/-! Byte strings with big-endian words, sub-slices and in-place writes of fixed length. Every
operation is described by the bytes it leaves at each position. -/

namespace ByteString

abbrev Bytes := List UInt8

def byteAt (bytes : Bytes) (index : Nat) : UInt8 := bytes.getD index 0

/-- The big-endian 16-bit word at an offset. -/
def wordAt (bytes : Bytes) (index : Nat) : Nat :=
  (byteAt bytes index).toNat * 256 + (byteAt bytes (index + 1)).toNat

def wordBytes (word : Nat) : Bytes := [UInt8.ofNat (word / 256), UInt8.ofNat (word % 256)]

def slice (bytes : Bytes) (start stop : Nat) : Bytes := (bytes.take stop).drop start

/-- Overwrites the bytes at an offset. A write that does not fit changes nothing. -/
def writeAt (bytes : Bytes) (offset : Nat) (new : Bytes) : Bytes :=
  if offset + new.length ≤ bytes.length then
    bytes.take offset ++ new ++ bytes.drop (offset + new.length)
  else bytes

/-- Runs an update of fixed length on a sub-slice. -/
def modifySlice (bytes : Bytes) (start stop : Nat) (update : Bytes → Bytes) : Bytes :=
  writeAt bytes start (update (slice bytes start stop))

theorem ext_byteAt {left right : Bytes} (length : left.length = right.length)
    (same : ∀ index < left.length, byteAt left index = byteAt right index) : left = right := by
  apply List.ext_getElem length
  intro index leftBound rightBound
  have equal := same index leftBound
  simpa [byteAt, leftBound, rightBound] using equal

@[simp] theorem length_slice (bytes : Bytes) (start stop : Nat) :
    (slice bytes start stop).length = min stop bytes.length - start := by
  simp [slice]

theorem byteAt_slice (bytes : Bytes) (start stop index : Nat) :
    byteAt (slice bytes start stop) index =
      if start + index < stop then byteAt bytes (start + index) else 0 := by
  simp only [byteAt, slice, List.getD_eq_getElem?_getD, List.getElem?_drop, List.getElem?_take]
  split <;> rfl

theorem drop_slice (bytes : Bytes) (start stop count : Nat) :
    (slice bytes start stop).drop count = slice bytes (start + count) stop := by
  rw [slice, slice, List.drop_drop]

theorem byteAt_take (bytes : Bytes) (count index : Nat) :
    byteAt (bytes.take count) index = if index < count then byteAt bytes index else 0 := by
  simp only [byteAt, List.getD_eq_getElem?_getD, List.getElem?_take]
  split <;> rfl

theorem byteAt_drop (bytes : Bytes) (count index : Nat) :
    byteAt (bytes.drop count) index = byteAt bytes (count + index) := by
  simp [byteAt, List.getD_eq_getElem?_getD]

@[simp] theorem length_writeAt (bytes : Bytes) (offset : Nat) (new : Bytes) :
    (writeAt bytes offset new).length = bytes.length := by
  unfold writeAt
  split
  · simp only [List.length_append, List.length_take, List.length_drop]
    omega
  · rfl

theorem byteAt_writeAt {bytes new : Bytes} {offset : Nat}
    (fits : offset + new.length ≤ bytes.length) (index : Nat) :
    byteAt (writeAt bytes offset new) index =
      if offset ≤ index ∧ index < offset + new.length then byteAt new (index - offset)
      else byteAt bytes index := by
  simp only [writeAt, fits, ↓reduceIte, byteAt, List.getD_eq_getElem?_getD]
  by_cases before : index < offset
  · rw [List.append_assoc, List.getElem?_append_left (by simp; omega), List.getElem?_take,
      if_pos before, if_neg (by omega)]
  · by_cases inside : index < offset + new.length
    · rw [List.append_assoc, List.getElem?_append_right (by simp; omega),
        List.getElem?_append_left (by simp; omega), if_pos (by omega), List.length_take,
        Nat.min_eq_left (by omega)]
    · rw [List.getElem?_append_right (by simp; omega), if_neg (by omega), List.getElem?_drop]
      congr 2
      simp only [List.length_append, List.length_take]
      omega

/-- Bytes outside a write keep their value, also when the write does not fit. -/
theorem byteAt_writeAt_of_outside {bytes new : Bytes} {offset index : Nat}
    (outside : index < offset ∨ offset + new.length ≤ index) :
    byteAt (writeAt bytes offset new) index = byteAt bytes index := by
  by_cases fits : offset + new.length ≤ bytes.length
  · rw [byteAt_writeAt fits, if_neg (by omega)]
  · rw [writeAt, if_neg fits]

theorem wordAt_writeAt_of_outside {bytes new : Bytes} {offset index : Nat}
    (outside : index + 2 ≤ offset ∨ offset + new.length ≤ index) :
    wordAt (writeAt bytes offset new) index = wordAt bytes index := by
  rw [wordAt, wordAt, byteAt_writeAt_of_outside (by omega), byteAt_writeAt_of_outside (by omega)]

@[simp] theorem length_wordBytes (word : Nat) : (wordBytes word).length = 2 := rfl

theorem wordAt_lt (bytes : Bytes) (index : Nat) : wordAt bytes index < 65536 := by
  have high := (byteAt bytes index).toNat_lt
  have low := (byteAt bytes (index + 1)).toNat_lt
  unfold wordAt
  omega

theorem byteAt_eq_of_wordAt_eq {left right : Bytes} {index : Nat}
    (same : wordAt left index = wordAt right index) :
    byteAt left index = byteAt right index ∧ byteAt left (index + 1) = byteAt right (index + 1) := by
  have leftLow := (byteAt left (index + 1)).toNat_lt
  have rightLow := (byteAt right (index + 1)).toNat_lt
  unfold wordAt at same
  constructor
  · exact UInt8.toNat_inj.mp (by omega)
  · exact UInt8.toNat_inj.mp (by omega)

theorem wordBytes_value {word : Nat} (bound : word < 65536) :
    (UInt8.ofNat (word / 256)).toNat * 256 + (UInt8.ofNat (word % 256)).toNat = word := by
  simp only [UInt8.toNat_ofNat']
  omega

theorem wordAt_writeAt_self {bytes : Bytes} {offset word : Nat}
    (fits : offset + 2 ≤ bytes.length) (bound : word < 65536) :
    wordAt (writeAt bytes offset (wordBytes word)) offset = word := by
  rw [wordAt, byteAt_writeAt (by simpa using fits), byteAt_writeAt (by simpa using fits),
    if_pos (by simp), if_pos (by simp), Nat.sub_self, Nat.add_sub_cancel_left]
  exact wordBytes_value bound

theorem writeAt_writeAt_self {bytes first second : Bytes} {offset : Nat}
    (same : first.length = second.length) :
    writeAt (writeAt bytes offset first) offset second = writeAt bytes offset second := by
  by_cases fits : offset + second.length ≤ bytes.length
  · apply ext_byteAt (by simp)
    intro index _
    rw [byteAt_writeAt (by simpa using fits), byteAt_writeAt fits]
    split
    · rfl
    · exact byteAt_writeAt_of_outside (by omega)
  · rw [writeAt, if_neg (by simpa using fits), writeAt, if_neg (by omega), writeAt, if_neg fits]

theorem writeAt_eq_self {bytes new : Bytes} {offset : Nat}
    (same : ∀ index < new.length, byteAt new index = byteAt bytes (offset + index)) :
    writeAt bytes offset new = bytes := by
  by_cases fits : offset + new.length ≤ bytes.length
  · apply ext_byteAt (by simp)
    intro index _
    rw [byteAt_writeAt fits]
    split
    · rename_i inside
      rw [same _ (by omega)]
      congr 1
      omega
    · rfl
  · rw [writeAt, if_neg fits]

section Slices

variable {bytes : Bytes} {start stop : Nat}

@[simp] theorem length_modifySlice (update : Bytes → Bytes) :
    (modifySlice bytes start stop update).length = bytes.length := by
  simp [modifySlice]

theorem slice_writeAt {new : Bytes} {offset : Nat} (ordered : start ≤ stop)
    (inside : stop ≤ bytes.length) (fits : start + offset + new.length ≤ stop) :
    slice (writeAt bytes (start + offset) new) start stop =
      writeAt (slice bytes start stop) offset new := by
  have partLength : (slice bytes start stop).length = stop - start := by
    rw [length_slice]
    omega
  apply ext_byteAt (by simp)
  intro index bound
  rw [length_slice, length_writeAt] at bound
  rw [byteAt_slice, if_pos (by omega), byteAt_writeAt (by omega), byteAt_writeAt (by omega)]
  split
  · rw [if_pos (by omega)]
    congr 1
    omega
  · rw [if_neg (by omega), byteAt_slice, if_pos (by omega)]

theorem take_writeAt {new : Bytes} {offset count : Nat} (inside : count ≤ bytes.length)
    (fits : offset + new.length ≤ count) :
    (writeAt bytes offset new).take count = writeAt (bytes.take count) offset new := by
  have part := slice_writeAt (Nat.zero_le count) inside (by simpa using fits)
  simpa [slice] using part

theorem slice_modifySlice {update : Bytes → Bytes} (inside : stop ≤ bytes.length)
    (length : (update (slice bytes start stop)).length = (slice bytes start stop).length) :
    slice (modifySlice bytes start stop update) start stop = update (slice bytes start stop) := by
  rw [length_slice] at length
  apply ext_byteAt
  · rw [length_slice, length_modifySlice, length]
  · intro index bound
    rw [length_slice, length_modifySlice] at bound
    rw [byteAt_slice, if_pos (by omega), modifySlice, byteAt_writeAt (by omega), if_pos (by omega),
      Nat.add_sub_cancel_left]

theorem byteAt_modifySlice_of_outside {update : Bytes → Bytes} {index : Nat}
    (length : (update (slice bytes start stop)).length = (slice bytes start stop).length)
    (outside : index < start ∨ stop ≤ index) :
    byteAt (modifySlice bytes start stop update) index = byteAt bytes index := by
  rw [length_slice] at length
  exact byteAt_writeAt_of_outside (by omega)

theorem byteAt_modifySlice_of_inside {update : Bytes → Bytes} {index : Nat}
    (inside : stop ≤ bytes.length)
    (length : (update (slice bytes start stop)).length = (slice bytes start stop).length)
    (bound : start + index < stop) :
    byteAt (modifySlice bytes start stop update) (start + index) =
      byteAt (update (slice bytes start stop)) index := by
  rw [length_slice] at length
  rw [modifySlice, byteAt_writeAt (by omega), if_pos (by omega), Nat.add_sub_cancel_left]

theorem slice_writeAt_of_outside {new : Bytes} {offset : Nat}
    (outside : offset + new.length ≤ start ∨ stop ≤ offset) :
    slice (writeAt bytes offset new) start stop = slice bytes start stop := by
  apply ext_byteAt (by simp)
  intro index bound
  rw [byteAt_slice, byteAt_slice]
  split
  · exact byteAt_writeAt_of_outside (by omega)
  · rfl

end Slices

/-- The two strings have one length and agree outside a set of positions. -/
structure ChangesOnly (allowed : Nat → Prop) (before after : Bytes) : Prop where
  length : after.length = before.length
  same : ∀ index, ¬ allowed index → byteAt after index = byteAt before index

theorem ChangesOnly.refl (allowed : Nat → Prop) (bytes : Bytes) :
    ChangesOnly allowed bytes bytes :=
  ⟨rfl, fun _ _ => rfl⟩

theorem ChangesOnly.trans {allowed : Nat → Prop} {first second third : Bytes}
    (earlier : ChangesOnly allowed first second) (later : ChangesOnly allowed second third) :
    ChangesOnly allowed first third :=
  ⟨later.length.trans earlier.length,
    fun index outside => (later.same index outside).trans (earlier.same index outside)⟩

theorem ChangesOnly.mono {allowed wider : Nat → Prop} {before after : Bytes}
    (changes : ChangesOnly allowed before after) (imp : ∀ index, allowed index → wider index) :
    ChangesOnly wider before after :=
  ⟨changes.length, fun index outside => changes.same index fun inside => outside (imp index inside)⟩

theorem changesOnly_writeAt {allowed : Nat → Prop} (bytes new : Bytes) (offset : Nat)
    (inside : ∀ index, offset ≤ index → index < offset + new.length → allowed index) :
    ChangesOnly allowed bytes (writeAt bytes offset new) := by
  refine ⟨length_writeAt bytes offset new, ?_⟩
  intro index outside
  refine byteAt_writeAt_of_outside ?_
  by_cases before : index < offset
  · exact .inl before
  · by_cases past : index < offset + new.length
    · exact absurd (inside index (by omega) past) outside
    · exact .inr (by omega)

theorem changesOnly_modifySlice {allowed : Nat → Prop} {bytes : Bytes} {start stop : Nat}
    {update : Bytes → Bytes} (inside : stop ≤ bytes.length)
    (changes : ChangesOnly (fun index => allowed (start + index)) (slice bytes start stop)
      (update (slice bytes start stop))) :
    ChangesOnly allowed bytes (modifySlice bytes start stop update) := by
  refine ⟨length_modifySlice update, ?_⟩
  intro index outside
  by_cases range : start ≤ index ∧ index < stop
  · obtain ⟨offset, rfl⟩ := Nat.exists_eq_add_of_le range.1
    rw [byteAt_modifySlice_of_inside inside changes.length range.2, changes.same offset outside,
      byteAt_slice, if_pos range.2]
  · exact byteAt_modifySlice_of_outside changes.length (by omega)

end ByteString
