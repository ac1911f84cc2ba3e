import WindowsKext.Library.ByteString

/-! The Internet checksum: the one's complement of the one's complement sum of 16-bit words.
A field that holds the checksum of the rest makes the whole sum all ones. -/

namespace InternetChecksum

open ByteString

/-- Sum of the big-endian words. A last single byte is padded with zero. -/
def sumWords : Bytes → Nat
  | [] => 0
  | [byte] => byte.toNat * 256
  | high :: low :: rest => high.toNat * 256 + low.toNat + sumWords rest

/-- The 16-bit value of a sum with end-around carry. Only the empty sum is zero. -/
def onesSum (sum : Nat) : Nat := if sum = 0 then 0 else (sum - 1) % 65535 + 1

/-- The value of a checksum field that was zero in `sum`. -/
def complement (sum : Nat) : Nat := 65535 - onesSum sum

/-- All-ones stands for a computed zero where zero means that no checksum is present. -/
def complementOrOnes (sum : Nat) : Nat :=
  if complement sum = 0 then 65535 else complement sum

theorem complement_lt (sum : Nat) : complement sum < 65536 := by
  unfold complement
  omega

theorem complementOrOnes_lt (sum : Nat) : complementOrOnes sum < 65536 := by
  unfold complementOrOnes
  have bound := complement_lt sum
  split <;> omega

theorem onesSum_add_complement (sum : Nat) : onesSum (sum + complement sum) = 65535 := by
  unfold complement onesSum
  split <;> split <;> omega

theorem onesSum_add_complementOrOnes (sum : Nat) :
    onesSum (sum + complementOrOnes sum) = 65535 := by
  unfold complementOrOnes
  split
  · rename_i zero
    unfold complement onesSum at zero
    unfold onesSum
    split at zero <;> split <;> omega
  · exact onesSum_add_complement sum

theorem sumWords_append {left : Bytes} (right : Bytes) (even : left.length % 2 = 0) :
    sumWords (left ++ right) = sumWords left + sumWords right := by
  fun_induction sumWords left with
  | case1 => simp
  | case2 byte => simp at even
  | case3 high low rest ih =>
      simp only [List.length_cons] at even
      have restSum := ih (by omega)
      simp only [List.cons_append, sumWords, restSum]
      omega

theorem sumWords_wordBytes {word : Nat} (bound : word < 65536) :
    sumWords (wordBytes word) = word := by
  rw [wordBytes, sumWords, wordBytes_value bound, sumWords, Nat.add_zero]

theorem sumWords_writeAt {bytes : Bytes} {offset word : Nat} (even : offset % 2 = 0)
    (fits : offset + 2 ≤ bytes.length) (bound : word < 65536) :
    sumWords (writeAt bytes offset (wordBytes word)) =
      sumWords (writeAt bytes offset (wordBytes 0)) + word := by
  have form (value : Nat) (small : value < 65536) :
      sumWords (writeAt bytes offset (wordBytes value)) =
        sumWords (bytes.take offset) + value + sumWords (bytes.drop (offset + 2)) := by
    have takeEven : (bytes.take offset).length % 2 = 0 := by
      rw [List.length_take, Nat.min_eq_left (by omega)]
      exact even
    rw [writeAt, if_pos (by simpa using fits), List.append_assoc, sumWords_append _ takeEven,
      sumWords_append _ (by simp), sumWords_wordBytes small, length_wordBytes]
    omega
  rw [form word bound, form 0 (by omega)]
  omega

/-- The checksum word at `offset` recomputed over the first `count` bytes and an extra sum. -/
def fillAt (bytes : Bytes) (count offset extra : Nat) (value : Nat → Nat) : Bytes :=
  writeAt bytes offset (wordBytes (value
    (extra + sumWords ((writeAt bytes offset (wordBytes 0)).take count))))

@[simp] theorem length_fillAt (bytes : Bytes) (count offset extra : Nat) (value : Nat → Nat) :
    (fillAt bytes count offset extra value).length = bytes.length := by
  simp [fillAt]

/-- A filled field verifies for both ways of writing a zero checksum. -/
theorem fillAt_verifies {bytes : Bytes} {count offset : Nat} (extra : Nat) {value : Nat → Nat}
    (even : offset % 2 = 0) (fits : offset + 2 ≤ count) (inside : count ≤ bytes.length)
    (bound : ∀ sum, value sum < 65536) (verifies : ∀ sum, onesSum (sum + value sum) = 65535) :
    onesSum (extra + sumWords ((fillAt bytes count offset extra value).take count)) = 65535 := by
  have partFits : offset + 2 ≤ (bytes.take count).length := by
    rw [List.length_take]
    omega
  rw [fillAt, take_writeAt inside (by simpa using fits), take_writeAt inside (by simpa using fits),
    sumWords_writeAt even partFits (bound _), ← Nat.add_assoc]
  exact verifies _

theorem fillAt_writeAt (bytes : Bytes) (count offset extra word : Nat) (value : Nat → Nat) :
    fillAt (writeAt bytes offset (wordBytes word)) count offset extra value =
      fillAt bytes count offset extra value := by
  have overwrite (second : Nat) :
      writeAt (writeAt bytes offset (wordBytes word)) offset (wordBytes second) =
        writeAt bytes offset (wordBytes second) := writeAt_writeAt_self rfl
  simp only [fillAt, overwrite]

theorem fillAt_fillAt (bytes : Bytes) (count offset extra : Nat) (value : Nat → Nat) :
    fillAt (fillAt bytes count offset extra value) count offset extra value =
      fillAt bytes count offset extra value :=
  fillAt_writeAt bytes count offset extra _ value

end InternetChecksum
