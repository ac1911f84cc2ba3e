import Std

/-! Codes whose words can be split off the front of a text. Every text has one longest prefix that
is a concatenation of words. -/

namespace PrefixCode

/-- A code with the function that splits the first word off a text. -/
structure Code (Symbol Word : Type) where
  encode : Word → List Symbol
  split : List Symbol → Option (Word × List Symbol)
  encode_ne_nil : ∀ word, encode word ≠ []
  split_encode : ∀ word rest, split (encode word ++ rest) = some (word, rest)
  encode_split : ∀ {text word rest}, split text = some (word, rest) → text = encode word ++ rest

namespace Code

variable {Symbol Word : Type} (code : Code Symbol Word)

def encodeAll (words : List Word) : List Symbol := words.flatMap code.encode

theorem encodeAll_cons (word : Word) (words : List Word) :
    code.encodeAll (word :: words) = code.encode word ++ code.encodeAll words :=
  List.flatMap_cons

theorem exists_words (text : List Symbol) :
    ∃ words rest, text = code.encodeAll words ++ rest ∧ code.split rest = none := by
  generalize size : text.length = length
  induction length using Nat.strongRecOn generalizing text with
  | ind length ih =>
      cases first : code.split text with
      | none => exact ⟨[], text, rfl, first⟩
      | some found =>
          obtain ⟨word, tail⟩ := found
          have whole := code.encode_split first
          have shorter : tail.length < length := by
            have positive := List.length_pos_iff.mpr (code.encode_ne_nil word)
            rw [← size, whole, List.length_append]
            omega
          obtain ⟨words, rest, split, stuck⟩ := ih _ shorter tail rfl
          refine ⟨word :: words, rest, ?_, stuck⟩
          rw [whole, encodeAll_cons, List.append_assoc, ← split]

/-- The words up to a place where none can be split off are the longest ones: any other words at
the front of the text are the first of them. -/
theorem isPrefix_words {words other : List Word} {rest : List Symbol}
    (stuck : code.split rest = none)
    (fits : code.encodeAll other <+: code.encodeAll words ++ rest) : other <+: words := by
  induction words generalizing other with
  | nil =>
      cases other with
      | nil => exact List.prefix_refl []
      | cons word other =>
          obtain ⟨tail, same⟩ := fits
          rw [encodeAll_cons, List.append_assoc] at same
          have found := code.split_encode word (code.encodeAll other ++ tail)
          rw [same] at found
          exact absurd (stuck.symm.trans found) (by simp)
  | cons word words ih =>
      cases other with
      | nil => exact List.nil_prefix
      | cons first other =>
          obtain ⟨tail, same⟩ := fits
          rw [encodeAll_cons, encodeAll_cons, List.append_assoc, List.append_assoc] at same
          have found := code.split_encode first (code.encodeAll other ++ tail)
          rw [same, code.split_encode] at found
          obtain ⟨rfl, later⟩ := Prod.mk.inj (Option.some.inj found)
          exact List.cons_prefix_cons.mpr ⟨rfl, ih ⟨tail, later.symm⟩⟩

end Code

end PrefixCode
