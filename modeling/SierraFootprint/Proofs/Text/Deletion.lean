import Mathlib.Data.List.Infix
import Mathlib.Tactic.Common

/-!
# Deleting the words of a code

One pass from the left deletes every word of a prefix code that it meets. A word may stand across the
place where two texts meet, but not across a character that no word has, so a text can be treated in
parts there.
-/
namespace SierraFootprint.Text

/-- Words of which none is empty and none begins another one, so that a text begins with at most one
of them. -/
structure PrefixCode where
  words : List (List Char)
  ne_nil : ∀ word ∈ words, word ≠ []
  eq_of_begins : ∀ word ∈ words, ∀ other ∈ words, word <+: other → word = other

namespace PrefixCode

variable (code : PrefixCode)

/-- The word that a text begins with. -/
def wordOf? (text : List Char) : Option (List Char) :=
  code.words.find? (·.isPrefixOf text)

/-- Deletes every word that is met from the left. What is left of a text is not looked at again. -/
def delete : List Char → List Char
  | [] => []
  | c :: rest =>
    match code.wordOf? (c :: rest) with
    | some word => delete (rest.drop (word.length - 1))
    | none => c :: delete rest
termination_by text => text.length
decreasing_by all_goals simp only [List.length_drop, List.length_cons]; omega

/-- No word has a character. -/
def Lacks (c : Char) : Prop :=
  ∀ word ∈ code.words, c ∉ word

instance (c : Char) : Decidable (code.Lacks c) :=
  List.decidableBAll (fun word => c ∉ word) code.words

variable {code}

theorem wordOf?_eq_none_iff {text : List Char} :
    code.wordOf? text = none ↔ ∀ word ∈ code.words, ¬ word <+: text := by
  simp [wordOf?, List.find?_eq_none]

theorem wordOf?_append {word : List Char} (h : word ∈ code.words) (rest : List Char) :
    code.wordOf? (word ++ rest) = some word := by
  have hprefix : word <+: word ++ rest := List.prefix_append word rest
  cases hfound : code.wordOf? (word ++ rest) with
  | none => exact absurd hprefix (wordOf?_eq_none_iff.1 hfound word h)
  | some other =>
    have hother : other ∈ code.words := List.mem_of_find?_eq_some hfound
    have hbegins : other <+: word ++ rest := by simpa using List.find?_some hfound
    obtain hle | hle := List.prefix_or_prefix_of_prefix hbegins hprefix
    · rw [code.eq_of_begins other hother word h hle]
    · rw [code.eq_of_begins word h other hother hle]

theorem wordOf?_eq_some_iff {word text : List Char} :
    code.wordOf? text = some word ↔ word ∈ code.words ∧ word <+: text := by
  constructor
  · intro h
    exact ⟨List.mem_of_find?_eq_some h, by simpa using List.find?_some h⟩
  · rintro ⟨hword, rest, rfl⟩
    exact wordOf?_append hword rest

@[simp] theorem delete_nil : code.delete [] = [] := by
  rw [delete]

theorem delete_word {word : List Char} (h : word ∈ code.words) (rest : List Char) :
    code.delete (word ++ rest) = code.delete rest := by
  obtain ⟨c, tail, rfl⟩ := List.exists_cons_of_ne_nil (code.ne_nil word h)
  rw [List.cons_append, delete, ← List.cons_append, wordOf?_append h]
  simp

theorem delete_cons {c : Char} {rest : List Char} (h : code.wordOf? (c :: rest) = none) :
    code.delete (c :: rest) = c :: code.delete rest := by
  rw [delete, h]

/-- A character that no word begins with stays. -/
theorem delete_append_of_not_first {kept : List Char}
    (h : ∀ word ∈ code.words, ∀ c ∈ kept, word.head? ≠ some c) (rest : List Char) :
    code.delete (kept ++ rest) = kept ++ code.delete rest := by
  induction kept with
  | nil => rfl
  | cons c kept ih =>
    have hnone : code.wordOf? (c :: (kept ++ rest)) = none := by
      rw [wordOf?_eq_none_iff]
      rintro word hword ⟨tail, htail⟩
      obtain ⟨d, word, rfl⟩ := List.exists_cons_of_ne_nil (code.ne_nil word hword)
      obtain ⟨rfl, -⟩ := List.cons_eq_cons.1 htail
      exact h _ hword d List.mem_cons_self rfl
    rw [List.cons_append, delete_cons hnone, ih fun word hword d hd =>
      h word hword d (List.mem_cons_of_mem c hd)]
    rfl

/-- What a text begins with in front of a character that no word has, it begins with by itself. -/
theorem wordOf?_append_lacking {c : Char} (hc : code.Lacks c) (a b : List Char) :
    code.wordOf? (a ++ c :: b) = code.wordOf? a := by
  cases hfound : code.wordOf? a with
  | some word =>
    obtain ⟨hword, hbegins⟩ := wordOf?_eq_some_iff.1 hfound
    exact wordOf?_eq_some_iff.2 ⟨hword, hbegins.trans (List.prefix_append a _)⟩
  | none =>
    rw [wordOf?_eq_none_iff] at hfound ⊢
    intro word hword hbegins
    have hfront : a ++ [c] <+: a ++ c :: b := ⟨b, by simp⟩
    -- A word that does not end within the text would have the character behind it.
    obtain hshort | hlong := List.prefix_or_prefix_of_prefix hbegins hfront
    · obtain rfl | hwithin := List.prefix_concat_iff.1 hshort
      · exact hc _ hword (by simp)
      · exact hfound word hword hwithin
    · exact hc word hword (hlong.subset (by simp))

/-- The induction is on the pass over the first text, which no word leads out of. -/
theorem delete_append_lacking {c : Char} (hc : code.Lacks c) (a b : List Char) :
    code.delete (a ++ c :: b) = code.delete a ++ c :: code.delete b := by
  fun_induction delete code a with
  | case1 =>
    have hnone : code.wordOf? ([] ++ c :: b) = none := by
      rw [wordOf?_append_lacking hc, wordOf?_eq_none_iff]
      exact fun word hword hnil => code.ne_nil word hword (List.prefix_nil.1 hnil)
    exact delete_cons hnone
  | case2 d rest word hword ih =>
    obtain ⟨hmem, tail, htail⟩ := wordOf?_eq_some_iff.1 hword
    have hrest : rest.drop (word.length - 1) = tail := by
      obtain ⟨e, word, rfl⟩ := List.exists_cons_of_ne_nil (code.ne_nil word hmem)
      obtain ⟨-, rfl⟩ := List.cons_eq_cons.1 htail
      simp
    rw [← htail, List.append_assoc, delete_word hmem, ← hrest, ih]
  | case3 d rest hnone ih =>
    have hwhole : code.wordOf? (d :: (rest ++ c :: b)) = none := by
      rw [← List.cons_append, wordOf?_append_lacking hc, hnone]
    rw [List.cons_append, delete_cons hwhole, ih, List.cons_append]

/-- A text that ends with a character that no word has is treated apart from what follows it. -/
theorem delete_append_of_ends {a : List Char} {c : Char} (hc : code.Lacks c)
    (ha : a.getLast? = some c) (b : List Char) :
    code.delete (a ++ b) = code.delete a ++ code.delete b := by
  obtain ⟨front, rfl⟩ := List.getLast?_eq_some_iff.1 ha
  rw [List.append_assoc, List.singleton_append, delete_append_lacking hc,
    delete_append_lacking hc, delete_nil, List.append_assoc, List.singleton_append]

end PrefixCode
end SierraFootprint.Text
