import SierraFootprint.Text.Characters
import Mathlib.Data.List.TakeWhile
import Mathlib.Tactic.Common

/-!
# Trimmed texts

Trimming is described by its result: the text between two stretches of white space that neither
begins nor ends with a blank. There is exactly one such text.
-/
namespace SierraFootprint.Text

/-- The property White_Space. -/
def WhiteSpace (c : Char) : Prop :=
  0x9 ≤ c.toNat ∧ c.toNat ≤ 0xD ∨ c.toNat = 0x20 ∨ c.toNat = 0x85 ∨ c.toNat = 0xA0 ∨
    c.toNat = 0x1680 ∨ 0x2000 ≤ c.toNat ∧ c.toNat ≤ 0x200A ∨ c.toNat = 0x2028 ∨
    c.toNat = 0x2029 ∨ c.toNat = 0x202F ∨ c.toNat = 0x205F ∨ c.toNat = 0x3000

/-- White space of any length. -/
def White (text : List Char) : Prop :=
  ∀ c ∈ text, WhiteSpace c

theorem isBlank_iff {c : Char} : isBlank c ↔ WhiteSpace c := by
  simp only [isBlank, CodeRanges.has, blankRanges, CodeRanges.holds_cons, CodeRanges.holds_nil,
    Bool.false_eq_true, or_false, WhiteSpace]
  omega

/-- What is left of a text without the white space at its ends. -/
structure IsTrimmed (text core : List Char) : Prop where
  between : ∃ before after, White before ∧ White after ∧ text = before ++ (core ++ after)
  head : ∀ c ∈ core.head?, ¬ WhiteSpace c
  last : ∀ c ∈ core.getLast?, ¬ WhiteSpace c

theorem dropWhile_white {before : List Char} (h : White before) (rest : List Char) :
    (before ++ rest).dropWhile isBlank = rest.dropWhile isBlank :=
  List.dropWhile_append_of_pos fun c hc => isBlank_iff.2 (h c hc)

theorem dropWhile_eq_self {text : List Char} (h : ∀ c ∈ text.head?, ¬ WhiteSpace c) :
    text.dropWhile isBlank = text := by
  cases text with
  | nil => rfl
  | cons c text =>
    have hc : ¬ isBlank c := fun hb => h c rfl (isBlank_iff.1 hb)
    simp [hc]

theorem White.reverse {text : List Char} (h : White text) : White text.reverse :=
  fun c hc => h c (List.mem_reverse.1 hc)

theorem IsTrimmed.trim_eq {text core : List Char} (h : IsTrimmed text core) : trim text = core := by
  obtain ⟨⟨before, after, hbefore, hafter, rfl⟩, hhead, hlast⟩ := h
  rw [trim, dropWhile_white hbefore]
  cases core with
  | nil =>
    have hnil := dropWhile_white hafter []
    rw [List.append_nil, List.dropWhile_nil] at hnil
    simp [hnil]
  | cons c core =>
    have hc : ((c :: core) ++ after).dropWhile isBlank = (c :: core) ++ after :=
      dropWhile_eq_self (by simpa using hhead)
    rw [hc, List.reverse_append, dropWhile_white hafter.reverse, dropWhile_eq_self,
      List.reverse_reverse]
    rw [List.head?_reverse]
    exact hlast

theorem exists_white_dropWhile (text : List Char) :
    ∃ before, White before ∧ text = before ++ text.dropWhile isBlank :=
  ⟨text.takeWhile isBlank, fun _ hc => isBlank_iff.1 (List.mem_takeWhile_imp hc),
    List.takeWhile_append_dropWhile.symm⟩

theorem head?_dropWhile (text : List Char) :
    ∀ c ∈ (text.dropWhile isBlank).head?, ¬ WhiteSpace c := by
  intro c hc
  have h := List.head?_dropWhile_not isBlank text
  rw [Option.mem_def.1 hc] at h
  simpa [← isBlank_iff] using h

theorem isTrimmed_trim (text : List Char) : IsTrimmed text (trim text) := by
  obtain ⟨before, hbefore, htext⟩ := exists_white_dropWhile text
  obtain ⟨after, hafter, hrest⟩ := exists_white_dropWhile (text.dropWhile isBlank).reverse
  have hsplit : text.dropWhile isBlank = trim text ++ after.reverse := by
    rw [trim, ← List.reverse_append, ← hrest, List.reverse_reverse]
  refine ⟨⟨before, after.reverse, hbefore, hafter.reverse, by rw [← hsplit, ← htext]⟩, ?_, ?_⟩
  · intro c hc
    apply head?_dropWhile text
    rw [hsplit, List.head?_append, Option.mem_def.1 hc]
    rfl
  · rw [trim, List.getLast?_reverse]
    exact head?_dropWhile _

/-- A text has exactly one trimmed text, which trimming gives. -/
theorem trim_eq_iff {text core : List Char} : trim text = core ↔ IsTrimmed text core :=
  ⟨fun h => h ▸ isTrimmed_trim text, IsTrimmed.trim_eq⟩

end SierraFootprint.Text
