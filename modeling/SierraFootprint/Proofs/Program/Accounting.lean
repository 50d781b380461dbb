import SierraFootprint.Program.Basic
import Mathlib.Algebra.GroupWithZero.Nat

/-!
# What stripping takes off a size

The marker is counted by the positions at which it stands. Every marker that a mode deletes costs
exactly two characters, so that half the length of a token goes down by one for each of them,
whatever the parity of the length is.
-/
namespace SierraFootprint
namespace StripMode

/-- The marker stands at a position of a text. -/
def MarkerAt (text : List Char) (i : Nat) : Prop :=
  text[i]? = some '0' ∧ text[i + 1]? = some 'x'

instance (text : List Char) (i : Nat) : Decidable (MarkerAt text i) :=
  inferInstanceAs (Decidable (_ ∧ _))

/-- The number of positions at which the marker stands. -/
def markerCount (text : List Char) : Nat :=
  (List.range text.length).countP fun i => MarkerAt text i

/-- The marker stands at the front, in either case. -/
def LeadingMarker (text : List Char) : Prop :=
  ['0', 'x'] <+: text ∨ ['0', 'X'] <+: text

instance (text : List Char) : Decidable (LeadingMarker text) :=
  inferInstanceAs (Decidable (_ ∨ _))

/-- One for a text with the marker at the front. -/
def leadCount (text : List Char) : Nat :=
  if LeadingMarker text then 1 else 0

@[simp] theorem markerAt_succ (c : Char) (text : List Char) (i : Nat) :
    MarkerAt (c :: text) (i + 1) ↔ MarkerAt text i := by
  simp [MarkerAt]

@[simp] theorem markerAt_cons_cons_zero (c d : Char) (rest : List Char) :
    MarkerAt (c :: d :: rest) 0 ↔ c = '0' ∧ d = 'x' := by
  simp [MarkerAt]

@[simp] theorem markerCount_nil : markerCount [] = 0 := rfl

theorem markerCount_cons (c : Char) (text : List Char) :
    markerCount (c :: text) = (if MarkerAt (c :: text) 0 then 1 else 0) + markerCount text := by
  simp only [markerCount, List.length_cons, List.range_succ_eq_map, List.countP_cons,
    List.countP_map]
  have hc : (List.range text.length).countP
      ((fun i => decide (MarkerAt (c :: text) i)) ∘ Nat.succ) =
        (List.range text.length).countP fun i => MarkerAt text i :=
    List.countP_congr (by simp)
  rw [hc, Nat.add_comm]
  simp

@[simp] theorem markerCount_singleton (c : Char) : markerCount [c] = 0 := by
  simp [markerCount_cons, MarkerAt]

/-- Two markers never share a character, so one of them is gone for every position. -/
theorem length_deleteMarkers (text : List Char) :
    (deleteMarkers text).length + 2 * markerCount text = text.length := by
  fun_induction deleteMarkers text with
  | case1 => rfl
  | case2 c => simp
  | case3 c d rest h ih =>
    obtain ⟨rfl, rfl⟩ := h
    have hx : ¬ MarkerAt ('x' :: rest) 0 := by simp [MarkerAt]
    rw [markerCount_cons, markerCount_cons, if_neg hx, if_pos (by simp)]
    simp only [List.length_cons]
    omega
  | case4 c d rest h ih =>
    rw [markerCount_cons, if_neg (by simpa using h)]
    simp only [List.length_cons] at ih ⊢
    omega

/-- What is left behind a marker at the front. -/
theorem deleteLeading_eq (text : List Char) :
    deleteLeading text = if LeadingMarker text then text.drop 2 else text := by
  split
  next h => obtain ⟨rest, rfl⟩ | ⟨rest, rfl⟩ := h <;> rfl
  next h =>
    rw [LeadingMarker, not_or] at h
    unfold deleteLeading
    split
    · simp at h
    · simp at h
    · rfl

theorem LeadingMarker.two_le_length {text : List Char} (h : LeadingMarker text) :
    2 ≤ text.length := by
  obtain h | h := h <;> exact h.length_le

theorem length_deleteLeading (text : List Char) :
    (deleteLeading text).length + 2 * leadCount text = text.length := by
  rw [deleteLeading_eq, leadCount]
  split
  next h =>
    have htwo := h.two_le_length
    rw [List.length_drop]
    omega
  next => rfl

theorem tokenSize_global_add (token : String) :
    tokenSize .global token + markerCount token.toList = token.length / 2 := by
  have h := length_deleteMarkers token.toList
  rw [← String.length_toList]
  rw [tokenSize, ← String.length_toList, toList_strip, stripText_global]
  omega

theorem tokenSize_leading_add (token : String) :
    tokenSize .leading token + leadCount token.toList = token.length / 2 := by
  have h := length_deleteLeading token.toList
  rw [← String.length_toList]
  rw [tokenSize, ← String.length_toList, toList_strip, stripText_leading]
  omega

/-- What holds of the size of every token adds up over a list of them. -/
theorem byteSize_add_sum {mode : StripMode} {lost whole : String → Nat}
    (h : ∀ t, tokenSize mode t + lost t = whole t) (tokens : List String) :
    byteSize mode tokens + (tokens.map lost).sum = (tokens.map whole).sum := by
  induction tokens with
  | nil => rfl
  | cons t rest ih =>
    have ht := h t
    simp only [byteSize_cons, List.map_cons, List.sum_cons]
    omega

/-- Half the length of each token is what is left of it in a mode and one byte for every marker that
the mode deletes. The two modes agree when they delete equally many, and neither takes more off a
token than it has. -/
theorem byteSize_accounting (tokens : List String) :
    byteSize .global tokens + (tokens.map fun t => markerCount t.toList).sum =
        (tokens.map fun t => t.length / 2).sum ∧
      (tokens.map fun t => t.length / 2).sum =
        byteSize .leading tokens + (tokens.map fun t => leadCount t.toList).sum ∧
      (byteSize .global tokens = byteSize .leading tokens ↔
        (tokens.map fun t => markerCount t.toList).sum =
          (tokens.map fun t => leadCount t.toList).sum) ∧
      ∀ token : String,
        markerCount token.toList ≤ token.length / 2 ∧ leadCount token.toList ≤ token.length / 2 ∧
        tokenSize .global token = token.length / 2 - markerCount token.toList ∧
        tokenSize .leading token = token.length / 2 - leadCount token.toList := by
  have hg := byteSize_add_sum tokenSize_global_add tokens
  have hl := byteSize_add_sum tokenSize_leading_add tokens
  refine ⟨hg, hl.symm, by omega, fun token => ?_⟩
  have htg := tokenSize_global_add token
  have htl := tokenSize_leading_add token
  omega

end StripMode
end SierraFootprint
