import SierraFootprint.Proofs.Program.Markers

/-!
# Markers that one pass leaves behind

Deletion brings characters together that were apart. A marker comes about where a `0` and an `x`
stood around markers, and nowhere else, so those are the tokens for which a second pass would find
something to delete.
-/
namespace SierraFootprint
namespace StripMode

/-- Markers in a row. -/
def markers (n : Nat) : List Char :=
  (List.replicate n ['0', 'x']).flatten

@[simp] theorem markers_zero : markers 0 = [] := rfl

@[simp] theorem markers_succ (n : Nat) : markers (n + 1) = '0' :: 'x' :: markers n := by
  simp [markers, List.replicate_succ]

/-- A marker around one or more markers in a row, `n + 1` of them. -/
def nestedMarker (n : Nat) : List Char :=
  '0' :: (markers (n + 1) ++ ['x'])

/-- An `x` comes to the front when only markers stand before it. -/
theorem head?_deleteMarkers (text : List Char) :
    (deleteMarkers text).head? = some 'x' ↔ ∃ n, markers n ++ ['x'] <+: text := by
  fun_induction deleteMarkers text with
  | case1 => simp
  | case2 c =>
    constructor
    · intro h
      obtain rfl : c = 'x' := by simpa using h
      exact ⟨0, List.prefix_refl _⟩
    · rintro ⟨_ | n, h⟩
      · simpa [eq_comm] using h
      · simp at h
  | case3 c d rest h ih =>
    obtain ⟨rfl, rfl⟩ := h
    rw [ih]
    constructor
    · rintro ⟨n, hn⟩
      exact ⟨n + 1, by simpa using hn⟩
    · rintro ⟨_ | n, hn⟩
      · simp at hn
      · exact ⟨n, by simpa using hn⟩
  | case4 c d rest h ih =>
    constructor
    · intro hc
      obtain rfl : c = 'x' := by simpa using hc
      exact ⟨0, by simp⟩
    · rintro ⟨_ | n, hn⟩
      · simpa [eq_comm] using hn
      -- A row of markers would open with the one that this case excludes.
      · simp only [markers_succ, List.cons_append, List.cons_prefix_cons] at hn
        exact absurd ⟨hn.1.symm, hn.2.1.symm⟩ h

/-- A first character that opens no marker becomes the front of one when it is a `0` and the rest of
a nested marker stands behind it. -/
theorem marker_prefix_cons_iff {c d : Char} {rest : List Char} (h : ¬ (c = '0' ∧ d = 'x')) :
    ['0', 'x'] <+: c :: deleteMarkers (d :: rest) ↔ ∃ n, nestedMarker n <+: c :: d :: rest := by
  have hhead : ['x'] <+: deleteMarkers (d :: rest) ↔ ∃ n, markers n ++ ['x'] <+: d :: rest := by
    rw [← head?_deleteMarkers]
    cases deleteMarkers (d :: rest) <;> simp [eq_comm]
  simp only [List.cons_prefix_cons, hhead, nestedMarker]
  constructor
  -- Without a marker in the row, the `0` and the `x` would be a marker themselves.
  · rintro ⟨rfl, _ | n, hn⟩
    · exact absurd ⟨rfl, by simpa [eq_comm] using hn⟩ h
    · exact ⟨n, rfl, hn⟩
  · rintro ⟨n, hc, hn⟩
    exact ⟨hc, n + 1, hn⟩

theorem marker_infix_deleteMarkers_iff (text : List Char) :
    ['0', 'x'] <:+: deleteMarkers text ↔ ∃ n, nestedMarker n <:+: text := by
  fun_induction deleteMarkers text with
  | case1 => simp [nestedMarker]
  | case2 c => simp [nestedMarker, List.infix_cons_iff]
  | case3 c d rest h ih =>
    -- A nested marker opens with two zeros, so it does not begin at either character of a marker.
    obtain ⟨rfl, rfl⟩ := h
    simp [ih, List.infix_cons_iff, nestedMarker]
  | case4 c d rest h ih =>
    have hsplit (n : Nat) : nestedMarker n <:+: c :: d :: rest ↔
        nestedMarker n <+: c :: d :: rest ∨ nestedMarker n <:+: d :: rest :=
      List.infix_cons_iff
    rw [List.infix_cons_iff, marker_prefix_cons_iff h, ih]
    simp only [hsplit, exists_or]

theorem two_le_count_nestedMarker (n : Nat) : 2 ≤ (nestedMarker n).count 'x' := by
  simp [nestedMarker]

/-- A second pass deletes something exactly where the first one left a marker. -/
theorem strip_global_again_iff (token : String) :
    strip .global (strip .global token) = strip .global token ↔
      ¬ ∃ n, nestedMarker n <:+: token.toList := by
  rw [strip_global_eq_self_iff, toList_strip, stripText_global, ← marker_infix_deleteMarkers_iff]
  rfl

/-- Global stripping leaves a marker in a token exactly when the token holds a nested marker: a `0`,
one or more markers, and an `x`. Stripping again changes those tokens and no others. A token with at
most one `x` is none of them. -/
theorem strip_global_leaves_marker_iff (token : String) :
    (marker.toList <:+: (strip .global token).toList ↔
        ∃ n, nestedMarker n <:+: token.toList) ∧
      (strip .global (strip .global token) = strip .global token ↔
        ¬ ∃ n, nestedMarker n <:+: token.toList) ∧
      (token.toList.count 'x' ≤ 1 →
        strip .global (strip .global token) = strip .global token) := by
  refine ⟨?_, strip_global_again_iff token, fun hcount => ?_⟩
  · rw [toList_strip, stripText_global, ← marker_infix_deleteMarkers_iff]
    rfl
  · rw [strip_global_again_iff]
    rintro ⟨n, hn⟩
    have htwo := two_le_count_nestedMarker n
    have hle := hn.sublist.count_le 'x'
    omega

/-- The one `x` of this token is in its marker, and nothing is left to delete behind it. -/
theorem strip_global_leaves_marker_one :
    "00x1".toList.count 'x' ≤ 1 ∧
      strip .global (strip .global "00x1") = strip .global "00x1" :=
  ⟨by decide, (strip_global_leaves_marker_iff "00x1").2.2 (by decide)⟩

/-- Each pass takes one layer off. -/
example : (strip .global "0000xxxx").toList = "000xxx".toList := by decide

end StripMode
end SierraFootprint
