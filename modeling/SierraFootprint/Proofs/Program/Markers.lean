import SierraFootprint.Proofs.Program.Accounting

/-!
# Which characters deletion keeps

The markers are deleted in one pass from the left. What is left of a text can be said without a pass:
a character stays exactly when no marker covers its position.
-/
namespace SierraFootprint
namespace StripMode

/-- No marker covers a position of a text, with its first character or with its second one. -/
def Spared (text : List Char) (i : Nat) : Prop :=
  ¬ MarkerAt text i ∧ ¬ (0 < i ∧ MarkerAt text (i - 1))

instance (text : List Char) (i : Nat) : Decidable (Spared text i) :=
  inferInstanceAs (Decidable (_ ∧ _))

/-- The positions that no marker covers, in order. -/
def sparedPositions (text : List Char) : List Nat :=
  (List.range text.length).filter (Spared text ·)

/-- The characters at some positions of a text. -/
def charactersAt (text : List Char) (positions : List Nat) : List Char :=
  positions.filterMap (text[·]?)

theorem charactersAt_map_succ (c : Char) (text : List Char) (positions : List Nat) :
    charactersAt (c :: text) (positions.map Nat.succ) = charactersAt text positions := by
  simp only [charactersAt, List.filterMap_map, Function.comp_def, Nat.succ_eq_add_one,
    List.getElem?_cons_succ]

theorem spared_zero (text : List Char) : Spared text 0 ↔ ¬ MarkerAt text 0 := by
  simp [Spared]

/-- A first character that opens no marker plays no part for those behind it. -/
theorem spared_succ {c : Char} {text : List Char} (h : ¬ MarkerAt (c :: text) 0) (i : Nat) :
    Spared (c :: text) (i + 1) ↔ Spared text i := by
  cases i with
  | zero => simp [Spared, h]
  | succ i => simp [Spared]

/-- A marker plays no part for the characters behind it. -/
theorem spared_marker (rest : List Char) (i : Nat) :
    Spared ('0' :: 'x' :: rest) (i + 2) ↔ Spared rest i := by
  have hx : ¬ MarkerAt ('x' :: rest) 0 := by simp [MarkerAt]
  rw [← spared_succ hx]
  simp [Spared]

theorem sparedPositions_cons {c : Char} {text : List Char} (h : ¬ MarkerAt (c :: text) 0) :
    sparedPositions (c :: text) = 0 :: (sparedPositions text).map Nat.succ := by
  have hrest : (List.range text.length).filter ((Spared (c :: text) ·) ∘ Nat.succ) =
      sparedPositions text :=
    List.filter_congr fun i _ => decide_eq_decide.2 (spared_succ h i)
  rw [sparedPositions, List.length_cons, List.range_succ_eq_map, List.filter_cons,
    if_pos (decide_eq_true ((spared_zero _).2 h)), List.filter_map, hrest]

theorem sparedPositions_marker (rest : List Char) :
    sparedPositions ('0' :: 'x' :: rest) = ((sparedPositions rest).map Nat.succ).map Nat.succ := by
  have hfirst : ¬ Spared ('0' :: 'x' :: rest) 0 := by simp [Spared]
  have hsecond : ¬ Spared ('0' :: 'x' :: rest) 1 := by simp [Spared]
  have hrest : (List.range rest.length).filter
      (((Spared ('0' :: 'x' :: rest) ·) ∘ Nat.succ) ∘ Nat.succ) = sparedPositions rest :=
    List.filter_congr fun i _ => decide_eq_decide.2 (spared_marker rest i)
  rw [sparedPositions, List.length_cons, List.length_cons, List.range_succ_eq_map,
    List.filter_cons, if_neg (by simpa using hfirst), List.filter_map, List.range_succ_eq_map,
    List.filter_cons, if_neg (by simpa using hsecond), List.filter_map, hrest]

/-- One pass from the left and a look at each position for itself keep the same characters. -/
theorem deleteMarkers_eq_charactersAt (text : List Char) :
    deleteMarkers text = charactersAt text (sparedPositions text) := by
  fun_induction deleteMarkers text with
  | case1 => rfl
  | case2 c =>
    have hc : ¬ MarkerAt [c] 0 := by simp [MarkerAt]
    rw [sparedPositions_cons hc]
    rfl
  | case3 c d rest h ih =>
    obtain ⟨rfl, rfl⟩ := h
    rw [sparedPositions_marker, charactersAt_map_succ, charactersAt_map_succ, ih]
  | case4 c d rest h ih =>
    have hc : ¬ MarkerAt (c :: d :: rest) 0 := by simpa using h
    rw [sparedPositions_cons hc, ih, ← charactersAt_map_succ c]
    rfl

theorem charactersAt_range (text : List Char) :
    charactersAt text (List.range text.length) = text := by
  induction text with
  | nil => rfl
  | cons c rest ih =>
    rw [List.length_cons, List.range_succ_eq_map]
    exact congrArg (c :: ·) ((charactersAt_map_succ c rest _).trans ih)

theorem charactersAt_sublist (text : List Char) :
    (charactersAt text (sparedPositions text)).Sublist text := by
  have hall : (charactersAt text (sparedPositions text)).Sublist
      (charactersAt text (List.range text.length)) :=
    List.filter_sublist.filterMap _
  rwa [charactersAt_range] at hall

theorem markerAt_zero_iff (text : List Char) : MarkerAt text 0 ↔ ['0', 'x'] <+: text := by
  match text with
  | [] => simp [MarkerAt]
  | [c] => simp [MarkerAt, List.cons_prefix_cons]
  | c :: d :: rest => simp [List.cons_prefix_cons, eq_comm]

/-- A text holds the marker where it stands at some position. -/
theorem exists_markerAt_iff (text : List Char) : (∃ i, MarkerAt text i) ↔ ['0', 'x'] <:+: text := by
  induction text with
  | nil => simp [MarkerAt]
  | cons c rest ih =>
    rw [List.infix_cons_iff, ← markerAt_zero_iff, ← ih]
    constructor
    · rintro ⟨_ | i, hi⟩
      · exact .inl hi
      · exact .inr ⟨i, (markerAt_succ c rest i).1 hi⟩
    · rintro (hi | ⟨i, hi⟩)
      · exact ⟨0, hi⟩
      · exact ⟨i + 1, (markerAt_succ c rest i).2 hi⟩

theorem markerCount_eq_zero_iff (text : List Char) :
    markerCount text = 0 ↔ ¬ ['0', 'x'] <:+: text := by
  rw [← exists_markerAt_iff, markerCount, List.countP_eq_zero]
  constructor
  · rintro h ⟨i, hi⟩
    obtain ⟨hlt, -⟩ := List.getElem?_eq_some_iff.1 hi.1
    exact h i (List.mem_range.2 hlt) (decide_eq_true hi)
  · intro h i _ hi
    exact h ⟨i, of_decide_eq_true hi⟩

theorem length_strip_global (token : String) :
    (strip .global token).length + 2 * markerCount token.toList = token.length := by
  have h := length_deleteMarkers token.toList
  rwa [← stripText_global, ← toList_strip, String.length_toList, String.length_toList] at h

/-- Nothing is deleted where no marker stands, and only there. -/
theorem strip_global_eq_self_iff (token : String) :
    strip .global token = token ↔ ¬ marker.toList <:+: token.toList := by
  have hlength := length_strip_global token
  rw [show marker.toList = ['0', 'x'] from rfl, ← markerCount_eq_zero_iff]
  constructor
  · intro h
    rw [h] at hlength
    omega
  · intro h
    have hsub := charactersAt_sublist token.toList
    rw [← deleteMarkers_eq_charactersAt, ← stripText_global, ← toList_strip] at hsub
    apply String.toList_inj.1
    exact hsub.eq_of_length (by rw [String.length_toList, String.length_toList]; omega)

/-- A run of zeros loses only the one in front of the `x`, and what then stands together stays. -/
example : (strip .global "000xxé0x0x0").toList = "00xé0".toList := by decide

end StripMode
end SierraFootprint
