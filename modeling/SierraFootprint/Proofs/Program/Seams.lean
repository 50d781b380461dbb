import SierraFootprint.Proofs.Program.Accounting

/-!
# Tokens put together

Two tokens may be stripped apart from each other unless a marker stands across the place where they
meet. That marker is the only thing that one pass over both sees and two passes do not.
-/
namespace SierraFootprint
namespace StripMode

/-- A marker stands across the end of one text and the start of the next one. -/
def Seam (a b : List Char) : Prop :=
  a.getLast? = some '0' ∧ b.head? = some 'x'

instance (a b : List Char) : Decidable (Seam a b) :=
  inferInstanceAs (Decidable (_ ∧ _))

theorem seam_iff {a b : List Char} :
    Seam a b ↔ ∃ a' b', a = a' ++ ['0'] ∧ b = 'x' :: b' := by
  simp only [Seam, List.getLast?_eq_some_iff, List.head?_eq_some_iff, exists_and_left,
    exists_and_right]

@[simp] theorem seam_singleton_cons (c d : Char) (rest : List Char) :
    Seam [c] (d :: rest) ↔ c = '0' ∧ d = 'x' := by
  simp [Seam]

/-- Only the last character matters for the first text. -/
theorem seam_cons_cons (c d : Char) (rest b : List Char) :
    Seam (c :: d :: rest) b ↔ Seam (d :: rest) b := by
  simp [Seam]

/-- The induction is on the pass over the first text. The character behind it is looked at only when
that pass has come to the last character of the text. -/
theorem deleteMarkers_append {a b : List Char} (h : ¬ Seam a b) :
    deleteMarkers (a ++ b) = deleteMarkers a ++ deleteMarkers b := by
  fun_induction deleteMarkers a with
  | case1 => rfl
  | case2 c =>
    cases b with
    | nil => rfl
    | cons d rest =>
      rw [seam_singleton_cons] at h
      rw [List.singleton_append, deleteMarkers, if_neg h, List.singleton_append]
  | case3 c d rest hmarker ih =>
    have hrest : ¬ Seam rest b := by
      intro hs
      obtain ⟨a', b', rfl, rfl⟩ := seam_iff.1 hs
      exact h (seam_iff.2 ⟨c :: d :: a', b', rfl, rfl⟩)
    rw [List.cons_append, List.cons_append, deleteMarkers, if_pos hmarker, ih hrest]
  | case4 c d rest hmarker ih =>
    rw [seam_cons_cons] at h
    rw [List.cons_append, List.cons_append, deleteMarkers, if_neg hmarker, ← List.cons_append,
      ih h, List.cons_append]

/-- The marker across a seam goes, and the texts around it are stripped apart from each other. -/
theorem deleteMarkers_seam (a b : List Char) :
    deleteMarkers (a ++ '0' :: 'x' :: b) = deleteMarkers a ++ deleteMarkers b := by
  have hfront : ¬ Seam a ('0' :: 'x' :: b) := by simp [Seam]
  rw [deleteMarkers_append hfront, deleteMarkers, if_pos ⟨rfl, rfl⟩]

theorem markerCount_append (a b : List Char) :
    markerCount (a ++ b) = markerCount a + markerCount b + if Seam a b then 1 else 0 := by
  have hab := length_deleteMarkers (a ++ b)
  have ha := length_deleteMarkers a
  have hb := length_deleteMarkers b
  rw [List.length_append] at hab
  by_cases h : Seam a b
  · obtain ⟨a', b', rfl, rfl⟩ := seam_iff.1 h
    have ha' : deleteMarkers (a' ++ ['0']) = deleteMarkers a' ++ ['0'] :=
      deleteMarkers_append (by simp [Seam])
    have hb' : deleteMarkers ('x' :: b') = 'x' :: deleteMarkers b' :=
      deleteMarkers_append (a := ['x']) (by simp [Seam])
    rw [List.append_assoc, List.singleton_append, deleteMarkers_seam] at hab
    rw [ha'] at ha
    rw [hb'] at hb
    rw [if_pos h, List.append_assoc, List.singleton_append]
    simp only [List.length_append, List.length_cons, List.length_nil] at hab ha hb
    omega
  · rw [deleteMarkers_append h, List.length_append] at hab
    rw [if_neg h]
    omega

theorem strip_global_append_of_not_seam {a b : String} (h : ¬ Seam a.toList b.toList) :
    strip .global (a ++ b) = strip .global a ++ strip .global b := by
  apply String.toList_inj.1
  simp only [toList_strip, stripText_global, String.toList_append, deleteMarkers_append h]

theorem strip_global_seam (a b : String) :
    strip .global ((a ++ "0") ++ ("x" ++ b)) = strip .global a ++ strip .global b := by
  have hseam : ((a ++ "0") ++ ("x" ++ b)).toList = a.toList ++ '0' :: 'x' :: b.toList := by simp
  apply String.toList_inj.1
  simp only [toList_strip, stripText_global, hseam, deleteMarkers_seam, String.toList_append]

/-- The marker across a seam makes the whole shorter than its parts. -/
theorem not_seam_of_strip_global_append {a b : String}
    (h : strip .global (a ++ b) = strip .global a ++ strip .global b) :
    ¬ Seam a.toList b.toList := by
  intro hs
  have hwhole := length_deleteMarkers (a ++ b).toList
  have ha := length_deleteMarkers a.toList
  have hb := length_deleteMarkers b.toList
  have hlength := congrArg (fun t => t.toList.length) h
  simp only [toList_strip, stripText_global, String.toList_append, List.length_append] at hlength
  rw [String.toList_append, markerCount_append, if_pos hs, List.length_append] at hwhole
  omega

/-- A marker across the seam counts in the whole and in neither part, and a character left over in
each of the parts makes a byte of the whole. -/
theorem tokenSize_global_append (a b : String) :
    tokenSize .global (a ++ b) + (if Seam a.toList b.toList then 1 else 0) =
      tokenSize .global a + tokenSize .global b +
        if a.length % 2 = 1 ∧ b.length % 2 = 1 then 1 else 0 := by
  have hwhole := tokenSize_global_add (a ++ b)
  have ha := tokenSize_global_add a
  have hb := tokenSize_global_add b
  have hhalf : (a.length + b.length) / 2 = a.length / 2 + b.length / 2 +
      if a.length % 2 = 1 ∧ b.length % 2 = 1 then 1 else 0 := by
    split <;> omega
  rw [String.toList_append, markerCount_append, String.length_append, hhalf] at hwhole
  omega

/-- Stripping two tokens put together is stripping each of them exactly when no marker stands across
the place where they meet. A marker that does goes too, and the rest of each token is stripped by
itself. Put together, two tokens of odd length make one byte more than they do apart, and two tokens
with a marker across their seam make one byte less. -/
theorem strip_global_append (a b : String) :
    (strip .global (a ++ b) = strip .global a ++ strip .global b ↔ ¬ Seam a.toList b.toList) ∧
      (∀ a' b' : String, strip .global ((a' ++ "0") ++ ("x" ++ b')) =
        strip .global a' ++ strip .global b') ∧
      byteSize .global [a ++ b] + (if Seam a.toList b.toList then 1 else 0) =
        byteSize .global [a, b] + if a.length % 2 = 1 ∧ b.length % 2 = 1 then 1 else 0 := by
  refine ⟨⟨not_seam_of_strip_global_append, strip_global_append_of_not_seam⟩,
    strip_global_seam, ?_⟩
  simpa using tokenSize_global_append a b

end StripMode
end SierraFootprint
