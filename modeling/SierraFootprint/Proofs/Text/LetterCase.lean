import Mathlib.Tactic.Common

/-!
# Texts up to the case of ASCII letters

The letters of ASCII have two forms. Two texts that differ in nothing else have the same length, and
what is cut off at the same place leaves such texts again.
-/
namespace SierraFootprint.Text

/-- Two texts are the same but for the case of ASCII letters. -/
def SameLetters (a b : List Char) : Prop :=
  a.map Char.toLower = b.map Char.toLower

instance (a b : List Char) : Decidable (SameLetters a b) :=
  inferInstanceAs (Decidable (_ = _))

variable {a b : List Char}

theorem SameLetters.length_eq (h : SameLetters a b) : a.length = b.length := by
  simpa using congrArg List.length h

theorem SameLetters.drop (h : SameLetters a b) (n : Nat) : SameLetters (a.drop n) (b.drop n) := by
  rw [SameLetters, List.map_drop, List.map_drop, h]

theorem toNat_toLower (c : Char) : c.toLower.toNat =
    if 0x41 ≤ c.toNat ∧ c.toNat ≤ 0x5A then c.toNat + 0x20 else c.toNat := by
  have hcapital : c.val ≥ 'A'.val ∧ c.val ≤ 'Z'.val ↔ 0x41 ≤ c.toNat ∧ c.toNat ≤ 0x5A := by
    simp [UInt32.le_iff_toNat_le]
  unfold Char.toLower
  split
  next h =>
    have hrange := hcapital.1 h
    have hvalue : c.val.toNat = c.toNat := rfl
    rw [if_pos hrange]
    change (c.val + 0x20).toNat = c.toNat + 0x20
    simp only [UInt32.toNat_add, UInt32.reduceToNat]
    omega
  next h => rw [if_neg fun hrange => h (hcapital.2 hrange)]

theorem isLower_iff {c : Char} : c.isLower ↔ 0x61 ≤ c.toNat ∧ c.toNat ≤ 0x7A := by
  have hlower : c.isLower = (decide (c.val ≥ 'a'.val) && decide (c.val ≤ 'z'.val)) := rfl
  simp [hlower, UInt32.le_iff_toNat_le]

theorem toLower_eq_of_isLower {c : Char} (h : c.isLower) : c.toLower = c := by
  have hrange := isLower_iff.1 h
  rw [← Char.toNat_inj, toNat_toLower, if_neg (by omega)]

theorem isUpper_iff {c : Char} : c.isUpper ↔ 0x41 ≤ c.toNat ∧ c.toNat ≤ 0x5A := by
  have hupper : c.isUpper = decide (c.val ≥ 'A'.val ∧ c.val ≤ 'Z'.val) := rfl
  simp [hupper, UInt32.le_iff_toNat_le]

theorem isLower_toLower_iff {c : Char} : c.toLower.isLower ↔ c.isAlpha := by
  have halpha : c.isAlpha = (c.isUpper || c.isLower) := rfl
  rw [halpha, Bool.or_eq_true, isUpper_iff, isLower_iff, isLower_iff, toNat_toLower]
  split <;> omega

theorem toLower_eq_zero_iff {c : Char} : c.toLower = '0' ↔ c = '0' := by
  simp only [← Char.toNat_inj, toNat_toLower, Char.reduceToNat]
  split <;> omega

theorem toLower_eq_x_iff {c : Char} : c.toLower = 'x' ↔ c = 'x' ∨ c = 'X' := by
  simp only [← Char.toNat_inj, toNat_toLower, Char.reduceToNat]
  split <;> omega

/-- A small letter is moved below all of them. -/
theorem toUpper_ne_x (c : Char) : c.toUpper ≠ 'x' := by
  unfold Char.toUpper
  split
  next h =>
    have hrange : 0x61 ≤ c.toNat ∧ c.toNat ≤ 0x7A := by simpa [UInt32.le_iff_toNat_le] using h
    have hvalue : c.val.toNat = c.toNat := rfl
    rw [ne_eq, ← Char.toNat_inj]
    change ¬ (c.val + 0xFFFFFFE0).toNat = 0x78
    simp only [UInt32.toNat_add, UInt32.reduceToNat]
    omega
  next h =>
    rintro rfl
    exact h (by decide)

end SierraFootprint.Text
