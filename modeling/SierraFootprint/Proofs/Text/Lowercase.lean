import SierraFootprint.Proofs.Text.LetterCase
import SierraFootprint.Proofs.Text.WellFormed
import SierraFootprint.Text.Lowercase

/-!
# Texts with a lowercase form in ASCII

Lowercase of an ASCII text is that of its letters. The other way round, the lowercase form of a
character outside of ASCII holds one outside of ASCII as well, but for the Kelvin sign, which becomes
a `k`. A text without that letter is therefore the lowercase form of ASCII texts alone.
-/
namespace SierraFootprint.Text

/-! ### Single characters -/

/-- A code point stays or is moved by one of the runs. -/
theorem CaseRun.shift_cases (runs : List CaseRun) (n : Nat) :
    shift runs n = n ∨
      ∃ run ∈ runs, run.first ≤ n ∧ n ≤ run.last ∧ shift runs n = run.target + (n - run.first) := by
  induction runs with
  | nil => exact .inl rfl
  | cons run above ih =>
    unfold shift
    split_ifs with hbelow hheld
    · exact .inl rfl
    · exact .inr ⟨run, List.mem_cons_self, by omega, hheld.1, rfl⟩
    · obtain hstays | ⟨other, hother, hmoved⟩ := ih
      · exact .inl hstays
      · exact .inr ⟨other, List.mem_cons_of_mem _ hother, hmoved⟩

/-- No run leads among the surrogates or past the last code point. -/
theorem isValidChar_of_mem_lowercaseRuns : ∀ run ∈ lowercaseRuns,
    run.target + (run.last - run.first) < 0xD800 ∨
      0xE000 ≤ run.target ∧ run.target + (run.last - run.first) < 0x110000 := by
  decide +kernel

/-- The run of the Kelvin sign is the only one that leads from outside of ASCII into it. -/
theorem ascii_of_mem_lowercaseRuns : ∀ run ∈ lowercaseRuns,
    run.last < 0x80 ∨ 0x80 ≤ run.target ∨
      run.first = 0x212A ∧ run.last = 0x212A ∧ run.target = 0x6B := by
  decide +kernel

theorem toNat_lowerChar (c : Char) :
    (lowerChar c).toNat = CaseRun.shift lowercaseRuns c.toNat := by
  rw [lowerChar]
  obtain hstays | ⟨run, hrun, hfirst, hlast, hmoved⟩ := CaseRun.shift_cases lowercaseRuns c.toNat
  · rw [hstays, Char.ofNat_toNat]
  · have hvalid := isValidChar_of_mem_lowercaseRuns run hrun
    rw [hmoved, Utf8.toNat_charOfNat (by omega)]

theorem lowerChar_ascii {c : Char} (h : c.toNat < 0x80) : lowerChar c = c.toLower := by
  have hruns : lowercaseRuns =
      ⟨0x41, 0x5A, 1, 0x61⟩ :: ⟨0xC0, 0xD6, 1, 0xE0⟩ :: lowercaseRuns.drop 2 := rfl
  rw [← Char.toNat_inj, toNat_lowerChar, toNat_toLower, hruns]
  simp only [CaseRun.shift, Nat.mod_one, and_true]
  split_ifs <;> omega

theorem lowerChar_notAscii {c : Char} (h : 0x80 ≤ c.toNat) :
    0x80 ≤ (lowerChar c).toNat ∨ lowerChar c = 'k' := by
  have hk : 'k'.toNat = 0x6B := rfl
  rw [← Char.toNat_inj, toNat_lowerChar, hk]
  obtain hstays | ⟨run, hrun, hfirst, hlast, hmoved⟩ := CaseRun.shift_cases lowercaseRuns c.toNat
  · omega
  · have hascii := ascii_of_mem_lowercaseRuns run hrun
    omega

/-! ### Characters between their neighbours -/

theorem lowerIn_ascii (before after : List Char) {c : Char} (h : c.toNat < 0x80) :
    lowerIn before c after = [c.toLower] := by
  have hsigma : c ≠ 'Σ' := by
    rintro rfl
    exact absurd h (by decide)
  have hdotted : c ≠ 'İ' := by
    rintro rfl
    exact absurd h (by decide)
  rw [lowerIn, if_neg hsigma, if_neg hdotted, lowerChar_ascii h]

theorem exists_mem_lowerIn (before after : List Char) {c : Char} (h : 0x80 ≤ c.toNat) :
    ∃ d ∈ lowerIn before c after, 0x80 ≤ d.toNat ∨ d = 'k' := by
  unfold lowerIn
  split_ifs
  · refine ⟨_, List.mem_singleton_self _, .inl ?_⟩
    unfold lowerSigma
    split_ifs <;> decide
  · exact ⟨'\u0307', by decide, .inl (by decide)⟩
  · exact ⟨_, List.mem_singleton_self _, lowerChar_notAscii h⟩

/-! ### Texts -/

theorem lowerFrom_ascii (before : List Char) {text : List Char} (h : ∀ c ∈ text, c.toNat < 0x80) :
    lowerFrom before text = text.map Char.toLower := by
  induction text generalizing before with
  | nil => rfl
  | cons c after ih =>
    rw [List.forall_mem_cons] at h
    rw [lowerFrom, lowerIn_ascii _ _ h.1, ih _ h.2, List.map_cons, List.singleton_append]

theorem ascii_of_lowerFrom {before text : List Char}
    (h : ∀ d ∈ lowerFrom before text, d.toNat < 0x80 ∧ d ≠ 'k') : ∀ c ∈ text, c.toNat < 0x80 := by
  induction text generalizing before with
  | nil => exact nofun
  | cons c after ih =>
    rw [lowerFrom, List.forall_mem_append] at h
    refine List.forall_mem_cons.2 ⟨?_, ih h.2⟩
    by_contra hc
    obtain ⟨d, hd, hout⟩ := exists_mem_lowerIn before after (Nat.le_of_not_lt hc)
    obtain ⟨hascii, hk⟩ := h.1 d hd
    exact hout.elim (Nat.not_le_of_lt hascii) hk

/-- The lowercase form of a text is a word of small letters other than `k` exactly when the text is
that word but for the case of ASCII letters. -/
theorem lowercase_eq_iff {text word : List Char} (hword : ∀ d ∈ word, d.isLower ∧ d ≠ 'k') :
    lowercase text = word ↔ SameLetters text word := by
  have hsmall : word.map Char.toLower = word := by
    refine (List.map_congr_left fun d hd => ?_).trans (List.map_id word)
    exact toLower_eq_of_isLower (hword d hd).1
  have hascii : ∀ d ∈ word, d.toNat < 0x80 := by
    intro d hd
    have hrange := isLower_iff.1 (hword d hd).1
    omega
  rw [lowercase_eq, SameLetters, hsmall]
  constructor
  · rintro rfl
    exact (lowerFrom_ascii [] (ascii_of_lowerFrom fun d hd => ⟨hascii d hd, (hword d hd).2⟩)).symm
  · rintro rfl
    refine lowerFrom_ascii [] fun c hc => ?_
    have hlower := hascii _ (List.mem_map_of_mem hc)
    rw [toNat_toLower] at hlower
    split at hlower <;> omega

end SierraFootprint.Text
