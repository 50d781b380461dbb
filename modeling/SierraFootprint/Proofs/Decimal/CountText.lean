import SierraFootprint.Decimal.Numeral
import Mathlib.Tactic.Common

/-!
# What a numeral tells, and which texts are counts

A number can be read back from its digits, and the commas of a grouped numeral do not get in the way
of that. A text is read as a count when it is a numeral of a number in range. Every other text is
refused for one reason, which depends on the digits at its front alone.
-/
namespace SierraFootprint.Decimal

/-! ### Digits -/

theorem isDigit_of_mem_digits {n : Nat} {c : Char} (h : c ∈ digits n) : c.isDigit :=
  Nat.isDigit_of_mem_toDigits (by decide) (by decide) h

theorem value_lt_of_isDigit {c : Char} (h : c.isDigit) : c.toNat - 48 < 10 := by
  have h9 : '9'.toNat = 57 := rfl
  rw [Char.isDigit_iff_toNat] at h
  omega

theorem digitChar_of_isDigit {c : Char} (h : c.isDigit) : Nat.digitChar (c.toNat - 48) = c := by
  have h0 : '0'.toNat = 48 := rfl
  apply Char.toNat_inj.1
  rw [Nat.toNat_digitChar_of_lt_ten (value_lt_of_isDigit h)]
  rw [Char.isDigit_iff_toNat] at h
  omega

theorem digits_of_isDigit {c : Char} (h : c.isDigit) : digits (c.toNat - 48) = [c] := by
  rw [digits, Nat.toDigits_of_lt_base (value_lt_of_isDigit h), digitChar_of_isDigit h]

theorem value_pos_of_isDigit {c : Char} (h : c.isDigit) (hc : c ≠ '0') : 0 < c.toNat - 48 := by
  have h0 : '0'.toNat = 48 := rfl
  rw [Char.isDigit_iff_toNat] at h
  rw [ne_eq, ← Char.toNat_inj] at hc
  omega

theorem digits_injective : Function.Injective digits := by
  intro m n h
  calc
    m = Nat.ofDigitChars 10 (digits m) 0 := Nat.ofDigitChars_ten_toDigits.symm
    _ = Nat.ofDigitChars 10 (digits n) 0 := by rw [h]
    _ = n := Nat.ofDigitChars_ten_toDigits

/-! ### Commas -/

/-- Grouping puts in commas and nothing else. -/
theorem filter_groupFromLast {text : List Char} (h : ',' ∉ text) :
    (groupFromLast text).filter (· ≠ ',') = text := by
  fun_induction groupFromLast text with
  | case1 a b c d rest ih =>
    simp only [List.mem_cons, not_or] at h
    obtain ⟨ha, hb, hc, hd, hrest⟩ := h
    have htail : ',' ∉ d :: rest := by simp [hd, hrest]
    have hkept := ih htail
    simp only [ne_eq, decide_not] at hkept
    simp [hkept, Ne.symm ha, Ne.symm hb, Ne.symm hc]
  | case2 few =>
    refine List.filter_eq_self.2 fun c hc => ?_
    simpa using ne_of_mem_of_not_mem hc h

theorem mem_groupFromLast {text : List Char} {c : Char} (h : c ∈ groupFromLast text) :
    c ∈ text ∨ c = ',' := by
  fun_induction groupFromLast text with
  | case1 a b c d rest ih => grind
  | case2 few => exact .inl h

theorem mem_groupedText {n : Nat} {c : Char} (h : c ∈ groupedText n) : c.isDigit ∨ c = ',' := by
  obtain hdigit | hcomma := mem_groupFromLast (List.mem_reverse.1 h)
  · exact .inl (isDigit_of_mem_digits (List.mem_reverse.1 hdigit))
  · exact .inr hcomma

theorem filter_groupedText (n : Nat) : (groupedText n).filter (· ≠ ',') = digits n := by
  have hcomma : ',' ∉ (digits n).reverse := by
    intro h
    exact absurd (isDigit_of_mem_digits (List.mem_reverse.1 h)) (by decide)
  rw [groupedText, List.filter_reverse, filter_groupFromLast hcomma, List.reverse_reverse]

theorem groupedText_injective : Function.Injective groupedText := by
  intro m n h
  apply digits_injective
  rw [← filter_groupedText m, h, filter_groupedText]

/-! ### Counts -/

/-- Decimal digits only. -/
def Digits (text : List Char) : Prop :=
  ∀ c ∈ text, c.isDigit

/-- A text without the plus sign that may stand in front. -/
def Unsigned (text body : List Char) : Prop :=
  text = body ∨ text = '+' :: body

/-- A numeral of a number: one digit or more, with any number of zeros in front. -/
def IsCount (n : Nat) (text : List Char) : Prop :=
  ∃ ds, Unsigned text ds ∧ ds ≠ [] ∧ Digits ds ∧ Nat.ofDigitChars 10 ds 0 = n

/-- The digits at the front of a text already make up a number that is out of range. -/
def StartsTooLarge (text : List Char) : Prop :=
  ∃ ds rest, Unsigned text (ds ++ rest) ∧ Digits ds ∧ countBound ≤ Nat.ofDigitChars 10 ds 0

theorem digits_cons {c : Char} {text : List Char} :
    Digits (c :: text) ↔ c.isDigit ∧ Digits text := by
  simp [Digits]

theorem digits_append_iff {a b : List Char} : Digits (a ++ b) ↔ Digits a ∧ Digits b := by
  simp only [Digits, List.mem_append, or_imp, forall_and]

/-! ### Digits from the left -/

theorem readDigits_digit {c : Char} (hc : c.isDigit) (n : Nat) (text : List Char) :
    readDigits n (c :: text) =
      if 10 * n + (c.toNat - 48) < countBound then readDigits (10 * n + (c.toNat - 48)) text
      else .error .tooLarge := by
  simp [readDigits, digitValue?, hc, Nat.mul_comm]

theorem readDigits_other {c : Char} (hc : ¬ c.isDigit) (n : Nat) (text : List Char) :
    readDigits n (c :: text) = .error .invalidDigit := by
  simp [readDigits, digitValue?, hc]

theorem ofDigitChars_cons (c : Char) (text : List Char) (n : Nat) :
    Nat.ofDigitChars 10 (c :: text) n = Nat.ofDigitChars 10 text (10 * n + (c.toNat - 48)) :=
  Nat.ofDigitChars_cons

theorem le_ofDigitChars (text : List Char) (n : Nat) : n ≤ Nat.ofDigitChars 10 text n := by
  induction text generalizing n with
  | nil => exact Nat.le_refl n
  | cons c text ih =>
    have h := ih (10 * n + (c.toNat - 48))
    rw [ofDigitChars_cons]
    omega

theorem readDigits_eq_ok_iff {n m : Nat} {text : List Char} (hn : n < countBound) :
    readDigits n text = .ok m ↔
      Digits text ∧ Nat.ofDigitChars 10 text n = m ∧ m < countBound := by
  induction text generalizing n with
  | nil =>
    simp only [readDigits, Except.ok.injEq, Digits, List.not_mem_nil, false_implies, implies_true,
      Nat.ofDigitChars_nil, true_and]
    exact ⟨fun h => ⟨h, h ▸ hn⟩, fun h => h.1⟩
  | cons c text ih =>
    by_cases hc : c.isDigit
    · rw [readDigits_digit hc, ofDigitChars_cons, digits_cons]
      split
      next hlt => simp [ih hlt, hc]
      next hge =>
        -- More digits never make the number smaller.
        have hle := le_ofDigitChars text (10 * n + (c.toNat - 48))
        constructor
        · intro h
          cases h
        · rintro ⟨-, rfl, hlt⟩
          omega
    · simp [readDigits_other hc, digits_cons, hc]

theorem readDigits_eq_tooLarge_iff {n : Nat} {text : List Char} (hn : n < countBound) :
    readDigits n text = .error .tooLarge ↔
      ∃ ds rest, text = ds ++ rest ∧ Digits ds ∧ countBound ≤ Nat.ofDigitChars 10 ds n := by
  induction text generalizing n with
  | nil =>
    constructor
    · intro h
      cases h
    · rintro ⟨ds, rest, hnil, -, hle⟩
      obtain ⟨rfl, rfl⟩ := List.append_eq_nil_iff.1 hnil.symm
      exact absurd hle (Nat.not_le_of_lt hn)
  | cons c text ih =>
    by_cases hc : c.isDigit
    · rw [readDigits_digit hc]
      split
      next hlt =>
        rw [ih hlt]
        constructor
        · rintro ⟨ds, rest, rfl, hds, hle⟩
          exact ⟨c :: ds, rest, rfl, digits_cons.2 ⟨hc, hds⟩, hle⟩
        · rintro ⟨ds, rest, htext, hds, hle⟩
          obtain ⟨rfl, rfl⟩ | ⟨ds, rfl, rfl⟩ := List.cons_eq_append_iff.1 htext
          · exact absurd hle (Nat.not_le_of_lt hn)
          · exact ⟨ds, rest, rfl, (digits_cons.1 hds).2, hle⟩
      next hge =>
        exact iff_of_true rfl ⟨[c], text, rfl, by simpa [Digits] using hc, Nat.le_of_not_lt hge⟩
    · rw [readDigits_other hc]
      constructor
      · intro h
        cases h
      · rintro ⟨ds, rest, htext, hds, hle⟩
        obtain ⟨rfl, rfl⟩ | ⟨ds, rfl, rfl⟩ := List.cons_eq_append_iff.1 htext
        · exact absurd hle (Nat.not_le_of_lt hn)
        · exact absurd (digits_cons.1 hds).1 hc

theorem readDigits_ne_empty (n : Nat) (text : List Char) : readDigits n text ≠ .error .empty := by
  induction text generalizing n with
  | nil => exact nofun
  | cons c text ih =>
    by_cases hc : c.isDigit
    · rw [readDigits_digit hc]
      split
      · exact ih _
      · exact nofun
    · rw [readDigits_other hc]
      exact nofun

/-! ### Whole texts -/

/-- What is read as digits: the text, or what follows a plus sign in front of it. -/
def IsBody (text body : List Char) : Prop :=
  text = '+' :: body ∨ text = body ∧ ∀ rest, text ≠ '+' :: rest

/-- A sign that nothing follows is refused. -/
theorem readCount_cases (text : List Char) :
    text = [] ∧ readCount text = .error .empty ∨
      text = ['+'] ∧ readCount text = .error .invalidDigit ∨
      ∃ body, IsBody text body ∧ body ≠ [] ∧ readCount text = readDigits 0 body := by
  unfold readCount
  split
  · exact .inl ⟨rfl, rfl⟩
  · exact .inr (.inl ⟨rfl, rfl⟩)
  · next body hbody => exact .inr (.inr ⟨body, .inl rfl, by simpa using hbody, rfl⟩)
  · next hnil _ hsign => exact .inr (.inr ⟨text, .inr ⟨rfl, hsign⟩, hnil, rfl⟩)

/-- A sign is no digit, so that a text that has a digit behind the sign it may have is read from
that digit on. -/
theorem IsBody.unsigned_iff {text body : List Char} (h : IsBody text body) {c : Char}
    (hc : c.isDigit) (ds : List Char) : Unsigned text (c :: ds) ↔ body = c :: ds := by
  have hplus : c ≠ '+' := fun he => absurd (he ▸ hc) (by decide)
  obtain rfl | ⟨rfl, hsign⟩ := h
  · simp [Unsigned, hplus.symm]
  · simp [Unsigned, hsign]

theorem not_unsigned_of_short {text : List Char} (h : text = [] ∨ text = ['+']) {c : Char}
    (hc : c.isDigit) (ds : List Char) : ¬ Unsigned text (c :: ds) := by
  have hplus : c ≠ '+' := fun he => absurd (he ▸ hc) (by decide)
  obtain rfl | rfl := h <;> simp [Unsigned, hplus.symm]

/-- The digits of a number that is out of range are at least one. -/
theorem ne_nil_of_countBound_le {ds : List Char} (h : countBound ≤ Nat.ofDigitChars 10 ds 0) :
    ds ≠ [] := by
  rintro rfl
  exact absurd h (by decide)

theorem not_isCount_of_short {text : List Char} (h : text = [] ∨ text = ['+']) (n : Nat) :
    ¬ IsCount n text := by
  rintro ⟨ds, hds, hnil, hdigits, -⟩
  obtain ⟨c, ds, rfl⟩ := List.exists_cons_of_ne_nil hnil
  exact not_unsigned_of_short h (digits_cons.1 hdigits).1 ds hds

theorem not_startsTooLarge_of_short {text : List Char} (h : text = [] ∨ text = ['+']) :
    ¬ StartsTooLarge text := by
  rintro ⟨ds, rest, hds, hdigits, hle⟩
  obtain ⟨c, ds, rfl⟩ := List.exists_cons_of_ne_nil (ne_nil_of_countBound_le hle)
  exact not_unsigned_of_short h (digits_cons.1 hdigits).1 (ds ++ rest) hds

theorem IsBody.isCount_iff {text body : List Char} (h : IsBody text body) (hne : body ≠ [])
    (n : Nat) : IsCount n text ↔ Digits body ∧ Nat.ofDigitChars 10 body 0 = n := by
  constructor
  · rintro ⟨ds, hds, hnil, hdigits, hn⟩
    obtain ⟨c, ds, rfl⟩ := List.exists_cons_of_ne_nil hnil
    rw [(h.unsigned_iff (digits_cons.1 hdigits).1 ds).1 hds]
    exact ⟨hdigits, hn⟩
  · rintro ⟨hdigits, hn⟩
    obtain ⟨c, ds, rfl⟩ := List.exists_cons_of_ne_nil hne
    exact ⟨c :: ds, (h.unsigned_iff (digits_cons.1 hdigits).1 ds).2 rfl, hne, hdigits, hn⟩

theorem IsBody.startsTooLarge_iff {text body : List Char} (h : IsBody text body) :
    StartsTooLarge text ↔
      ∃ ds rest, body = ds ++ rest ∧ Digits ds ∧ countBound ≤ Nat.ofDigitChars 10 ds 0 := by
  constructor
  · rintro ⟨ds, rest, hds, hdigits, hle⟩
    obtain ⟨c, ds, rfl⟩ := List.exists_cons_of_ne_nil (ne_nil_of_countBound_le hle)
    exact ⟨_, rest, (h.unsigned_iff (digits_cons.1 hdigits).1 _).1 hds, hdigits, hle⟩
  · rintro ⟨ds, rest, hbody, hdigits, hle⟩
    obtain ⟨c, ds, rfl⟩ := List.exists_cons_of_ne_nil (ne_nil_of_countBound_le hle)
    exact ⟨_, rest, (h.unsigned_iff (digits_cons.1 hdigits).1 _).2 hbody, hdigits, hle⟩

/-- A text is read as a count exactly when it is a numeral of a number in range. -/
theorem readCount_eq_ok_iff {text : List Char} {n : Nat} :
    readCount text = .ok n ↔ IsCount n text ∧ n < countBound := by
  obtain ⟨htext, hread⟩ | ⟨htext, hread⟩ | ⟨body, hbody, hne, hread⟩ := readCount_cases text
  · simp [hread, not_isCount_of_short (.inl htext)]
  · simp [hread, not_isCount_of_short (.inr htext)]
  · rw [hread, readDigits_eq_ok_iff (by decide), hbody.isCount_iff hne, and_assoc]

/-- A text that is no count is empty, starts too large, or has a character that does not fit. -/
theorem readCount_eq_error {text : List Char} {e : CountError} (h : readCount text = .error e) :
    (e = .empty ↔ text = []) ∧ (e = .tooLarge ↔ StartsTooLarge text) := by
  obtain ⟨htext, hread⟩ | ⟨htext, hread⟩ | ⟨body, hbody, hne, hread⟩ := readCount_cases text
  · obtain rfl : CountError.empty = e := Except.error.inj (hread.symm.trans h)
    simp [htext, not_startsTooLarge_of_short]
  · obtain rfl : CountError.invalidDigit = e := Except.error.inj (hread.symm.trans h)
    simp [htext, not_startsTooLarge_of_short]
  · have hdigits := hread.symm.trans h
    have hlarge : readDigits 0 body = .error .tooLarge ↔ _ :=
      readDigits_eq_tooLarge_iff (by decide)
    rw [hdigits, Except.error.injEq, ← hbody.startsTooLarge_iff] at hlarge
    refine ⟨iff_of_false ?_ ?_, hlarge⟩
    · rintro rfl
      exact readDigits_ne_empty 0 body hdigits
    · rintro rfl
      obtain htext | ⟨rfl, -⟩ := hbody
      · cases htext
      · exact hne rfl

end SierraFootprint.Decimal
