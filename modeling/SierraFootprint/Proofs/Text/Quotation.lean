import SierraFootprint.Proofs.Text.Lines

/-!
# What a quotation tells

A quoted text can be read back, whatever stands in it and whatever follows the closing quote: each
character shows in its own form, and the closing quote is the first one that is not escaped.
-/
namespace SierraFootprint.Text

/-- The value of a hexadecimal digit in lowercase. -/
def hexDigitValue (c : Char) : Nat :=
  (List.range 16).findIdx fun d => Nat.digitChar d == c

/-- The number that hexadecimal digits stand for. -/
def hexValue (digits : List Char) : Nat :=
  digits.foldl (fun n c => n * 16 + hexDigitValue c) 0

theorem hexDigitValue_digitChar : ∀ d < 16, hexDigitValue (Nat.digitChar d) = d := by
  decide

theorem hexValue_toDigits (n : Nat) : hexValue (Nat.toDigits 16 n) = n := by
  induction n using Nat.strongRecOn with
  | ind n ih =>
    rw [Nat.toDigits_eq_if (by decide)]
    split
    next hn => simpa [hexValue] using hexDigitValue_digitChar n hn
    next hn =>
      have hfront := ih (n / 16) (Nat.div_lt_self (by omega) (by decide))
      have hlast := hexDigitValue_digitChar (n % 16) (Nat.mod_lt n (by decide))
      rw [hexValue, List.foldl_append, ← hexValue, hfront, List.foldl_cons, hlast, List.foldl_nil]
      omega

/-- The character that a short escape stands for. -/
def ofShortEscape (c : Char) : Char :=
  if c = '0' then '\x00' else if c = 't' then '\t' else if c = 'n' then '\n'
  else if c = 'r' then '\r' else c

/-- The first character inside the quotes, and what comes behind its form there. None is left at the
closing quote. -/
def readInside : List Char → Option (Char × List Char)
  | [] => none
  | '"' :: _ => none
  | '\\' :: 'u' :: '\x7b' :: rest =>
    some (Char.ofNat (hexValue (rest.takeWhile (· ≠ '\x7d'))),
      (rest.dropWhile (· ≠ '\x7d')).tail)
  | '\\' :: c :: rest => some (ofShortEscape c, rest)
  | c :: rest => some (c, rest)

theorem readInside_plain {c : Char} (hquote : c ≠ '"') (hbackslash : c ≠ '\\') (rest : List Char) :
    readInside (c :: rest) = some (c, rest) := by
  unfold readInside
  split <;> simp_all

theorem digitChar_ne_brace : ∀ d < 16, Nat.digitChar d ≠ '\x7d' := by
  decide

theorem readInside_codePointEscape (c : Char) (rest : List Char) :
    readInside (codePointEscape c ++ rest) = some (c, rest) := by
  have hdigits : ∀ d ∈ Nat.toDigits 16 c.toNat, decide (d ≠ '\x7d') = true := by
    intro d hd
    obtain ⟨n, hn, rfl⟩ := exists_of_mem_toDigits (by decide) hd
    exact decide_eq_true (digitChar_ne_brace n hn)
  simp only [codePointEscape, List.cons_append, List.nil_append, List.append_assoc, readInside]
  rw [List.takeWhile_append_of_pos hdigits, List.dropWhile_append_of_pos hdigits]
  simp [hexValue_toDigits]

/-- Each character is read back from its form. -/
theorem readInside_escapeChar (c : Char) (rest : List Char) :
    readInside (escapeChar c ++ rest) = some (c, rest) := by
  unfold escapeChar
  split_ifs with h0 ht hn hr hquote hbackslash
  · rw [h0]; rfl
  · rw [ht]; rfl
  · rw [hn]; rfl
  · rw [hr]; rfl
  · rw [hquote]; rfl
  · rw [hbackslash]; rfl
  · exact readInside_codePointEscape c rest
  · exact readInside_plain hquote hbackslash rest

/-- The induction is on one of the texts, whose characters are read back one by one in both. -/
theorem inside_append_inj {a b s t : List Char}
    (h : a.flatMap escapeChar ++ '"' :: s = b.flatMap escapeChar ++ '"' :: t) :
    a = b ∧ s = t := by
  induction a generalizing b with
  | nil =>
    cases b with
    | nil => simpa using h
    | cons d b =>
      have hread := congrArg readInside h
      rw [List.flatMap_cons, List.append_assoc, readInside_escapeChar] at hread
      cases hread
  | cons c a ih =>
    have hread := congrArg readInside h
    rw [List.flatMap_cons, List.append_assoc, readInside_escapeChar] at hread
    cases b with
    | nil => cases hread
    | cons d b =>
      rw [List.flatMap_cons, List.append_assoc, readInside_escapeChar] at hread
      obtain ⟨rfl, hrest⟩ := Prod.mk.inj (Option.some.inj hread)
      obtain ⟨rfl, rfl⟩ := ih hrest
      exact ⟨rfl, rfl⟩

/-- What is quoted, and what follows the quotation, can be told from the whole. -/
theorem quote_append_inj {a b s t : List Char} (h : quote a ++ s = quote b ++ t) :
    a = b ∧ s = t :=
  inside_append_inj (by simpa [quote] using h)

end SierraFootprint.Text
