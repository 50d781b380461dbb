import SierraFootprint.Proofs.Decimal.CountText
import Mathlib.Data.List.Basic
import Mathlib.Data.List.Flatten

/-!
# Numerals in groups

A number has one numeral without leading zeros, and digits can be put into groups of three in one
way. The groups are counted from the last digit, but a text of them is read from the first one, which
is the only one that may be shorter.
-/
namespace SierraFootprint.Decimal

/-! ### Numerals without leading zeros -/

/-- The decimal numeral of a number, which begins with a zero only if it is nothing else. -/
structure IsNumeral (n : Nat) (ds : List Char) : Prop where
  isDigit : Digits ds
  ne_nil : ds ≠ []
  value_eq : Nat.ofDigitChars 10 ds 0 = n
  eq_zero : ds.head? = some '0' → ds = ['0']

theorem Digits.filter_comma {text : List Char} (h : Digits text) :
    text.filter (· ≠ ',') = text := by
  refine List.filter_eq_self.2 fun c hc => ?_
  have hdigit := h c hc
  rw [decide_eq_true_iff]
  rintro rfl
  exact absurd hdigit (by decide)

/-- Digits after a numeral continue it, as long as it is not zero. -/
theorem digits_append {n : Nat} (hn : 0 < n) {ds : List Char} (h : Digits ds) :
    digits n ++ ds = digits (Nat.ofDigitChars 10 ds n) := by
  induction ds generalizing n with
  | nil => simp
  | cons c ds ih =>
    obtain ⟨hc, hds⟩ := digits_cons.1 h
    have hone : digits (c.toNat - 48) = [c] := digits_of_isDigit hc
    have hstep : digits n ++ digits (c.toNat - 48) = digits (10 * n + (c.toNat - 48)) :=
      Nat.toDigits_append_toDigits (by decide) hn (value_lt_of_isDigit hc)
    calc
      digits n ++ c :: ds = digits n ++ digits (c.toNat - 48) ++ ds := by simp [hone]
      _ = digits (10 * n + (c.toNat - 48)) ++ ds := by rw [hstep]
      _ = digits (Nat.ofDigitChars 10 ds (10 * n + (c.toNat - 48))) := ih (by omega) hds
      _ = digits (Nat.ofDigitChars 10 (c :: ds) n) := by rw [ofDigitChars_cons]

theorem eq_zero_of_head?_digits {n : Nat} (h : (digits n).head? = some '0') : n = 0 := by
  induction n using Nat.strongRecOn with
  | ind n ih =>
    rw [digits, Nat.toDigits_eq_if (by decide)] at h
    split at h
    next hlt => simpa using h
    next hge =>
      -- The first digit of a longer numeral is that of the numeral without its last digit.
      rw [List.head?_append_of_ne_nil _ Nat.toDigits_ne_nil] at h
      have hfront := ih (n / 10) (by omega) h
      omega

theorem isNumeral_digits (n : Nat) : IsNumeral n (digits n) where
  isDigit := fun _ => isDigit_of_mem_digits
  ne_nil := Nat.toDigits_ne_nil
  value_eq := Nat.ofDigitChars_ten_toDigits
  eq_zero := fun h => by
    rw [eq_zero_of_head?_digits h]
    rfl

theorem IsNumeral.eq_digits {n : Nat} {ds : List Char} (h : IsNumeral n ds) : ds = digits n := by
  obtain ⟨hdigits, hne, rfl, hzero⟩ := h
  obtain ⟨c, ds, rfl⟩ := List.exists_cons_of_ne_nil hne
  obtain ⟨hc, hds⟩ := digits_cons.1 hdigits
  by_cases hfirst : c = '0'
  · subst hfirst
    rw [hzero rfl]
    rfl
  · have hpos : 0 < c.toNat - 48 := value_pos_of_isDigit hc hfirst
    calc
      c :: ds = digits (c.toNat - 48) ++ ds := by rw [digits_of_isDigit hc, List.singleton_append]
      _ = digits (Nat.ofDigitChars 10 ds (c.toNat - 48)) := digits_append hpos hds
      _ = digits (Nat.ofDigitChars 10 (c :: ds) 0) := by rw [ofDigitChars_cons, Nat.mul_zero,
        Nat.zero_add]

theorem isNumeral_iff {n : Nat} {ds : List Char} : IsNumeral n ds ↔ ds = digits n := by
  constructor
  · exact IsNumeral.eq_digits
  · rintro rfl
    exact isNumeral_digits n

/-! ### Groups -/

/-- Digits in groups of three, of which the first one may be shorter. -/
@[ext]
structure Grouping where
  first : List Char
  others : List (List Char)
  isDigit : Digits (first ++ others.flatten)
  one_le_first : 1 ≤ first.length
  first_le_three : first.length ≤ 3
  others_eq_three : ∀ group ∈ others, group.length = 3

namespace Grouping

/-- The groups with a comma in front of each one but the first. -/
def text (g : Grouping) : List Char :=
  g.first ++ g.others.flatMap (',' :: ·)

/-- Few digits are a group by themselves. -/
def single (few : List Char) (h : Digits few) (hne : few ≠ []) (hfew : few.length ≤ 3) :
    Grouping where
  first := few
  others := []
  isDigit := by simpa using h
  one_le_first := List.length_pos_iff.2 hne
  first_le_three := hfew
  others_eq_three := by simp

/-- One more group at the end. -/
def push (g : Grouping) (a b c : Char) (h : Digits [a, b, c]) : Grouping where
  first := g.first
  others := g.others ++ [[a, b, c]]
  isDigit := by
    rw [List.flatten_append, List.flatten_singleton, ← List.append_assoc]
    exact digits_append_iff.2 ⟨g.isDigit, h⟩
  one_le_first := g.one_le_first
  first_le_three := g.first_le_three
  others_eq_three := by simpa [or_imp, forall_and] using g.others_eq_three

theorem text_single {few : List Char} (h : Digits few) (hne : few ≠ []) (hfew : few.length ≤ 3) :
    (single few h hne hfew).text = few := by
  simp [text, single]

theorem text_push (g : Grouping) (a b c : Char) (h : Digits [a, b, c]) :
    (g.push a b c h).text = g.text ++ [',', a, b, c] := by
  simp [text, push]

/-- Without the commas the digits are left. -/
theorem filter_text (g : Grouping) : g.text.filter (· ≠ ',') = g.first ++ g.others.flatten := by
  obtain ⟨hfirst, hothers⟩ := digits_append_iff.1 g.isDigit
  have hgroup : ∀ group ∈ g.others, (',' :: group).filter (· ≠ ',') = group := by
    intro group hmem
    have hdigits : Digits group := fun c hc => hothers c (List.mem_flatten_of_mem hmem hc)
    rw [List.filter_cons_of_neg (by simp), hdigits.filter_comma]
  rw [text, List.filter_append, hfirst.filter_comma, List.filter_flatMap,
    List.flatMap_congr hgroup, List.flatMap_id']

theorem map_length_others (g : Grouping) :
    g.others.map List.length = List.replicate g.others.length 3 := by
  rw [List.map_congr_left g.others_eq_three, List.map_const']

/-- The number of digits tells how many groups there are, as the first one is never empty. -/
theorem lengths_eq {g g' : Grouping}
    (h : (g.first ++ g.others.flatten).length = (g'.first ++ g'.others.flatten).length) :
    g.others.length = g'.others.length ∧ g.first.length = g'.first.length := by
  have hlength : ∀ g : Grouping, g.others.flatten.length = g.others.length * 3 := by
    intro g
    rw [List.length_flatten, map_length_others, List.sum_replicate_nat]
  rw [List.length_append, List.length_append, hlength, hlength] at h
  have := g.one_le_first
  have := g.first_le_three
  have := g'.one_le_first
  have := g'.first_le_three
  omega

/-- Digits can be put into groups in one way. -/
theorem eq_of_filter_text {g g' : Grouping}
    (h : g.text.filter (· ≠ ',') = g'.text.filter (· ≠ ',')) : g = g' := by
  rw [filter_text, filter_text] at h
  obtain ⟨hcount, hlength⟩ := lengths_eq (congrArg List.length h)
  obtain ⟨hfirst, hothers⟩ := List.append_inj h hlength
  have hlengths : g.others.map List.length = g'.others.map List.length := by
    rw [map_length_others, map_length_others, hcount]
  exact Grouping.ext hfirst (List.eq_iff_flatten_eq.2 ⟨hothers, hlengths⟩)

end Grouping

/-- The induction is on the pass from the last digit, which ends in the first group. -/
theorem exists_grouping_groupFromLast {text : List Char} (h : Digits text) (hne : text ≠ []) :
    ∃ g : Grouping, (groupFromLast text).reverse = g.text := by
  fun_induction groupFromLast text with
  | case1 a b c d rest ih =>
    have hparts : Digits [c, b, a] ∧ Digits (d :: rest) := by
      simp only [digits_cons] at h ⊢
      tauto
    obtain ⟨g, hg⟩ := ih hparts.2 (by simp)
    refine ⟨g.push c b a hparts.1, ?_⟩
    rw [Grouping.text_push, ← hg]
    simp
  | case2 few hfew =>
    have hlength : few.length ≤ 3 := by
      obtain _ | ⟨a, _ | ⟨b, _ | ⟨c, _ | ⟨d, rest⟩⟩⟩⟩ := few
      · simp
      · simp
      · simp
      · simp
      · exact (hfew a b c d rest rfl).elim
    have hdigits : Digits few.reverse := fun c hc => h c (List.mem_reverse.1 hc)
    exact ⟨.single few.reverse hdigits (by simpa using hne) (by simpa using hlength),
      (Grouping.text_single _ _ _).symm⟩

theorem exists_grouping (n : Nat) : ∃ g : Grouping, groupedText n = g.text := by
  apply exists_grouping_groupFromLast
  · exact fun c hc => isDigit_of_mem_digits (List.mem_reverse.1 hc)
  · exact mt List.reverse_eq_nil_iff.1 Nat.toDigits_ne_nil

end SierraFootprint.Decimal
