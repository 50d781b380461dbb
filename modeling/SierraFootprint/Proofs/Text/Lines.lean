import SierraFootprint.Decimal.Numeral
import SierraFootprint.Text.Quoted
import Mathlib.Data.List.Basic
import Mathlib.Tactic.Common

/-!
# Lines, and texts without control characters

A text of whole lines at the front of another text is determined by its number of lines. Numerals and
quoted texts hold no control character, and so no line end, whatever number or text they stand for.
-/
namespace SierraFootprint.Text

/-! ### Lines -/

/-- A text that is a number of lines, each with its end. -/
def IsLines (count : Nat) (text : List Char) : Prop :=
  ∃ lines : List (List Char), lines.length = count ∧ (∀ line ∈ lines, '\n' ∉ line) ∧
    text = lines.flatMap (· ++ ['\n'])

theorem isLines_one {line : List Char} (h : '\n' ∉ line) : IsLines 1 (line ++ ['\n']) :=
  ⟨[line], rfl, by simpa using h, by simp⟩

theorem IsLines.append {m n : Nat} {a b : List Char} (ha : IsLines m a) (hb : IsLines n b) :
    IsLines (m + n) (a ++ b) := by
  obtain ⟨as, rfl, has, rfl⟩ := ha
  obtain ⟨bs, rfl, hbs, rfl⟩ := hb
  refine ⟨as ++ bs, List.length_append, ?_, List.flatMap_append.symm⟩
  intro line hline
  exact (List.mem_append.1 hline).elim (has line) (hbs line)

/-- The first line end decides where the first line ends. -/
theorem line_append_inj {a b s t : List Char} (ha : '\n' ∉ a) (hb : '\n' ∉ b)
    (h : a ++ '\n' :: s = b ++ '\n' :: t) : a = b ∧ s = t := by
  induction a generalizing b with
  | nil =>
    cases b with
    | nil => simpa using h
    | cons d b =>
      rw [List.nil_append, List.cons_append] at h
      exact absurd (List.mem_cons.2 (.inl (List.head_eq_of_cons_eq h))) hb
  | cons c a ih =>
    cases b with
    | nil =>
      rw [List.nil_append, List.cons_append] at h
      exact absurd (List.mem_cons.2 (.inl (List.head_eq_of_cons_eq h).symm)) ha
    | cons d b =>
      obtain ⟨rfl, htail⟩ := List.cons_eq_cons.1 h
      obtain ⟨rfl, rfl⟩ :=
        ih (List.not_mem_of_not_mem_cons ha) (List.not_mem_of_not_mem_cons hb) htail
      exact ⟨rfl, rfl⟩

theorem IsLines.append_inj {n : Nat} {a b s t : List Char} (ha : IsLines n a) (hb : IsLines n b)
    (h : a ++ s = b ++ t) : a = b ∧ s = t := by
  obtain ⟨as, rfl, has, rfl⟩ := ha
  obtain ⟨bs, hlength, hbs, rfl⟩ := hb
  induction as generalizing bs with
  | nil =>
    obtain rfl := List.length_eq_zero_iff.1 hlength
    exact ⟨rfl, by simpa using h⟩
  | cons a as ih =>
    obtain ⟨b, bs, rfl⟩ := List.exists_cons_of_length_eq_add_one hlength
    rw [List.forall_mem_cons] at has hbs
    have hfirst : a ++ '\n' :: (as.flatMap (· ++ ['\n']) ++ s) =
        b ++ '\n' :: (bs.flatMap (· ++ ['\n']) ++ t) := by simpa using h
    obtain ⟨rfl, hrest⟩ := line_append_inj has.1 hbs.1 hfirst
    obtain ⟨hlines, rfl⟩ := ih has.2 bs (by simpa using hlength) hbs.2 hrest
    exact ⟨by simp only [List.flatMap_cons, hlines], rfl⟩

/-! ### Control characters -/

/-- The general category Cc. -/
def Control (c : Char) : Prop :=
  c.toNat < 0x20 ∨ 0x7F ≤ c.toNat ∧ c.toNat ≤ 0x9F

instance : DecidablePred Control :=
  fun c => inferInstanceAs (Decidable (c.toNat < 0x20 ∨ 0x7F ≤ c.toNat ∧ c.toNat ≤ 0x9F))

/-- Every control character of a text is one of a source. -/
def ControlsFrom (source text : List Char) : Prop :=
  ∀ c ∈ text, Control c → c ∈ source

/-- No control characters at all. -/
def ControlFree (text : List Char) : Prop :=
  ∀ c ∈ text, ¬ Control c

instance (text : List Char) : Decidable (ControlFree text) :=
  List.decidableBAll (fun c => ¬ Control c) text

@[simp] theorem controlFree_nil : ControlFree [] := by
  simp [ControlFree]

@[simp] theorem controlFree_cons {c : Char} {text : List Char} :
    ControlFree (c :: text) ↔ ¬ Control c ∧ ControlFree text := by
  simp [ControlFree]

@[simp] theorem controlFree_append {a b : List Char} :
    ControlFree (a ++ b) ↔ ControlFree a ∧ ControlFree b := by
  simp only [ControlFree, List.mem_append, or_imp, forall_and]

theorem ControlFree.mono {a b : List Char} (h : ControlFree b) (hsub : a ⊆ b) : ControlFree a :=
  fun c hc => h c (hsub hc)

theorem controlFree_ofList {text : List Char} (h : ControlFree text) :
    ControlFree (String.ofList text).toList := by
  rwa [String.toList_ofList]

theorem ControlFree.controlsFrom {text : List Char} (h : ControlFree text) (source : List Char) :
    ControlsFrom source text :=
  fun c hc hcontrol => absurd hcontrol (h c hc)

theorem controlsFrom_self (text : List Char) : ControlsFrom text text :=
  fun _ hc _ => hc

theorem ControlsFrom.append {source a b : List Char} (ha : ControlsFrom source a)
    (hb : ControlsFrom source b) : ControlsFrom source (a ++ b) :=
  fun c hc hcontrol => (List.mem_append.1 hc).elim (ha c · hcontrol) (hb c · hcontrol)

/-! ### Numerals -/

theorem exists_of_mem_toDigits {base : Nat} (h : 1 < base) {n : Nat} {c : Char}
    (hc : c ∈ Nat.toDigits base n) : ∃ d < base, c = Nat.digitChar d := by
  induction n using Nat.strongRecOn with
  | ind n ih =>
    rw [Nat.toDigits_eq_if h] at hc
    split at hc
    next hn => exact ⟨n, hn, List.mem_singleton.1 hc⟩
    next hn =>
      obtain hfront | hlast := List.mem_append.1 hc
      · exact ih _ (Nat.div_lt_self (by omega) h) hfront
      · exact ⟨n % base, Nat.mod_lt n (by omega), List.mem_singleton.1 hlast⟩

theorem not_control_digitChar : ∀ d < 16, ¬ Control (Nat.digitChar d) := by
  decide

theorem controlFree_toDigits {base : Nat} (hlow : 1 < base) (hhigh : base ≤ 16) (n : Nat) :
    ControlFree (Nat.toDigits base n) := by
  intro c hc
  obtain ⟨d, hd, rfl⟩ := exists_of_mem_toDigits hlow hc
  exact not_control_digitChar d (by omega)

theorem controlFree_digits (n : Nat) : ControlFree (Decimal.digits n) :=
  controlFree_toDigits (by decide) (by decide) n

theorem controlFree_numeral (n : Nat) : ControlFree (Decimal.numeral n).toList := by
  rw [Decimal.toList_numeral]
  exact controlFree_digits n

/-! ### Quoted texts -/

theorem isUnprintable_of_control {c : Char} (h : Control c) : isUnprintable c := by
  have hranges : unprintableRanges =
      (0x0, 0x1F) :: (0x7F, 0xA0) :: unprintableRanges.drop 2 := rfl
  unfold Control at h
  rw [isUnprintable, CodeRanges.has, hranges, CodeRanges.holds_cons, CodeRanges.holds_cons]
  omega

/-- Every control character is escaped. -/
theorem controlFree_escapeChar (c : Char) : ControlFree (escapeChar c) := by
  unfold escapeChar
  split_ifs with _ _ _ _ _ _ hhidden
  iterate 6 exact by decide
  · rw [codePointEscape, controlFree_append, controlFree_append]
    exact ⟨⟨by decide, controlFree_toDigits (by decide) (by decide) c.toNat⟩, by decide⟩
  · have hc : ¬ Control c := fun h => hhidden (by simp [isUnprintable_of_control h])
    simpa using hc

theorem controlFree_quote (text : List Char) : ControlFree (quote text) := by
  intro c hc
  rw [quote, List.mem_cons, List.mem_append, List.mem_flatMap, List.mem_singleton] at hc
  obtain rfl | ⟨d, -, hd⟩ | rfl := hc
  · decide
  · exact controlFree_escapeChar d c hd
  · decide

theorem controlFree_quoted (s : String) : ControlFree (quoted s).toList := by
  rw [quoted, String.toList_ofList]
  exact controlFree_quote s.toList

end SierraFootprint.Text
