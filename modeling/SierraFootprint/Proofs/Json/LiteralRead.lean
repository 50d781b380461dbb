import SierraFootprint.Proofs.Json.Literal

/-!
# Reading number literals

Reading the text of a literal one character at a time arrives at its value, and whatever is read as
a number is the text of a literal.
-/
namespace SierraFootprint.Json

/-! ### The characters of a literal -/

namespace Numeral

/-- The numeral after the characters of a text, if all of them belong to it. -/
def after (n : Numeral) (text : List Char) : Option Numeral :=
  text.foldlM (fun n c => match n.step c with | .more n => some n | _ => none) n

@[simp] theorem after_nil (n : Numeral) : n.after [] = some n := rfl

theorem after_cons {n k : Numeral} {c : Char} (h : n.step c = .more k) (text : List Char) :
    n.after (c :: text) = k.after text := by
  simp [after, h]

/-- The state after the digits of the whole part that follow the first one. -/
def ofWhole (m : Magnitude) : Numeral :=
  if m.exponent = 0 then whole m else long m

theorem after_long (m : Magnitude) (ds : List Digit) :
    (long m).after (digitsText ds) = some (long { m with exponent := m.exponent + ds.length }) := by
  induction ds generalizing m with
  | nil => simp
  | cons d ds ih =>
    rw [digitsText_cons,
      after_cons (k := long { m with exponent := m.exponent + 1 }) (by simp [step]),
      ih]
    simp
    omega

theorem push?_exponent {m m' : Magnitude} {d : Nat} (h : m.push? d = some m') :
    m'.exponent = m.exponent := by
  simp only [Magnitude.push?, Option.ite_none_right_eq_some, Option.some.injEq] at h
  obtain ⟨-, rfl⟩ := h
  rfl

theorem after_whole {m : Magnitude} (hm : m.exponent = 0) (ds : List Digit) :
    (whole m).after (digitsText ds) = some (ofWhole (m.pushWhole ds)) := by
  induction ds generalizing m with
  | nil => simp [ofWhole, Magnitude.pushWhole, hm]
  | cons d ds ih =>
    rw [digitsText_cons]
    cases hp : m.push? d with
    | some m' =>
      rw [after_cons (k := whole m') (by simp [step, hp]), ih (by rw [push?_exponent hp, hm]),
        Magnitude.pushWhole, hp]
    | none =>
      rw [after_cons (k := long { m with exponent := m.exponent + 1 }) (by simp [step, hp]),
        after_long]
      simp only [Magnitude.pushWhole, hp, hm, ofWhole]
      rw [if_neg (by omega)]
      simp
      omega

/-- Where the whole part of a number has been read. -/
inductive WholeRead : Numeral → Magnitude → Prop
  | zero (isNegative : Bool) : WholeRead (zero isNegative) ⟨isNegative, 0, 0⟩
  | digits (m : Magnitude) : WholeRead (ofWhole m) m

theorem WholeRead.step {n : Numeral} {m : Magnitude} (h : WholeRead n m) {c : Char}
    (hc : Decimal.digitValue? c = none) : n.step c = afterWhole m c := by
  cases h with
  | zero => simp [Numeral.step, hc]
  | digits => unfold ofWhole; split_ifs <;> simp [Numeral.step, hc]

theorem WholeRead.value {n : Numeral} {m : Magnitude} (h : WholeRead n m) :
    n.value = m.closed [] none := by
  cases h with
  | zero => rfl
  | digits =>
    unfold ofWhole
    split_ifs with hm <;>
      simp [Numeral.value, Magnitude.closed, Magnitude.pushFraction, Magnitude.ending, hm]

/-- Where the digits behind the point have been read. -/
inductive FractionRead : Numeral → Magnitude → Prop
  | fits (m : Magnitude) : FractionRead (fraction m) m
  | long (m : Magnitude) : FractionRead (longFraction m) m

theorem FractionRead.step {n : Numeral} {m : Magnitude} (h : FractionRead n m) {c : Char}
    (hc : Decimal.digitValue? c = none) : n.step c = afterFraction m c := by
  cases h <;> simp [Numeral.step, hc]

theorem FractionRead.value {n : Numeral} {m : Magnitude} (h : FractionRead n m) :
    n.value = m.ending false none := by
  cases h <;> rfl

theorem after_longFraction (m : Magnitude) (ds : List Digit) :
    (longFraction m).after (digitsText ds) = some (longFraction m) := by
  induction ds with
  | nil => rfl
  | cons d ds ih => rw [digitsText_cons, after_cons (k := longFraction m) (by simp [step]), ih]

theorem after_pushFraction (m : Magnitude) (d : Digit) (ds : List Digit) :
    ∃ n, (pushFraction m d).after (digitsText ds) = some n ∧
      FractionRead n (m.pushFraction (d :: ds)) := by
  induction ds generalizing m d with
  | nil =>
    refine ⟨_, rfl, ?_⟩
    cases hp : m.push? d <;> simp only [pushFraction, Magnitude.pushFraction, hp]
    · exact .long m
    · exact .fits _
  | cons e ds ih =>
    cases hp : m.push? d with
    | none =>
      simp only [pushFraction, Magnitude.pushFraction, hp]
      exact ⟨_, after_longFraction m (e :: ds), .long m⟩
    | some m' =>
      have hstep : (fraction { m' with exponent := m'.exponent - 1 }).step (digitChar e) =
          .more (pushFraction { m' with exponent := m'.exponent - 1 } e) := by simp [step]
      obtain ⟨n, hn, hr⟩ := ih { m' with exponent := m'.exponent - 1 } e
      refine ⟨n, ?_, ?_⟩
      · simp only [pushFraction, hp]
        rw [digitsText_cons, after_cons hstep, hn]
      · rw [Magnitude.pushFraction, hp]
        exact hr

theorem le_digitsValue (n : Nat) (ds : List Digit) : n ≤ digitsValue n ds := by
  induction ds generalizing n with
  | nil => exact Nat.le_refl n
  | cons d ds ih =>
    have h := ih (n * 10 + d)
    simp only [digitsValue, List.foldl_cons] at h ⊢
    omega

theorem after_vanished (isNegative : Bool) (ds : List Digit) :
    (vanished isNegative).after (digitsText ds) = some (vanished isNegative) := by
  induction ds with
  | nil => rfl
  | cons d ds ih => rw [digitsText_cons, after_cons (k := vanished isNegative) (by simp [step]), ih]

/-- What reading a text from a numeral on comes to: the value at the end of the text, or the fault
at which the text is refused. -/
inductive Arrives : Numeral → List Char → Except Cause Number → Prop
  | ended (n : Numeral) : Arrives n [] n.value
  | more {n k : Numeral} {c : Char} {text : List Char} {r : Except Cause Number} :
      n.step c = .more k → Arrives k text r → Arrives n (c :: text) r
  | fault {n : Numeral} {c : Char} {cause : Cause} (text : List Char) :
      n.step c = .fault cause → Arrives n (c :: text) (.error cause)

theorem arrives_append {n k : Numeral} {a b : List Char} {r : Except Cause Number}
    (h : n.after a = some k) (hk : Arrives k b r) : Arrives n (a ++ b) r := by
  induction a generalizing n with
  | nil =>
    cases h
    exact hk
  | cons c a ih =>
    cases hs : n.step c with
    | more m =>
      rw [after_cons hs] at h
      exact .more hs (ih h)
    | fault cause => simp [after, hs] at h
    | ended => simp [after, hs] at h

theorem arrives_of_after {n k : Numeral} {text : List Char} (h : n.after text = some k) :
    Arrives n text k.value := by
  have harrives := arrives_append h (.ended k)
  rwa [List.append_nil] at harrives

theorem Arrives.exists_after {n : Numeral} {text : List Char} {x : Number}
    (h : Arrives n text (.ok x)) : ∃ k, n.after text = some k ∧ k.value = .ok x := by
  generalize hr : Except.ok x = r at h
  induction h with
  | ended n => exact ⟨n, rfl, rfl⟩
  | more hs _ ih =>
    rw [after_cons hs]
    exact ih hr
  | fault => cases hr

/-- Reading the digits of an exponent notices in time that it is too large: a larger one follows. -/
theorem arrives_exponent (m : Magnitude) (isDown : Bool) {e : Nat} (he : e < exponentBound)
    (ds : List Digit) :
    Arrives (exponent m isDown e) (digitsText ds) (m.raised isDown (digitsValue e ds)) := by
  induction ds generalizing e with
  | nil =>
    rw [Magnitude.raised, digitsValue, List.foldl_nil, if_pos he]
    exact .ended _
  | cons d ds ih =>
    have hv : digitsValue e (d :: ds) = digitsValue (e * 10 + d) ds := rfl
    rw [hv, digitsText_cons]
    by_cases hd : e * 10 + d < exponentBound
    · exact .more (by simp [step, pushExponent, hd]) (ih hd)
    · have hle := le_digitsValue (e * 10 + d) ds
      rw [Magnitude.raised, if_neg (by omega)]
      split_ifs with hs
      · apply Arrives.fault
        simp only [step, digitValue?_digitChar, pushExponent]
        rw [if_neg hd, if_pos hs]
      · refine .more ?_ (arrives_of_after (after_vanished m.isNegative ds))
        simp only [step, digitValue?_digitChar, pushExponent]
        rw [if_neg hd, if_neg hs]

theorem digit_lt_exponentBound (d : Digit) : (d : Nat) < exponentBound := by
  decide +revert

theorem arrives_mark (m : Magnitude) (e : Exponent) :
    Arrives (mark m) e.tailText (m.raised e.sign.isDown e.value) := by
  have hv : e.value = digitsValue e.first e.more := by
    simp [Exponent.value, Exponent.digits, digitsValue]
  have hdigits := arrives_exponent m e.sign.isDown (digit_lt_exponentBound e.first) e.more
  rw [hv]
  unfold Exponent.tailText Exponent.digits
  cases hs : e.sign <;> simp only [hs, ExponentSign.text, ExponentSign.isDown] at hdigits ⊢
  · exact .more (by simp [step]) hdigits
  · exact .more (k := sign m false) (by simp [step, digitValue?_eq_none])
      (.more (by simp [step]) hdigits)
  · exact .more (k := sign m true) (by simp [step, digitValue?_eq_none])
      (.more (by simp [step]) hdigits)

theorem letter_cases (e : Exponent) : e.letter = 'e' ∨ e.letter = 'E' := by
  unfold Exponent.letter
  split_ifs <;> simp

theorem digitValue?_letter (e : Exponent) : Decimal.digitValue? e.letter = none := by
  obtain h | h := letter_cases e <;> rw [h] <;> exact digitValue?_eq_none (by simp)

/-- The exponent that may follow takes a numeral to its value. -/
theorem arrives_ending {n : Numeral} {m : Magnitude} {isWhole : Bool}
    (hstep : ∀ e : Exponent, n.step e.letter = .more (mark m))
    (hvalue : n.value = m.ending isWhole none) (e : Option Exponent) :
    Arrives n (exponentText e) (m.ending isWhole e) := by
  cases e with
  | none =>
    rw [← hvalue]
    exact .ended n
  | some e => exact .more (hstep e) (arrives_mark m e)

/-- What may follow the whole part takes a numeral to its value. -/
theorem arrives_closed {n : Numeral} {m : Magnitude} (hr : WholeRead n m) (fraction : List Digit)
    (e : Option Exponent) :
    Arrives n (fractionText fraction ++ exponentText e) (m.closed fraction e) := by
  cases fraction with
  | nil =>
    refine arrives_ending (fun e => ?_) hr.value e
    rw [hr.step (digitValue?_letter e), afterWhole]
    obtain he | he := letter_cases e <;> simp [he, Magnitude.pushFraction]
  | cons d ds =>
    have hpoint : n.step '.' = .more (point m) := by
      rw [hr.step (digitValue?_eq_none (by simp)), afterWhole, if_pos rfl]
    obtain ⟨k, hk, hf⟩ := after_pushFraction m d ds
    have hending := arrives_ending (fun e => by
      rw [hf.step (digitValue?_letter e), afterFraction, if_pos (letter_cases e)]) hf.value e
    exact .more hpoint (.more (by simp [step]) (arrives_append hk hending))

end Numeral

/-- Reading a literal from its first digit on arrives at its value, or at the fault that it is out
of range. -/
theorem Literal.arrives (l : Literal) :
    (Numeral.ofDigit l.isNegative l.first).Arrives
      (digitsText l.more ++ (fractionText l.fraction ++ exponentText l.exponent)) l.value := by
  by_cases h0 : l.first = 0
  · have hw : l.whole = ⟨l.isNegative, 0, 0⟩ := by
      simp [Literal.whole, l.more_eq_nil h0, Magnitude.pushWhole, h0]
    rw [Literal.value, hw, l.more_eq_nil h0, h0]
    exact Numeral.arrives_closed (.zero l.isNegative) l.fraction l.exponent
  · have hd : Numeral.ofDigit l.isNegative l.first = .whole ⟨l.isNegative, l.first, 0⟩ := by
      simp [Numeral.ofDigit, Fin.val_eq_zero_iff, h0]
    rw [hd]
    exact Numeral.arrives_append (Numeral.after_whole rfl l.more)
      (Numeral.arrives_closed (.digits _) l.fraction l.exponent)

/-! ### Nothing else is read -/

/-- What the grammar allows after the characters of a numeral, and the number it makes up. -/
def Numeral.Tail : Numeral → List Char → Number → Prop
  | minus, t, x => ∃ l : Literal, l.isNegative = true ∧ t = l.unsignedText ∧ l.value = .ok x
  | zero isNegative, t, x => ∃ f e, t = fractionText f ++ exponentText e ∧
      Magnitude.closed ⟨isNegative, 0, 0⟩ f e = .ok x
  | whole m, t, x => m.exponent = 0 → ∃ ds f e,
      t = digitsText ds ++ (fractionText f ++ exponentText e) ∧
      (m.pushWhole ds).closed f e = .ok x
  | long m, t, x => 0 < m.exponent → ∃ (ds : List Digit) (f : List Digit) (e : Option Exponent),
      t = digitsText ds ++ (fractionText f ++ exponentText e) ∧
      Magnitude.closed { m with exponent := m.exponent + ds.length } f e = .ok x
  | point m, t, x => ∃ d ds e, t = digitsText (d :: ds) ++ exponentText e ∧
      (m.pushFraction (d :: ds)).ending false e = .ok x
  | fraction m, t, x => ∃ ds e, t = digitsText ds ++ exponentText e ∧
      (m.pushFraction ds).ending false e = .ok x
  | longFraction m, t, x => ∃ ds e, t = digitsText ds ++ exponentText e ∧ m.ending false e = .ok x
  | mark m, t, x => ∃ e : Exponent, t = e.tailText ∧ m.raised e.sign.isDown e.value = .ok x
  | sign m isDown, t, x => ∃ d ds, t = digitsText (d :: ds) ∧
      m.raised isDown (digitsValue 0 (d :: ds)) = .ok x
  | exponent m isDown e, t, x => e < exponentBound → ∃ ds, t = digitsText ds ∧
      m.raised isDown (digitsValue e ds) = .ok x
  | vanished isNegative, t, x => ∃ ds, t = digitsText ds ∧
      x = .float (Magnitude.signed isNegative 0)

namespace Numeral

theorem tail_nil {n : Numeral} {x : Number} (h : n.value = .ok x) : Tail n [] x := by
  cases n with
  | minus | point | mark | sign => simp [value] at h
  | zero isNegative => exact ⟨[], none, rfl, h⟩
  | whole m =>
    intro hm
    have hw := (WholeRead.digits m).value
    rw [ofWhole, if_pos hm, h] at hw
    exact ⟨[], [], none, rfl, hw.symm⟩
  | long m =>
    intro hm
    have hw := (WholeRead.digits m).value
    rw [ofWhole, if_neg (by omega), h] at hw
    exact ⟨[], [], none, rfl, by simpa using hw.symm⟩
  | fraction m => exact ⟨[], none, rfl, h⟩
  | longFraction m => exact ⟨[], none, rfl, h⟩
  | exponent m isDown e =>
    intro he
    refine ⟨[], rfl, ?_⟩
    rw [Magnitude.raised, digitsValue, List.foldl_nil, if_pos he]
    exact h
  | vanished isNegative =>
    refine ⟨[], rfl, ?_⟩
    simpa [value, eq_comm] using h

/-- Either letter may introduce an exponent. -/
theorem exists_letter {c : Char} (hc : c = 'e' ∨ c = 'E') (e : Exponent) :
    ∃ e' : Exponent, exponentText (some e') = c :: e.tailText ∧ e'.sign = e.sign ∧
      e'.value = e.value := by
  obtain rfl | rfl := hc
  · exact ⟨{ e with isCapital := false }, rfl, rfl, rfl⟩
  · exact ⟨{ e with isCapital := true }, rfl, rfl, rfl⟩

theorem tail_afterFraction {m : Magnitude} {c : Char} {n : Numeral} {t : List Char} {x : Number}
    (h : afterFraction m c = .more n) (ht : Tail n t x) (isWhole : Bool) :
    ∃ e, c :: t = exponentText e ∧ m.ending isWhole e = .ok x := by
  unfold afterFraction at h
  split_ifs at h with hc
  obtain rfl : mark m = n := by simpa using h
  obtain ⟨e, rfl, hx⟩ := ht
  obtain ⟨e', hl, hs, hv⟩ := exists_letter hc e
  exact ⟨some e', hl.symm, by simpa [Magnitude.ending, hs, hv] using hx⟩

theorem tail_afterWhole {m : Magnitude} {c : Char} {n : Numeral} {t : List Char} {x : Number}
    (h : afterWhole m c = .more n) (ht : Tail n t x) :
    ∃ f e, c :: t = fractionText f ++ exponentText e ∧ m.closed f e = .ok x := by
  unfold afterWhole at h
  split_ifs at h with hp hc
  · obtain rfl : point m = n := by simpa using h
    obtain ⟨d, ds, e, rfl, hx⟩ := ht
    exact ⟨d :: ds, e, by rw [hp]; rfl, hx⟩
  · have hf : afterFraction m c = .more n := by simpa [afterFraction, hc] using h
    obtain ⟨e, he, hx⟩ := tail_afterFraction hf ht (m.exponent == 0)
    exact ⟨[], e, he, hx⟩

theorem tail_pushFraction {m : Magnitude} {d : Digit} {t : List Char} {x : Number}
    (ht : Tail (pushFraction m d) t x) :
    ∃ ds e, t = digitsText ds ++ exponentText e ∧
      (m.pushFraction (d :: ds)).ending false e = .ok x := by
  unfold pushFraction at ht
  cases hp : m.push? d <;> simp only [hp, Tail] at ht <;> obtain ⟨ds, e, rfl, hx⟩ := ht <;>
    exact ⟨ds, e, rfl, by simpa [Magnitude.pushFraction, hp] using hx⟩

/-- A first digit and what it allows make up a literal. -/
theorem exists_literal {isNegative : Bool} {d : Digit} {t : List Char} {x : Number}
    (ht : Tail (ofDigit isNegative d) t x) :
    ∃ l : Literal, l.isNegative = isNegative ∧ l.unsignedText = digitChar d :: t ∧
      l.value = .ok x := by
  by_cases hd : d = 0
  · subst hd
    obtain ⟨f, e, rfl, hx⟩ := ht
    exact ⟨⟨isNegative, 0, [], f, e, fun _ => rfl⟩, rfl, rfl, hx⟩
  · have hw : ofDigit isNegative d = whole ⟨isNegative, d, 0⟩ := by
      simp [ofDigit, Fin.val_eq_zero_iff, hd]
    rw [hw] at ht
    obtain ⟨ds, f, e, rfl, hx⟩ := ht rfl
    exact ⟨⟨isNegative, d, ds, f, e, fun h => absurd h hd⟩, rfl, rfl, hx⟩

/-- What a numeral allows after a character is what it allowed with it. -/
theorem tail_cons {n n' : Numeral} {c : Char} {t : List Char} {x : Number}
    (h : n.step c = .more n') (ht : Tail n' t x) : Tail n (c :: t) x := by
  cases hv : Decimal.digitValue? c with
  | none =>
    cases n with
    | minus | point | sign | exponent | vanished => simp [step, hv] at h
    | zero isNegative => exact tail_afterWhole (by simpa [step, hv] using h) ht
    | whole m =>
      intro hm
      obtain ⟨f, e, he, hx⟩ := tail_afterWhole (m := m) (by simpa [step, hv] using h) ht
      exact ⟨[], f, e, he, hx⟩
    | long m =>
      intro hm
      obtain ⟨f, e, he, hx⟩ := tail_afterWhole (m := m) (by simpa [step, hv] using h) ht
      exact ⟨[], f, e, he, by simpa using hx⟩
    | fraction m =>
      obtain ⟨e, he, hx⟩ := tail_afterFraction (m := m) (by simpa [step, hv] using h) ht false
      exact ⟨[], e, he, hx⟩
    | longFraction m =>
      obtain ⟨e, he, hx⟩ := tail_afterFraction (m := m) (by simpa [step, hv] using h) ht false
      exact ⟨[], e, he, hx⟩
    | mark m =>
      simp only [step, hv] at h
      split_ifs at h with hp hm
      · obtain rfl : sign m false = n' := by simpa using h
        obtain ⟨d, ds, rfl, hx⟩ := ht
        exact ⟨⟨false, .plus, d, ds⟩, by rw [hp]; rfl, hx⟩
      · obtain rfl : sign m true = n' := by simpa using h
        obtain ⟨d, ds, rfl, hx⟩ := ht
        exact ⟨⟨false, .minus, d, ds⟩, by rw [hm]; rfl, hx⟩
  | some v =>
    obtain ⟨d, rfl, rfl⟩ := exists_digit hv
    cases n with
    | minus =>
      obtain rfl : ofDigit true d = n' := by simpa [step] using h
      obtain ⟨l, hl, ht, hx⟩ := exists_literal ht
      exact ⟨l, hl, ht.symm, hx⟩
    | zero => simp [step] at h
    | whole m =>
      intro hm
      cases hp : m.push? d with
      | some m' =>
        obtain rfl : whole m' = n' := by simpa [step, hp] using h
        obtain ⟨ds, f, e, rfl, hx⟩ := ht (by rw [push?_exponent hp, hm])
        exact ⟨d :: ds, f, e, rfl, by simpa [Magnitude.pushWhole, hp] using hx⟩
      | none =>
        obtain rfl : long { m with exponent := m.exponent + 1 } = n' := by simpa [step, hp] using h
        obtain ⟨ds, f, e, rfl, hx⟩ := ht (by simp [hm])
        have hlen : m.exponent + 1 + (ds.length : Int) = m.exponent + (ds.length + 1) := by omega
        exact ⟨d :: ds, f, e, rfl, by simpa [Magnitude.pushWhole, hp, hlen] using hx⟩
    | long m =>
      intro hm
      obtain rfl : long { m with exponent := m.exponent + 1 } = n' := by simpa [step] using h
      obtain ⟨ds, f, e, rfl, hx⟩ := ht (by simp; omega)
      have hlen : m.exponent + 1 + (ds.length : Int) = m.exponent + (ds.length + 1) := by omega
      exact ⟨d :: ds, f, e, rfl, by simpa [hlen] using hx⟩
    | point m =>
      obtain rfl : pushFraction m d = n' := by simpa [step] using h
      obtain ⟨ds, e, rfl, hx⟩ := tail_pushFraction ht
      exact ⟨d, ds, e, rfl, hx⟩
    | fraction m =>
      obtain rfl : pushFraction m d = n' := by simpa [step] using h
      obtain ⟨ds, e, rfl, hx⟩ := tail_pushFraction ht
      exact ⟨d :: ds, e, rfl, hx⟩
    | longFraction m =>
      obtain rfl : longFraction m = n' := by simpa [step] using h
      obtain ⟨ds, e, rfl, hx⟩ := ht
      exact ⟨d :: ds, e, rfl, hx⟩
    | mark m =>
      obtain rfl : exponent m false d = n' := by simpa [step] using h
      obtain ⟨ds, rfl, hx⟩ := ht (digit_lt_exponentBound d)
      refine ⟨⟨false, .absent, d, ds⟩, rfl, ?_⟩
      simpa [ExponentSign.isDown, Exponent.value, Exponent.digits, digitsValue] using hx
    | sign m isDown =>
      obtain rfl : exponent m isDown d = n' := by simpa [step] using h
      obtain ⟨ds, rfl, hx⟩ := ht (digit_lt_exponentBound d)
      exact ⟨d, ds, rfl, by simpa [digitsValue] using hx⟩
    | exponent m isDown e =>
      intro he
      simp only [step, digitValue?_digitChar, pushExponent] at h
      have hmore : ∀ ds, digitsValue e (d :: ds) = digitsValue (e * 10 + d) ds := fun _ => rfl
      by_cases hb : e * 10 + d < exponentBound
      · obtain rfl : exponent m isDown (e * 10 + d) = n' := by simpa [hb] using h
        obtain ⟨ds, rfl, hx⟩ := ht hb
        exact ⟨d :: ds, rfl, by rw [hmore, hx]⟩
      · rw [if_neg hb] at h
        split_ifs at h with hs
        obtain rfl : vanished m.isNegative = n' := by simpa using h
        obtain ⟨ds, rfl, rfl⟩ := ht
        have hle := le_digitsValue (e * 10 + d) ds
        refine ⟨d :: ds, rfl, ?_⟩
        rw [hmore, Magnitude.raised, if_neg (by omega), if_neg hs]
    | vanished isNegative =>
      obtain rfl : vanished isNegative = n' := by simpa [step] using h
      obtain ⟨ds, rfl, rfl⟩ := ht
      exact ⟨d :: ds, rfl, rfl⟩

end Numeral

end SierraFootprint.Json
