import SierraFootprint.Json.Reader
import SierraFootprint.Proofs.Json.LiteralRead
import SierraFootprint.Proofs.Json.Written

/-!
# Reading what is written

Every text of a value that is not nested too deeply is read, and as that value. A step of the reader
depends on the position in the text only where it fails, so the states are followed without it.
-/
namespace SierraFootprint.Json

/-! ### States without positions -/

/-- The state after the characters of a text, if none of them is refused. -/
def reach (s : State) (text : List Char) : Option State :=
  text.foldlM (fun s c => (step s c).toOption) s

@[simp] theorem reach_nil (s : State) : reach s [] = some s := rfl

theorem reach_cons {s t : State} {c : Char} (h : step s c = .ok t) (text : List Char) :
    reach s (c :: text) = reach t text := by
  simp [reach, h, Except.toOption]

theorem reach_cons_error {s : State} {c : Char} {r : Refusal} (h : step s c = .error r)
    (text : List Char) : reach s (c :: text) = none := by
  simp [reach, h, Except.toOption]

theorem reach_append (s : State) (a b : List Char) :
    reach s (a ++ b) = (reach s a).bind (reach · b) := by
  simp [reach, List.foldlM_append]

theorem reach_append_of {s t : State} {a : List Char} (h : reach s a = some t) (b : List Char) :
    reach s (a ++ b) = reach t b := by
  simp [reach_append, h]

theorem run_eq_ok_iff {p q : Position} {s t : State} {text : List Char} :
    run p s text = .ok (q, t) ↔ reach s text = some t ∧ q = p.afterText text := by
  induction text generalizing p s with
  | nil =>
    simp only [run, Position.afterText, List.foldl_nil, Except.ok.injEq, Prod.mk.injEq, reach_nil,
      Option.some.injEq]
    tauto
  | cons c rest ih =>
    cases hs : step s c with
    | error r => simp [run, hs, reach_cons_error hs]
    | ok s' =>
      rw [reach_cons hs, run, hs]
      exact ih

/-- A text is read as a value if its characters lead to a state in which the value is complete. -/
theorem ofText_eq_ok_iff {text : List Char} {v : Json} :
    ofText text = .ok v ↔ ∃ s, reach initial text = some s ∧ finish s = .ok v := by
  unfold ofText
  cases hr : run .start initial text with
  | error fault =>
    simp only [reduceCtorEq, false_iff]
    rintro ⟨s, hs, -⟩
    rw [run_eq_ok_iff.2 ⟨hs, rfl⟩] at hr
    cases hr
  | ok qs =>
    obtain ⟨q, s⟩ := qs
    obtain ⟨hs, -⟩ := run_eq_ok_iff.1 hr
    cases hf : finish s <;> simp [hs, hf]

/-! ### Characters of strings -/

theorem isBlank_iff {c : Char} : isBlank c = true ↔ c ∈ blanks := by
  simp [isBlank, blanks]
  tauto

theorem hexDigit?_of_hexDigit {c : Char} {v : Nat} (h : HexDigit c v) :
    hexDigit? c = some v ∧ c.utf8Size = 1 := by
  have hl : ∀ d : Fin 16, hexDigit? (Nat.digitChar d) = some d.val ∧
      (Nat.digitChar d).utf8Size = 1 := by decide
  have hu : ∀ d : Fin 16, hexDigit? (Nat.digitChar d).toUpper = some d.val ∧
      (Nat.digitChar d).toUpper.utf8Size = 1 := by decide
  obtain ⟨hv, rfl | rfl⟩ := h
  · exact hl ⟨v, hv⟩
  · exact hu ⟨v, hv⟩

/-- The four digits of a code unit are read as its value. -/
theorem reach_unit {unit : Nat} {t : List Char} (h : UnitText unit t) (outer : List Frame)
    (role : Role) (before : List Char) (high : Option Nat) :
    reach ⟨.unit role before high (some 0) 4, outer⟩ t =
      (completeUnit outer role before high unit).toOption := by
  cases h with
  | @digits a b c d i j k l ha hb hc hd =>
    obtain ⟨ha, ha'⟩ := hexDigit?_of_hexDigit ha
    obtain ⟨hb, hb'⟩ := hexDigit?_of_hexDigit hb
    obtain ⟨hc, hc'⟩ := hexDigit?_of_hexDigit hc
    obtain ⟨hd, hd'⟩ := hexDigit?_of_hexDigit hd
    rw [reach_cons (t := ⟨.unit role before high (some i) 3, outer⟩) (by
        simp [step, stepUnit, ha, ha']),
      reach_cons (t := ⟨.unit role before high (some (i * 16 + j)) 2, outer⟩) (by
        simp [step, stepUnit, hb, hb']),
      reach_cons (t := ⟨.unit role before high (some ((i * 16 + j) * 16 + k)) 1, outer⟩) (by
        simp [step, stepUnit, hc, hc'])]
    have hstep : step ⟨.unit role before high (some ((i * 16 + j) * 16 + k)) 1, outer⟩ d =
        completeUnit outer role before high (((i * 16 + j) * 16 + k) * 16 + l) := by
      simp [step, stepUnit, hd, hd']
    cases hunit : completeUnit outer role before high (((i * 16 + j) * 16 + k) * 16 + l) with
    | error r => exact reach_cons_error (hstep.trans hunit) []
    | ok s => exact reach_cons (hstep.trans hunit) []

theorem UnitText.lt {unit : Nat} {t : List Char} (h : UnitText unit t) : unit < 0x10000 := by
  cases h with
  | digits ha hb hc hd =>
    have := ha.1
    have := hb.1
    have := hc.1
    have := hd.1
    omega

theorem pairChar_surrogates {c : Char} (h : 0x10000 ≤ c.toNat) :
    pairChar (highSurrogate c) (lowSurrogate c) = c := by
  have hn : 0x10000 + (highSurrogate c - 0xD800) * 0x400 + (lowSurrogate c - 0xDC00) = c.toNat := by
    simp only [highSurrogate, lowSurrogate]
    omega
  rw [pairChar, hn, Char.ofNat_toNat]

/-- Every spelling of a character adds it to the string. -/
theorem Spelled.reach {c : Char} {t : List Char} (h : Spelled c t) (outer : List Frame)
    (role : Role) (before : List Char) :
    reach ⟨.string role before, outer⟩ t = some ⟨.string role (c :: before), outer⟩ := by
  have hescape : step ⟨.string role before, outer⟩ '\\' = .ok ⟨.escape role before, outer⟩ := rfl
  have hunit : step ⟨.escape role before, outer⟩ 'u' =
    .ok ⟨.unit role before none (some 0) 4, outer⟩ := rfl
  have hv : c.toNat < 0xD800 ∨ 0xDFFF < c.toNat ∧ c.toNat < 0x110000 := c.valid
  cases h with
  | raw hc hq hb =>
    rw [reach_cons (t := ⟨.string role (c :: before), outer⟩), reach_nil]
    simp [step, hq, hb, Nat.not_lt.2 hc]
  | short hm =>
    rw [reach_cons hescape, reach_cons (t := ⟨.string role (c :: before), outer⟩), reach_nil]
    simp only [shortEscapes, List.mem_cons, Prod.mk.injEq, List.not_mem_nil, or_false] at hm
    rcases hm with ⟨rfl, rfl⟩ | ⟨rfl, rfl⟩ | ⟨rfl, rfl⟩ | ⟨rfl, rfl⟩ | ⟨rfl, rfl⟩ | ⟨rfl, rfl⟩ |
      ⟨rfl, rfl⟩ | ⟨rfl, rfl⟩ <;> rfl
  | unit hu =>
    have hlt := hu.lt
    rw [reach_cons hescape, reach_cons hunit]
    simp only [reach_unit hu, completeUnit]
    rw [if_neg (by omega), if_neg (by omega), Char.ofNat_toNat]
    rfl
  | @pair _ t t' hc hh hl =>
    have hlow : 0xDC00 ≤ lowSurrogate c ∧ lowSurrogate c ≤ 0xDFFF := by
      simp only [lowSurrogate]
      omega
    have hhigh : 0xD800 ≤ highSurrogate c ∧ highSurrogate c ≤ 0xDBFF := by
      simp only [highSurrogate]
      omega
    have hfirst : completeUnit outer role before none (highSurrogate c) =
        .ok ⟨.pairEscape role before (highSurrogate c), outer⟩ := by
      simp only [completeUnit]
      rw [if_neg (by omega), if_pos hhigh]
    have hsecond : completeUnit outer role before (some (highSurrogate c)) (lowSurrogate c) =
        .ok ⟨.string role (c :: before), outer⟩ := by
      simp only [completeUnit]
      rw [if_pos hlow, pairChar_surrogates hc]
    rw [reach_cons hescape, reach_cons hunit, reach_append_of (by rw [reach_unit hh, hfirst]; rfl),
      reach_cons (t := ⟨.pairUnit role before (highSurrogate c), outer⟩) rfl,
      reach_cons (t := ⟨.unit role before (some (highSurrogate c)) (some 0) 4, outer⟩) rfl,
      reach_unit hl, hsecond]
    rfl

theorem Inside.reach {s t : List Char} (h : Inside s t) (outer : List Frame) (role : Role)
    (before : List Char) :
    reach ⟨.string role before, outer⟩ t = some ⟨.string role (s.reverse ++ before), outer⟩ := by
  induction h generalizing before with
  | nil => rfl
  | cons hc _ ih =>
    rw [reach_append_of (hc.reach outer role before), ih]
    simp

/-- A string in its quotes is read to its end from the opening quote on. -/
theorem Quotes.reach {s : String} {text : List Char} (h : Quotes s text) {a : State}
    {outer : List Frame} {role : Role}
    (ha : step a '"' = .ok ⟨.string role [], outer⟩) :
    reach a text = some (match role with
      | .value => complete outer (.string s)
      | .key members => ⟨.afterKey members s, outer⟩) := by
  obtain ⟨t, ht, rfl⟩ := h
  rw [reach_cons ha, reach_append_of (ht.reach outer role []),
    reach_cons (t := completeString outer role (s.toList.reverse ++ [])) (by simp [step]),
    reach_nil]
  cases role <;> simp [completeString]

/-! ### Values -/

/-- The states in which a value may begin, and the lists and objects that are then around it. -/
inductive Awaits : State → List Frame → Prop
  | value (outer : List Frame) : Awaits ⟨.value, outer⟩ outer
  | first (outer : List Frame) : Awaits ⟨.firstElement, outer⟩ (.element [] :: outer)
  | next (before : List Json) (outer : List Frame) :
      Awaits ⟨.nextElement before, outer⟩ (.element before :: outer)

/-- The states in which a key may begin, with the members before it. -/
inductive AwaitsKey (outer : List Frame) : State → List (String × Json) → Prop
  | first : AwaitsKey outer ⟨.firstKey, outer⟩ []
  | next (before : List (String × Json)) : AwaitsKey outer ⟨.nextKey before, outer⟩ before

/-- The states in which a value is complete. A number is only ended by what follows it. -/
inductive Completed (outer : List Frame) : Json → State → Prop
  | complete (v : Json) : Completed outer v (complete outer v)
  | numeral {n : Numeral} {x : Number} : n.value = .ok x →
      Completed outer (.number x) ⟨.numeral n, outer⟩

theorem Awaits.step_blank {s : State} {outer : List Frame} (h : Awaits s outer) {c : Char}
    (hc : c ∈ blanks) : step s c = .ok s := by
  cases h <;> simp [step, isBlank_iff.2 hc]

theorem AwaitsKey.step_blank {outer : List Frame} {s : State} {before : List (String × Json)}
    (h : AwaitsKey outer s before) {c : Char} (hc : c ∈ blanks) : step s c = .ok s := by
  cases h <;> simp [step, isBlank_iff.2 hc]

theorem reach_blank {s : State} (hs : ∀ c ∈ blanks, step s c = .ok s) {text : List Char}
    (h : Blank text) : reach s text = some s := by
  induction text with
  | nil => rfl
  | cons c rest ih =>
    rw [reach_cons (hs c (h c (by simp)))]
    exact ih fun d hd => h d (List.mem_cons_of_mem c hd)

theorem Awaits.step_eq {s : State} {outer : List Frame} (h : Awaits s outer) {c : Char}
    (hc : c ∉ blanks) (hb : c ≠ ']') : step s c = beginValue outer c := by
  have hblank : isBlank c = false := by
    rw [← Bool.not_eq_true, isBlank_iff]
    exact hc
  cases h <;> simp [step, hblank, hb]

theorem AwaitsKey.step_quote {outer : List Frame} {s : State} {before : List (String × Json)}
    (h : AwaitsKey outer s before) : step s '"' = .ok ⟨.string (.key before) [], outer⟩ := by
  cases h <;> rfl

/-- The characters that may follow a value. -/
def terminators : List Char :=
  blanks ++ [',', ']', '\x7d']

theorem mem_terminators {c : Char} (h : c ∈ blanks) : c ∈ terminators :=
  List.mem_append_left _ h

theorem Numeral.step_ended {n : Numeral} {x : Number} (hn : n.value = .ok x) {c : Char}
    (hc : c ∈ terminators) : n.step c = .ended := by
  have hall : ∀ c ∈ terminators,
      Decimal.digitValue? c = none ∧ c ≠ '.' ∧ c ≠ 'e' ∧ c ≠ 'E' := by
    intro c hc
    fin_cases hc <;> decide
  obtain ⟨hd, hp, he, hE⟩ := hall c hc
  cases n <;> simp [Numeral.value] at hn <;>
    simp [Numeral.step, Numeral.afterWhole, Numeral.afterFraction, hd, hp, he, hE]

theorem step_complete (outer : List Frame) (v : Json) (c : Char) :
    step (complete outer v) c = stepAfter (complete outer v) c := by
  cases outer with
  | nil => rfl
  | cons frame outer => cases frame <;> rfl

/-- What may follow a value finds the same state, whether the value was a number or not. -/
theorem Completed.step_eq {outer : List Frame} {v : Json} {s : State} (h : Completed outer v s)
    {c : Char} (hc : c ∈ terminators) :
    step s c = stepAfter (Json.complete outer v) c := by
  cases h with
  | complete => exact step_complete outer v c
  | numeral hn => simp [step, Numeral.step_ended hn hc, hn]

theorem Completed.step_nextElement {before : List Json} {outer : List Frame} {v : Json} {s : State}
    (h : Completed (.element before :: outer) v s) :
    step s ',' = .ok ⟨.nextElement (v :: before), outer⟩ := by
  rw [h.step_eq (by decide)]
  rfl

theorem Completed.step_endList {before : List Json} {outer : List Frame} {v : Json} {s : State}
    (h : Completed (.element before :: outer) v s) :
    step s ']' = .ok (Json.complete outer (.array (v :: before).reverse)) := by
  rw [h.step_eq (by decide)]
  rfl

theorem Completed.step_nextKey {before : List (String × Json)} {key : String} {outer : List Frame}
    {v : Json} {s : State} (h : Completed (.member before key :: outer) v s) :
    step s ',' = .ok ⟨.nextKey ((key, v) :: before), outer⟩ := by
  rw [h.step_eq (by decide)]
  rfl

theorem Completed.step_endObject {before : List (String × Json)} {key : String}
    {outer : List Frame} {v : Json} {s : State} (h : Completed (.member before key :: outer) v s) :
    step s '\x7d' = .ok (Json.complete outer (.object ((key, v) :: before).reverse)) := by
  rw [h.step_eq (by decide)]
  rfl

theorem Completed.reach_blank {outer : List Frame} {v : Json} {s : State}
    (h : Completed outer v s) {text : List Char} (ht : Blank text) :
    ∃ s', reach s text = some s' ∧ Completed outer v s' := by
  cases text with
  | nil => exact ⟨s, rfl, h⟩
  | cons c rest =>
    have hafter : ∀ d ∈ blanks, stepAfter (Json.complete outer v) d = .ok (Json.complete outer v) :=
      fun d hd => by simp [stepAfter, isBlank_iff.2 hd]
    have hc := ht c (by simp)
    refine ⟨Json.complete outer v, ?_, .complete v⟩
    rw [reach_cons (by rw [h.step_eq (mem_terminators hc), hafter c hc])]
    refine Json.reach_blank (fun d hd => ?_) fun d hd => ht d (List.mem_cons_of_mem c hd)
    rw [step_complete, hafter d hd]

theorem Completed.finish {v : Json} {s : State} (h : Completed [] v s) : finish s = .ok v := by
  cases h with
  | complete => rfl
  | numeral hn => simp [Json.finish, hn, Json.complete, finishIn]

theorem reach_after {n n' : Numeral} {text : List Char} (h : n.after text = some n')
    (outer : List Frame) : reach ⟨.numeral n, outer⟩ text = some ⟨.numeral n', outer⟩ := by
  induction text generalizing n with
  | nil =>
    cases h
    rfl
  | cons c rest ih =>
    cases hs : n.step c with
    | more m =>
      rw [Numeral.after_cons hs] at h
      rw [reach_cons (t := ⟨.numeral m, outer⟩) (by simp [step, hs])]
      exact ih h
    | fault cause => simp [Numeral.after, hs] at h
    | ended => simp [Numeral.after, hs] at h

theorem beginValue_digit (outer : List Frame) (d : Digit) :
    beginValue outer (digitChar d) = .ok ⟨.numeral (Numeral.ofDigit false d), outer⟩ := by
  have hd : ∀ c ∈ ['n', 't', 'f', '"', '[', '\x7b', '-'], digitChar d ≠ c := by
    intro c hc
    fin_cases hc <;> decide +revert
  simp only [List.mem_cons, List.not_mem_nil, or_false, forall_eq_or_imp, forall_eq] at hd
  simp [beginValue, hd]

/-- What reading a phrase does, in any list or object that is not too deep for it. -/
def Reads : Phrase → List Char → Prop
  | .value v, text | .padded v, text => ∀ s outer, Awaits s outer →
      outer.length + v.depth ≤ depthLimit → ∃ t, reach s text = some t ∧ Completed outer v t
  | .elements vs, text => ∀ s before outer, Awaits s (.element before :: outer) →
      outer.length + 1 + depth.depthAll vs ≤ depthLimit →
      ∃ t rest v, reach s text = some t ∧ Completed (.element rest :: outer) v t ∧
        v :: rest = vs.reverse ++ before
  | .members ms, text => ∀ s before outer, AwaitsKey outer s before →
      outer.length + 1 + depth.depthMembers ms ≤ depthLimit →
      ∃ t rest key v, reach s text = some t ∧ Completed (.member rest key :: outer) v t ∧
        (key, v) :: rest = ms.reverse ++ before

/-- The first digit of a literal, and the sign that there may be, begin a numeral. -/
theorem Awaits.reach_literal {s : State} {outer : List Frame} (h : Awaits s outer) (l : Literal)
    (rest : List Char) :
    reach s (l.text ++ rest) = reach ⟨.numeral (.ofDigit l.isNegative l.first), outer⟩
      (digitsText l.more ++ (fractionText l.fraction ++ exponentText l.exponent) ++ rest) := by
  have hfirst : ∀ d : Digit, digitChar d ∉ blanks ∧ digitChar d ≠ ']' := by decide
  unfold Literal.text Literal.unsignedText
  rw [digitsText_cons, List.cons_append]
  split_ifs with hneg
  · rw [hneg, List.cons_append, List.cons_append,
      reach_cons (t := ⟨.numeral .minus, outer⟩) (by
        rw [h.step_eq (by decide) (by decide)]
        rfl),
      reach_cons (t := ⟨.numeral (.ofDigit true l.first), outer⟩) (by simp [step, Numeral.step])]
  · rw [Bool.not_eq_true] at hneg
    rw [hneg, List.cons_append,
      reach_cons (by rw [h.step_eq (hfirst _).1 (hfirst _).2, beginValue_digit])]

theorem Literal.reads {l : Literal} {x : Number} (h : l.value = .ok x) :
    Reads (.value (.number x)) l.text := by
  intro s outer ha hd
  obtain ⟨n, hn, hx⟩ := (h ▸ l.arrives).exists_after
  refine ⟨⟨.numeral n, outer⟩, ?_, .numeral hx⟩
  have hreach := ha.reach_literal l []
  rw [List.append_nil, List.append_nil] at hreach
  exact hreach.trans (reach_after hn outer)

/-- A word is read letter by letter. -/
theorem word_reads {v : Json} {c : Char} {rest : List Char} (hr : rest ≠ []) (hc : c ∉ blanks)
    (hb : c ≠ ']') (hbegin : ∀ outer, beginValue outer c = .ok ⟨.word rest v, outer⟩) :
    Reads (.value v) (c :: rest) := by
  intro s outer ha hd
  refine ⟨complete outer v, ?_, .complete v⟩
  rw [reach_cons (by rw [ha.step_eq hc hb, hbegin])]
  clear hbegin ha
  induction rest with
  | nil => contradiction
  | cons d rest ih =>
    cases rest with
    | nil =>
      rw [reach_cons (t := complete outer v) (by simp [step]), reach_nil]
    | cons e rest =>
      rw [reach_cons (t := ⟨.word (e :: rest) v, outer⟩) (by simp [step])]
      exact ih (by simp)

theorem Quotes.reads {s : String} {text : List Char} (h : Quotes s text) :
    Reads (.value (.string s)) text := by
  intro a outer ha hd
  have hstep : step a '"' = .ok ⟨.string .value [], outer⟩ := by
    rw [ha.step_eq (by decide) (by decide)]
    rfl
  exact ⟨complete outer (.string s), h.reach hstep, .complete _⟩

theorem Awaits.step_bracket {s : State} {outer : List Frame} (h : Awaits s outer)
    (hd : outer.length < depthLimit) : step s '[' = .ok ⟨.firstElement, outer⟩ := by
  rw [h.step_eq (by decide) (by decide)]
  simp [beginValue, hd]

theorem Awaits.step_brace {s : State} {outer : List Frame} (h : Awaits s outer)
    (hd : outer.length < depthLimit) : step s '\x7b' = .ok ⟨.firstKey, outer⟩ := by
  rw [h.step_eq (by decide) (by decide)]
  simp [beginValue, hd]

/-- After a key and the colon behind it a value must come. -/
theorem reach_key {key : String} {a k b : List Char} (hA : Blank a) (hk : Quotes key k)
    (hB : Blank b) {s : State} {before : List (String × Json)} {outer : List Frame}
    (ha : AwaitsKey outer s before) (t : List Char) :
    reach s (a ++ (k ++ (b ++ ':' :: t))) = reach ⟨.value, .member before key :: outer⟩ t := by
  have hblank : ∀ c ∈ blanks,
      step ⟨.afterKey before key, outer⟩ c = .ok ⟨.afterKey before key, outer⟩ :=
    fun c hc => by simp [step, isBlank_iff.2 hc]
  rw [reach_append_of (reach_blank (fun _ => ha.step_blank) hA),
    reach_append_of (hk.reach ha.step_quote), reach_append_of (reach_blank hblank hB),
    reach_cons (t := ⟨.value, .member before key :: outer⟩) rfl]

/-- A key, the colon after it, and its value with white space around it. -/
theorem reach_member {key : String} {v : Json} {a k b t : List Char} (hA : Blank a)
    (hk : Quotes key k) (hB : Blank b) (ht : Reads (.padded v) t) {s : State}
    {before : List (String × Json)} {outer : List Frame} (ha : AwaitsKey outer s before)
    (hd : outer.length + 1 + v.depth ≤ depthLimit) :
    ∃ s', reach s (a ++ (k ++ (b ++ ':' :: t))) = some s' ∧
      Completed (.member before key :: outer) v s' := by
  rw [reach_key hA hk hB ha]
  exact ht _ _ (.value _) (by simpa using hd)

/-- Every text of a phrase is read. -/
theorem Written.reads {p : Phrase} {text : List Char} (h : Written p text) : Reads p text := by
  induction h with
  | null => exact word_reads (by simp) (by decide) (by decide) fun _ => rfl
  | isTrue => exact word_reads (by simp) (by decide) (by decide) fun _ => rfl
  | isFalse => exact word_reads (by simp) (by decide) (by decide) fun _ => rfl
  | number h => exact Literal.reads h
  | string h => exact h.reads
  | emptyArray hb =>
    intro s outer ha hd
    refine ⟨complete outer (.array []), ?_, .complete _⟩
    rw [reach_cons (ha.step_bracket (by simp [depth, depth.depthAll] at hd; omega)),
      reach_append_of (reach_blank (fun _ => (Awaits.first outer).step_blank) hb)]
    rfl
  | @array vs t _ ih =>
    intro s outer ha hd
    simp only [depth] at hd
    obtain ⟨s', rest, v, hs', hc, hv⟩ := ih _ [] outer (.first outer) (by omega)
    refine ⟨complete outer (.array vs), ?_, .complete _⟩
    rw [reach_cons (ha.step_bracket (by omega)), reach_append_of hs', reach_cons hc.step_endList,
      hv]
    simp
  | emptyObject hb =>
    intro s outer ha hd
    refine ⟨complete outer (.object []), ?_, .complete _⟩
    rw [reach_cons (ha.step_brace (by simp [depth, depth.depthMembers] at hd; omega)),
      reach_append_of (reach_blank (fun _ => AwaitsKey.first.step_blank) hb)]
    rfl
  | @object ms t _ ih =>
    intro s outer ha hd
    simp only [depth] at hd
    obtain ⟨s', rest, key, v, hs', hc, hv⟩ := ih _ [] outer .first (by omega)
    refine ⟨complete outer (.object ms), ?_, .complete _⟩
    rw [reach_cons (ha.step_brace (by omega)), reach_append_of hs', reach_cons hc.step_endObject,
      hv]
    simp
  | padded hA _ hB ih =>
    intro s outer ha hd
    obtain ⟨s', hs', hc⟩ := ih s outer ha hd
    obtain ⟨s'', hs'', hc⟩ := hc.reach_blank hB
    refine ⟨s'', ?_, hc⟩
    rw [reach_append_of (reach_blank (fun _ => ha.step_blank) hA), reach_append_of hs', hs'']
  | @lastElement v _ _ ih =>
    intro s before outer ha hd
    obtain ⟨s', hs', hc⟩ := ih s _ ha (by simp [depth.depthAll] at hd ⊢; omega)
    exact ⟨s', before, v, hs', hc, rfl⟩
  | @element v vs t rest _ _ iht ihrest =>
    intro s before outer ha hd
    simp only [depth.depthAll] at hd
    obtain ⟨s', hs', hc⟩ := iht s _ ha (by simp; omega)
    obtain ⟨s'', before', w, hs'', hw, hv⟩ :=
      ihrest _ (v :: before) outer (.next (v :: before) outer) (by omega)
    refine ⟨s'', before', w, ?_, hw, by simpa using hv⟩
    rw [reach_append_of hs', reach_cons hc.step_nextElement, hs'']
  | @lastMember key v a k b t hA hk hB _ ih =>
    intro s before outer ha hd
    obtain ⟨s', hs', hc⟩ := reach_member hA hk hB ih ha (by simp [depth.depthMembers] at hd; omega)
    exact ⟨s', before, key, v, hs', hc, rfl⟩
  | @member key v ms a k b t rest hA hk hB _ _ iht ihrest =>
    intro s before outer ha hd
    simp only [depth.depthMembers] at hd
    obtain ⟨s', hs', hc⟩ := reach_member hA hk hB iht ha (by omega)
    obtain ⟨s'', before', key', w, hs'', hw, hv⟩ :=
      ihrest _ ((key, v) :: before) outer (.next ((key, v) :: before)) (by omega)
    refine ⟨s'', before', key', w, ?_, hw, by simpa using hv⟩
    have hsplit : a ++ (k ++ (b ++ ':' :: (t ++ ',' :: rest))) =
        (a ++ (k ++ (b ++ ':' :: t))) ++ ',' :: rest := by simp
    rw [hsplit, reach_append_of hs', reach_cons hc.step_nextKey, hs'']

/-- A document that is not nested too deeply is read from every way of writing it. -/
theorem ofText_of_isText {v : Json} {text : List Char} (h : IsText v text)
    (hd : v.depth ≤ depthLimit) : ofText text = .ok v := by
  obtain ⟨s, hs, hc⟩ := Written.reads h initial [] (.value []) (by simpa using hd)
  exact ofText_eq_ok_iff.2 ⟨s, hs, hc.finish⟩

end SierraFootprint.Json
