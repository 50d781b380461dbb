import SierraFootprint.Proofs.Json.Reading
import SierraFootprint.Proofs.Text.WellFormed

/-!
# What is read is written

The converse of `Reading`: a text that the reader accepts is written by the grammar, as the value
that is read. For each state it is said which texts the grammar allows from there on; what a state
allows before a character follows from what the next state allows after it.
-/
namespace SierraFootprint.Json

/-! ### What may follow -/

/-- The elements after the first one of a list, up to its closing bracket. -/
def MoreElements (vs : List Json) (t : List Char) : Prop :=
  vs = [] ∧ Blank t ∨ ∃ b rest, Blank b ∧ Written (.elements vs) rest ∧ t = b ++ ',' :: rest

/-- The members after the first one of an object, up to its closing brace. -/
def MoreMembers (ms : List (String × Json)) (t : List Char) : Prop :=
  ms = [] ∧ Blank t ∨ ∃ b rest, Blank b ∧ Written (.members ms) rest ∧ t = b ++ ',' :: rest

/-- After the value `v`, the text closes all that is around it and makes it the document `w`. -/
def Finishes : List Frame → Json → List Char → Json → Prop
  | [], v, t, w => Blank t ∧ w = v
  | .element before :: outer, v, t, w => ∃ vs a rest, MoreElements vs a ∧ t = a ++ ']' :: rest ∧
      depth.depthAll vs ≤ depthLimit - (outer.length + 1) ∧
      Finishes outer (.array ((v :: before).reverse ++ vs)) rest w
  | .member before key :: outer, v, t, w => ∃ ms a rest, MoreMembers ms a ∧
      t = a ++ '\x7d' :: rest ∧ depth.depthMembers ms ≤ depthLimit - (outer.length + 1) ∧
      Finishes outer (.object (((key, v) :: before).reverse ++ ms)) rest w

/-- The text begins with a value and finishes the document after it. -/
def Begins (outer : List Frame) (t : List Char) (w : Json) : Prop :=
  ∃ v a b rest, Blank a ∧ Written (.value v) b ∧ t = a ++ (b ++ rest) ∧
    v.depth ≤ depthLimit - outer.length ∧ Finishes outer v rest w

/-- The text goes on after the elements in `before`, which come latest first. -/
def EndsList (before : List Json) (outer : List Frame) (t : List Char) (w : Json) : Prop :=
  ∃ vs a rest, MoreElements vs a ∧ t = a ++ ']' :: rest ∧
    depth.depthAll vs ≤ depthLimit - (outer.length + 1) ∧
    Finishes outer (.array (before.reverse ++ vs)) rest w

/-- The text goes on after the members in `before`, which come latest first. -/
def EndsObject (before : List (String × Json)) (outer : List Frame) (t : List Char) (w : Json) :
    Prop :=
  ∃ ms a rest, MoreMembers ms a ∧ t = a ++ '\x7d' :: rest ∧
    depth.depthMembers ms ≤ depthLimit - (outer.length + 1) ∧
    Finishes outer (.object (before.reverse ++ ms)) rest w

/-- The text goes on after a key. -/
def AfterKey (before : List (String × Json)) (key : String) (outer : List Frame) (t : List Char)
    (w : Json) : Prop :=
  ∃ a rest, Blank a ∧ t = a ++ ':' :: rest ∧ Begins (.member before key :: outer) rest w

/-- The text begins with a key. -/
def BeginsKey (before : List (String × Json)) (outer : List Frame) (t : List Char) (w : Json) :
    Prop :=
  ∃ key a k rest, Blank a ∧ Quotes key k ∧ t = a ++ (k ++ rest) ∧ AfterKey before key outer rest w

/-- The text goes on after the closing quote of a string. -/
def AfterString (outer : List Frame) (s : String) (t : List Char) (w : Json) : Role → Prop
  | .value => Finishes outer (.string s) t w
  | .key before => AfterKey before s outer t w

/-- The text goes on inside a string. -/
def GoesOn (role : Role) (before : List Char) (outer : List Frame) (t : List Char) (w : Json) :
    Prop :=
  ∃ cs a rest, Inside cs a ∧ t = a ++ '"' :: rest ∧
    AfterString outer (String.ofList (before.reverse ++ cs)) rest w role

/-- Hexadecimal digits that take the value of a code unit from `v` to `u`. -/
inductive UnitTail : Nat → Nat → Nat → List Char → Prop
  | nil (v : Nat) : UnitTail 0 v v []
  | cons {n v d u : Nat} {c : Char} {t : List Char} : HexDigit c d →
      UnitTail n (v * 16 + d) u t → UnitTail (n + 1) v u (c :: t)

/-- The text goes on with the second unit of a surrogate pair. -/
def SecondUnit (role : Role) (before : List Char) (high : Nat) (outer : List Frame) (t : List Char)
    (w : Json) : Prop :=
  ∃ low a rest, (0xDC00 ≤ low ∧ low ≤ 0xDFFF) ∧ UnitText low a ∧
    t = '\\' :: 'u' :: (a ++ rest) ∧ GoesOn role (pairChar high low :: before) outer rest w

/-- The text goes on after a code unit, which is the second one of a pair or one on its own. -/
def AfterUnit (role : Role) (before : List Char) (u : Nat) (outer : List Frame) (t : List Char)
    (w : Json) : Option Nat → Prop
  | some high => (0xDC00 ≤ u ∧ u ≤ 0xDFFF) ∧ GoesOn role (pairChar high u :: before) outer t w
  | none => (u < 0xD800 ∨ 0xDFFF < u) ∧ GoesOn role (Char.ofNat u :: before) outer t w ∨
      (0xD800 ≤ u ∧ u ≤ 0xDBFF) ∧ SecondUnit role before u outer t w

/-- The texts that the grammar allows from a state on, and the document they lead to. -/
def Leads (s : State) (t : List Char) (w : Json) : Prop :=
  match s.mode with
  | .value => Begins s.outer t w
  | .firstElement => Begins (.element [] :: s.outer) t w ∨
      ∃ b rest, Blank b ∧ t = b ++ ']' :: rest ∧ Finishes s.outer (.array []) rest w
  | .nextElement before => Begins (.element before :: s.outer) t w
  | .afterElement before => EndsList before s.outer t w
  | .firstKey => BeginsKey [] s.outer t w ∨
      ∃ b rest, Blank b ∧ t = b ++ '\x7d' :: rest ∧ Finishes s.outer (.object []) rest w
  | .nextKey before => BeginsKey before s.outer t w
  | .afterKey before key => AfterKey before key s.outer t w
  | .afterMember before => EndsObject before s.outer t w
  | .word letters v => ∃ rest, t = letters ++ rest ∧ Finishes s.outer v rest w
  | .numeral n => ∃ x a rest, n.Tail a x ∧ t = a ++ rest ∧ Finishes s.outer (.number x) rest w
  | .string role before => GoesOn role before s.outer t w
  | .escape role before => GoesOn role before s.outer ('\\' :: t) w
  | .unit role before high value n => 0 < n → ∃ v u a rest, value = some v ∧ UnitTail n v u a ∧
      t = a ++ rest ∧ AfterUnit role before u s.outer rest w high
  | .pairEscape role before high => SecondUnit role before high s.outer t w
  | .pairUnit role before high => SecondUnit role before high s.outer ('\\' :: t) w
  | .done v => Blank t ∧ w = v

theorem leads_complete {outer : List Frame} {v w : Json} {t : List Char} :
    Leads (complete outer v) t w ↔ Finishes outer v t w := by
  cases outer with
  | nil => exact Iff.rfl
  | cons frame outer => cases frame <;> exact Iff.rfl

/-! ### After a value -/

theorem Blank.nil : Blank [] := by
  simp [Blank]

theorem Blank.cons {c : Char} {t : List Char} (hc : isBlank c = true) (ht : Blank t) :
    Blank (c :: t) := by
  intro d hd
  obtain rfl | hd := List.mem_cons.1 hd
  · exact isBlank_iff.1 hc
  · exact ht d hd

theorem MoreElements.cons {c : Char} {vs : List Json} {t : List Char} (hc : isBlank c = true)
    (h : MoreElements vs t) : MoreElements vs (c :: t) := by
  obtain ⟨rfl, ht⟩ | ⟨b, rest, hb, hr, rfl⟩ := h
  · exact .inl ⟨rfl, ht.cons hc⟩
  · exact .inr ⟨c :: b, rest, hb.cons hc, hr, rfl⟩

theorem MoreMembers.cons {c : Char} {ms : List (String × Json)} {t : List Char}
    (hc : isBlank c = true) (h : MoreMembers ms t) : MoreMembers ms (c :: t) := by
  obtain ⟨rfl, ht⟩ | ⟨b, rest, hb, hr, rfl⟩ := h
  · exact .inl ⟨rfl, ht.cons hc⟩
  · exact .inr ⟨c :: b, rest, hb.cons hc, hr, rfl⟩

/-- A value and what follows it in a list. -/
theorem MoreElements.written {v : Json} {vs : List Json} {a t rest : List Char} (ha : Blank a)
    (ht : Written (.value v) t) (h : MoreElements vs rest) :
    Written (.elements (v :: vs)) (a ++ (t ++ rest)) := by
  obtain ⟨rfl, hr⟩ | ⟨b, rest, hb, hr, rfl⟩ := h
  · exact .lastElement (.padded ha ht hr)
  · have hw := Written.element (.padded ha ht hb) hr
    simpa using hw

/-- A member and what follows it in an object. -/
theorem MoreMembers.written {key : String} {v : Json} {ms : List (String × Json)}
    {a k b a' t rest : List Char} (ha : Blank a) (hk : Quotes key k) (hb : Blank b)
    (ha' : Blank a') (ht : Written (.value v) t) (h : MoreMembers ms rest) :
    Written (.members ((key, v) :: ms)) (a ++ (k ++ (b ++ ':' :: (a' ++ (t ++ rest))))) := by
  obtain ⟨rfl, hr⟩ | ⟨c, rest, hc, hr, rfl⟩ := h
  · exact .lastMember ha hk hb (.padded ha' ht hr)
  · have hw := Written.member ha hk hb (.padded ha' ht hc) hr
    simpa using hw

/-- A list that begins with a value in it is a value of its own. -/
theorem Begins.endsList {before : List Json} {outer : List Frame} {t : List Char} {w : Json}
    (h : Begins (.element before :: outer) t w) :
    ∃ vs a rest, Written (.elements vs) a ∧ t = a ++ ']' :: rest ∧
      depth.depthAll vs ≤ depthLimit - (outer.length + 1) ∧
      Finishes outer (.array (before.reverse ++ vs)) rest w := by
  obtain ⟨v, a, b, rest, ha, hb, rfl, hd, vs, c, rest, hc, rfl, hds, hf⟩ := h
  refine ⟨v :: vs, a ++ (b ++ c), rest, hc.written ha hb, by simp, ?_, by simpa using hf⟩
  simp only [depth.depthAll, List.length_cons] at hd ⊢
  omega

/-- An object that begins with a key in it is a value of its own. -/
theorem BeginsKey.endsObject {before : List (String × Json)} {outer : List Frame} {t : List Char}
    {w : Json} (h : BeginsKey before outer t w) :
    ∃ ms a rest, Written (.members ms) a ∧ t = a ++ '\x7d' :: rest ∧
      depth.depthMembers ms ≤ depthLimit - (outer.length + 1) ∧
      Finishes outer (.object (before.reverse ++ ms)) rest w := by
  obtain ⟨key, a, k, rest, ha, hk, rfl, b, rest, hb, rfl, v, a', t, rest, ha', ht, rfl, hd, ms, c,
    rest, hc, rfl, hds, hf⟩ := h
  refine ⟨(key, v) :: ms, _, rest, hc.written ha hk hb ha' ht, by simp, ?_, by simpa using hf⟩
  simp only [depth.depthMembers, List.length_cons] at hd ⊢
  omega

theorem Begins.cons {outer : List Frame} {c : Char} {t : List Char} {w : Json}
    (hc : isBlank c = true) (h : Begins outer t w) : Begins outer (c :: t) w := by
  obtain ⟨v, a, b, rest, ha, hb, rfl, hd, hf⟩ := h
  exact ⟨v, c :: a, b, rest, ha.cons hc, hb, rfl, hd, hf⟩

theorem AfterKey.cons {before : List (String × Json)} {key : String} {outer : List Frame} {c : Char}
    {t : List Char} {w : Json} (hc : isBlank c = true) (h : AfterKey before key outer t w) :
    AfterKey before key outer (c :: t) w := by
  obtain ⟨a, rest, ha, rfl, hr⟩ := h
  exact ⟨c :: a, rest, ha.cons hc, rfl, hr⟩

theorem BeginsKey.cons {before : List (String × Json)} {outer : List Frame} {c : Char}
    {t : List Char} {w : Json} (hc : isBlank c = true) (h : BeginsKey before outer t w) :
    BeginsKey before outer (c :: t) w := by
  obtain ⟨key, a, k, rest, ha, hk, rfl, hr⟩ := h
  exact ⟨key, c :: a, k, rest, ha.cons hc, hk, rfl, hr⟩

/-- A comma or a bracket after an element. -/
theorem endsList_of_stepAfter {before : List Json} {outer : List Frame} {s : State} {c : Char}
    {t : List Char} {w : Json} (h : stepAfter ⟨.afterElement before, outer⟩ c = .ok s)
    (hs : Leads s t w) : EndsList before outer (c :: t) w := by
  simp only [stepAfter, refuse] at h
  split_ifs at h with hblank hcomma hend
  · obtain rfl := Except.ok.inj h
    obtain ⟨vs, a, rest, ha, rfl, hd, hf⟩ := hs
    exact ⟨vs, c :: a, rest, ha.cons hblank, rfl, hd, hf⟩
  · obtain rfl := Except.ok.inj h
    obtain ⟨vs, a, rest, ha, rfl, hd, hf⟩ := Begins.endsList hs
    exact ⟨vs, ',' :: a, rest, .inr ⟨[], a, .nil, ha, rfl⟩, by rw [hcomma]; rfl, hd, hf⟩
  · obtain rfl := Except.ok.inj h
    rw [leads_complete] at hs
    exact ⟨[], [], t, .inl ⟨rfl, .nil⟩, by rw [hend]; rfl, by simp [depth.depthAll],
      by simpa using hs⟩

/-- A comma or a brace after a member. -/
theorem endsObject_of_stepAfter {before : List (String × Json)} {outer : List Frame} {s : State}
    {c : Char} {t : List Char} {w : Json}
    (h : stepAfter ⟨.afterMember before, outer⟩ c = .ok s) (hs : Leads s t w) :
    EndsObject before outer (c :: t) w := by
  simp only [stepAfter, refuse] at h
  split_ifs at h with hblank hcomma hend
  · obtain rfl := Except.ok.inj h
    obtain ⟨ms, a, rest, ha, rfl, hd, hf⟩ := hs
    exact ⟨ms, c :: a, rest, ha.cons hblank, rfl, hd, hf⟩
  · obtain rfl := Except.ok.inj h
    obtain ⟨ms, a, rest, ha, rfl, hd, hf⟩ := BeginsKey.endsObject hs
    exact ⟨ms, ',' :: a, rest, .inr ⟨[], a, .nil, ha, rfl⟩, by rw [hcomma]; rfl, hd, hf⟩
  · obtain rfl := Except.ok.inj h
    rw [leads_complete] at hs
    exact ⟨[], [], t, .inl ⟨rfl, .nil⟩, by rw [hend]; rfl, by simp [depth.depthMembers],
      by simpa using hs⟩

/-- Only white space is read after the document. -/
theorem blank_of_stepAfter {v : Json} {outer : List Frame} {s : State} {c : Char}
    (h : stepAfter ⟨.done v, outer⟩ c = .ok s) : isBlank c = true ∧ s = ⟨.done v, outer⟩ := by
  simp only [stepAfter, refuse] at h
  split_ifs at h with hblank
  exact ⟨hblank, (Except.ok.inj h).symm⟩

/-- What the reader does after a value is what the grammar allows there. -/
theorem finishes_of_stepAfter {outer : List Frame} {v w : Json} {s : State} {c : Char}
    {t : List Char} (h : stepAfter (complete outer v) c = .ok s) (hs : Leads s t w) :
    Finishes outer v (c :: t) w := by
  cases outer with
  | nil =>
    obtain ⟨hc, rfl⟩ := blank_of_stepAfter h
    exact ⟨hs.1.cons hc, hs.2⟩
  | cons frame outer =>
    cases frame with
    | element before => exact endsList_of_stepAfter h hs
    | member before key => exact endsObject_of_stepAfter h hs

/-! ### Strings -/

theorem hexDigit_of_hexDigit? {c : Char} {v : Nat} (h : hexDigit? c = some v) : HexDigit c v := by
  have hall : ∀ n : Fin 128, ∀ v ∈ hexDigit? (Char.ofNat n),
      v < 16 ∧ (Char.ofNat n = Nat.digitChar v ∨ Char.ofNat n = (Nat.digitChar v).toUpper) := by
    decide
  have hlt : c.toNat < 128 := by
    have h9 : '9'.toNat = 57 := rfl
    have hf : 'f'.val.toNat = 102 := rfl
    have hF : 'F'.val.toNat = 70 := rfl
    have hc : c.val.toNat = c.toNat := rfl
    simp only [hexDigit?, Char.isDigit_iff_toNat, Char.le_def, UInt32.le_iff_toNat_le] at h
    split_ifs at h <;> omega
  have hv := hall ⟨c.toNat, hlt⟩ v
  simp only [Char.ofNat_toNat] at hv
  exact hv h

theorem GoesOn.cons {role : Role} {before : List Char} {c : Char} {outer : List Frame}
    {s t : List Char} {w : Json} (hs : Spelled c s) (h : GoesOn role (c :: before) outer t w) :
    GoesOn role before outer (s ++ t) w := by
  obtain ⟨cs, a, rest, ha, rfl, hr⟩ := h
  exact ⟨c :: cs, s ++ a, rest, .cons hs ha, by simp, by simpa using hr⟩

theorem UnitTail.unitText {u : Nat} {t : List Char} (h : UnitTail 4 0 u t) : UnitText u t := by
  cases h with | cons h1 h =>
  cases h with | cons h2 h =>
  cases h with | cons h3 h =>
  cases h with | cons h4 h =>
  cases h
  simpa using UnitText.digits h1 h2 h3 h4

theorem afterUnit_of_completeUnit {outer : List Frame} {role : Role} {before : List Char}
    {high : Option Nat} {u : Nat} {s : State} {t : List Char} {w : Json}
    (h : completeUnit outer role before high u = .ok s) (hs : Leads s t w) :
    AfterUnit role before u outer t w high := by
  cases high with
  | some high =>
    simp only [completeUnit, refuse] at h
    split_ifs at h with hlow
    obtain rfl := Except.ok.inj h
    exact ⟨hlow, hs⟩
  | none =>
    simp only [completeUnit, refuse] at h
    split_ifs at h with hlow hhigh
    · obtain rfl := Except.ok.inj h
      exact .inr ⟨hhigh, hs⟩
    · obtain rfl := Except.ok.inj h
      exact .inl ⟨by omega, hs⟩

theorem leads_of_stepUnit {outer : List Frame} {role : Role} {before : List Char}
    {high value : Option Nat} {n : Nat} {c : Char} {s : State} {t : List Char} {w : Json}
    (h : stepUnit outer role before high value n c = .ok s) (hs : Leads s t w) :
    Leads ⟨.unit role before high value n, outer⟩ (c :: t) w := by
  intro hn
  cases value with
  | none =>
    simp only [stepUnit, Option.bind_none] at h
    split_ifs at h with hlt
    obtain rfl := Except.ok.inj h
    obtain ⟨v, u, a, rest, hv, -⟩ := hs (by omega)
    cases hv
  | some v =>
    cases hd : hexDigit? c with
    | none =>
      simp only [stepUnit, Option.bind_some, hd, Option.map_none] at h
      split_ifs at h with hlt
      obtain rfl := Except.ok.inj h
      obtain ⟨v, u, a, rest, hv, -⟩ := hs (by omega)
      cases hv
    | some d =>
      have hex := hexDigit_of_hexDigit? hd
      have hsize := (hexDigit?_of_hexDigit hex).2
      simp only [stepUnit, Option.bind_some, hd, Option.map_some, hsize] at h
      obtain ⟨k, rfl⟩ : ∃ k, n = k + 1 := ⟨n - 1, by omega⟩
      split_ifs at h with hlt
      · obtain rfl := Except.ok.inj h
        obtain ⟨v', u, a, rest, hv, hu, rfl, hr⟩ := hs (by omega)
        obtain rfl := Option.some.inj hv
        exact ⟨v, u, c :: a, rest, rfl, .cons hex hu, rfl, hr⟩
      · obtain rfl : k = 0 := by omega
        exact ⟨v, _, [c], t, rfl, .cons hex (.nil _), rfl, afterUnit_of_completeUnit h hs⟩

/-- The second unit of a pair, from its first digit on. -/
theorem secondUnit_of_leads {role : Role} {before : List Char} {high : Nat} {outer : List Frame}
    {t : List Char} {w : Json}
    (h : Leads ⟨.unit role before (some high) (some 0) 4, outer⟩ t w) :
    SecondUnit role before high outer ('\\' :: 'u' :: t) w := by
  obtain ⟨v, u, a, rest, hv, hu, rfl, hlow, hr⟩ := h (by omega)
  obtain rfl := Option.some.inj hv
  exact ⟨u, a, rest, hlow, hu.unitText, rfl, hr⟩

theorem spelled_unit {u : Nat} {t : List Char} (h : UnitText u t)
    (hu : ¬ (0xD800 ≤ u ∧ u ≤ 0xDFFF)) : Spelled (Char.ofNat u) ('\\' :: 'u' :: t) := by
  have hlt := h.lt
  have hn := Utf8.toNat_charOfNat (n := u) (by omega)
  exact .unit (by rwa [hn])

theorem spelled_pair {high low : Nat} {a b : List Char} (ha : UnitText high a)
    (hb : UnitText low b) (hhigh : 0xD800 ≤ high ∧ high ≤ 0xDBFF)
    (hlow : 0xDC00 ≤ low ∧ low ≤ 0xDFFF) :
    Spelled (pairChar high low) ('\\' :: 'u' :: (a ++ '\\' :: 'u' :: b)) := by
  have hn : (pairChar high low).toNat = 0x10000 + (high - 0xD800) * 0x400 + (low - 0xDC00) :=
    Utf8.toNat_charOfNat (by omega)
  have hhigh' : highSurrogate (pairChar high low) = high := by
    simp only [highSurrogate, hn]
    omega
  have hlow' : lowSurrogate (pairChar high low) = low := by
    simp only [lowSurrogate, hn]
    omega
  exact .pair (by omega) (by rwa [hhigh']) (by rwa [hlow'])

/-- A character by its code unit or its two code units, from the first digit on. -/
theorem goesOn_of_leads {role : Role} {before : List Char} {outer : List Frame} {t : List Char}
    {w : Json} (h : Leads ⟨.unit role before none (some 0) 4, outer⟩ t w) :
    GoesOn role before outer ('\\' :: 'u' :: t) w := by
  obtain ⟨v, u, a, rest, hv, hu, rfl, hr⟩ := h (by omega)
  obtain rfl := Option.some.inj hv
  obtain ⟨hrange, hr⟩ | ⟨hhigh, low, b, rest, hlow, hl, rfl, hr⟩ := hr
  · exact GoesOn.cons (spelled_unit hu.unitText (by omega)) hr
  · simpa using GoesOn.cons (spelled_pair hu.unitText hl hhigh hlow) hr

theorem spelled_of_shortEscape? {letter d : Char} (h : shortEscape? letter = some d) :
    Spelled d ['\\', letter] := by
  refine .short ?_
  simp only [shortEscape?] at h
  split_ifs at h with hq hb hf hn hr ht <;> obtain rfl := Option.some.inj h
  · obtain rfl | rfl | rfl := hq <;> decide
  all_goals
    subst letter
    decide

/-! ### Steps -/

/-- The first character of a value and what the reader expects after it. -/
theorem begins_of_beginValue {outer : List Frame} {c : Char} {s : State} {t : List Char} {w : Json}
    (h : beginValue outer c = .ok s) (hs : Leads s t w) : Begins outer (c :: t) w := by
  have hplain : ∀ {v : Json} {b rest : List Char}, v.depth = 0 → Written (.value v) b →
      c :: t = b ++ rest → Finishes outer v rest w → Begins outer (c :: t) w := by
    intro v b rest hd hb ht hf
    exact ⟨v, [], b, rest, .nil, hb, ht, by omega, hf⟩
  simp only [beginValue, refuse] at h
  split_ifs at h with hn ht hf hq ha hd ho hd hm
  · obtain rfl := Except.ok.inj h
    obtain ⟨rest, rfl, hr⟩ := hs
    exact hplain rfl .null (by rw [hn]; rfl) hr
  · obtain rfl := Except.ok.inj h
    obtain ⟨rest, rfl, hr⟩ := hs
    exact hplain rfl .isTrue (by rw [ht]; rfl) hr
  · obtain rfl := Except.ok.inj h
    obtain ⟨rest, rfl, hr⟩ := hs
    exact hplain rfl .isFalse (by rw [hf]; rfl) hr
  · obtain rfl := Except.ok.inj h
    obtain ⟨cs, a, rest, ha, rfl, hr⟩ := hs
    refine hplain rfl (.string (s := String.ofList cs) ⟨a, by simpa using ha, rfl⟩) ?_ hr
    simp [hq]
  · obtain rfl := Except.ok.inj h
    obtain hs | ⟨b, rest, hb, rfl, hr⟩ := hs
    · obtain ⟨vs, a, rest, hv, rfl, hdepth, hr⟩ := hs.endsList
      dsimp only at hdepth
      refine ⟨.array vs, [], '[' :: (a ++ [']']), rest, .nil, .array hv, by simp [ha], ?_,
        by simpa using hr⟩
      simp only [depth]
      omega
    · refine ⟨.array [], [], '[' :: (b ++ [']']), rest, .nil, .emptyArray hb, by simp [ha], ?_, hr⟩
      simp only [depth, depth.depthAll]
      omega
  · obtain rfl := Except.ok.inj h
    obtain hs | ⟨b, rest, hb, rfl, hr⟩ := hs
    · obtain ⟨ms, a, rest, hv, rfl, hdepth, hr⟩ := hs.endsObject
      dsimp only at hdepth
      refine ⟨.object ms, [], '\x7b' :: (a ++ ['\x7d']), rest, .nil, .object hv, by simp [ho], ?_,
        by simpa using hr⟩
      simp only [depth]
      omega
    · refine ⟨.object [], [], '\x7b' :: (b ++ ['\x7d']), rest, .nil, .emptyObject hb, by simp [ho],
        ?_, hr⟩
      simp only [depth, depth.depthMembers]
      omega
  · obtain rfl := Except.ok.inj h
    obtain ⟨x, a, rest, ⟨l, hl, rfl, hx⟩, rfl, hr⟩ := hs
    exact hplain rfl (.number hx) (by simp [Literal.text, hl, hm]) hr
  · cases hv : Decimal.digitValue? c with
    | none => simp [hv] at h
    | some v =>
      obtain ⟨d, rfl, rfl⟩ := exists_digit hv
      obtain rfl : ⟨.numeral (Numeral.ofDigit false d), outer⟩ = s := by simpa using h
      obtain ⟨x, a, rest, hx, rfl, hr⟩ := hs
      obtain ⟨l, hl, ht, hx⟩ := Numeral.exists_literal hx
      refine hplain rfl (.number hx) ?_ hr
      simp [Literal.text, hl, ht]

/-- A string that stands for a key. -/
theorem beginsKey_of_goesOn {before : List (String × Json)} {outer : List Frame} {t : List Char}
    {w : Json} (h : GoesOn (.key before) [] outer t w) : BeginsKey before outer ('"' :: t) w := by
  obtain ⟨cs, a, rest, ha, rfl, hr⟩ := h
  exact ⟨String.ofList cs, [], '"' :: (a ++ ['"']), rest, .nil, ⟨a, by simpa using ha, rfl⟩,
    by simp, hr⟩

/-- A letter of a word, or what comes after the last one. -/
theorem leads_word {letters : List Char} {v w : Json} {outer : List Frame} {s : State} {c : Char}
    {t : List Char} (h : step ⟨.word letters v, outer⟩ c = .ok s) (hs : Leads s t w) :
    Leads ⟨.word letters v, outer⟩ (c :: t) w := by
  match letters with
  | [] => exact ⟨c :: t, rfl, finishes_of_stepAfter h hs⟩
  | [last] =>
    simp only [step, refuse] at h
    split_ifs at h with hc
    obtain rfl := Except.ok.inj h
    rw [leads_complete] at hs
    exact ⟨t, by rw [hc]; rfl, hs⟩
  | next :: letter :: letters =>
    simp only [step, refuse] at h
    split_ifs at h with hc
    obtain rfl := Except.ok.inj h
    obtain ⟨rest, rfl, hf⟩ := hs
    exact ⟨rest, by rw [hc]; rfl, hf⟩

/-- A character of a number, or what comes after the last one. -/
theorem leads_numeral {n : Numeral} {w : Json} {outer : List Frame} {s : State} {c : Char}
    {t : List Char} (h : step ⟨.numeral n, outer⟩ c = .ok s) (hs : Leads s t w) :
    Leads ⟨.numeral n, outer⟩ (c :: t) w := by
  simp only [step] at h
  cases hn : n.step c with
  | more n' =>
    obtain rfl : ⟨.numeral n', outer⟩ = s := by simpa [hn] using h
    obtain ⟨x, a, rest, hx, rfl, hf⟩ := hs
    exact ⟨x, c :: a, rest, Numeral.tail_cons hn hx, rfl, hf⟩
  | fault cause => simp [hn, refuse] at h
  | ended =>
    cases hx : n.value with
    | error cause => simp [hn, hx] at h
    | ok x =>
      simp only [hn, hx] at h
      exact ⟨x, [], c :: t, Numeral.tail_nil hx, rfl, finishes_of_stepAfter h hs⟩

/-- What the grammar allows after a character it allows before it. -/
theorem leads_cons {s s' : State} {c : Char} {t : List Char} {w : Json} (h : step s c = .ok s')
    (hs : Leads s' t w) : Leads s (c :: t) w := by
  obtain ⟨mode, outer⟩ := s
  cases mode with
  | value =>
    simp only [step] at h
    split_ifs at h with hc
    · obtain rfl := Except.ok.inj h
      exact Begins.cons hc hs
    · exact begins_of_beginValue h hs
  | firstElement =>
    simp only [step] at h
    split_ifs at h with hc hend
    · obtain rfl := Except.ok.inj h
      obtain hs | ⟨b, rest, hb, rfl, hf⟩ := hs
      · exact .inl (Begins.cons hc hs)
      · exact .inr ⟨c :: b, rest, hb.cons hc, rfl, hf⟩
    · obtain rfl := Except.ok.inj h
      rw [leads_complete] at hs
      exact .inr ⟨[], t, .nil, by rw [hend]; rfl, hs⟩
    · exact .inl (begins_of_beginValue h hs)
  | nextElement before =>
    simp only [step, refuse] at h
    split_ifs at h with hc hend
    · obtain rfl := Except.ok.inj h
      exact Begins.cons hc hs
    · exact begins_of_beginValue h hs
  | afterElement before => exact endsList_of_stepAfter h hs
  | firstKey =>
    simp only [step, refuse] at h
    split_ifs at h with hc hend hq
    · obtain rfl := Except.ok.inj h
      obtain hs | ⟨b, rest, hb, rfl, hf⟩ := hs
      · exact .inl (BeginsKey.cons hc hs)
      · exact .inr ⟨c :: b, rest, hb.cons hc, rfl, hf⟩
    · obtain rfl := Except.ok.inj h
      rw [leads_complete] at hs
      exact .inr ⟨[], t, .nil, by rw [hend]; rfl, hs⟩
    · obtain rfl := Except.ok.inj h
      rw [hq]
      exact .inl (beginsKey_of_goesOn hs)
  | nextKey before =>
    simp only [step, refuse] at h
    split_ifs at h with hc hend hq
    · obtain rfl := Except.ok.inj h
      exact BeginsKey.cons hc hs
    · obtain rfl := Except.ok.inj h
      rw [hq]
      exact beginsKey_of_goesOn hs
  | afterKey before key =>
    simp only [step, refuse] at h
    split_ifs at h with hc hcolon
    · obtain rfl := Except.ok.inj h
      exact AfterKey.cons hc hs
    · obtain rfl := Except.ok.inj h
      exact ⟨[], t, .nil, by rw [hcolon]; rfl, hs⟩
  | afterMember before => exact endsObject_of_stepAfter h hs
  | word letters v => exact leads_word h hs
  | numeral n => exact leads_numeral h hs
  | string role before =>
    simp only [step, refuse] at h
    split_ifs at h with hq hb hctl
    · obtain rfl := Except.ok.inj h
      refine ⟨[], [], t, .nil, by rw [hq]; rfl, ?_⟩
      cases role with
      | value => simpa [completeString, leads_complete, AfterString] using hs
      | key members => simpa [completeString, AfterString, Leads] using hs
    · obtain rfl := Except.ok.inj h
      rw [hb]
      exact hs
    · obtain rfl := Except.ok.inj h
      exact GoesOn.cons (.raw (by omega) hq hb) hs
  | escape role before =>
    simp only [step, refuse] at h
    split_ifs at h with hu
    · obtain rfl := Except.ok.inj h
      rw [hu]
      exact goesOn_of_leads hs
    · cases hd : shortEscape? c with
      | none => simp [hd] at h
      | some d =>
        obtain rfl : ⟨.string role (d :: before), outer⟩ = s' := by simpa [hd] using h
        exact GoesOn.cons (spelled_of_shortEscape? hd) hs
  | unit role before high value n => exact leads_of_stepUnit h hs
  | pairEscape role before high =>
    simp only [step, refuse] at h
    split_ifs at h with hb
    obtain rfl := Except.ok.inj h
    rw [hb]
    exact hs
  | pairUnit role before high =>
    simp only [step, refuse] at h
    split_ifs at h with hu
    obtain rfl := Except.ok.inj h
    rw [hu]
    exact secondUnit_of_leads hs
  | done v =>
    obtain ⟨hc, rfl⟩ := blank_of_stepAfter h
    exact ⟨hs.1.cons hc, hs.2⟩

/-- The reader may stop after the document, which may be a number that nothing has ended yet. -/
theorem finish_cases {s : State} {v : Json} (h : finish s = .ok v) :
    s.mode = .done v ∨ ∃ n x, s = ⟨.numeral n, []⟩ ∧ n.value = .ok x ∧ v = .number x := by
  obtain ⟨mode, outer⟩ := s
  cases mode with
  | numeral n =>
    simp only [finish] at h
    cases hx : n.value with
    | error cause => simp [hx] at h
    | ok x =>
      simp only [hx] at h
      cases outer with
      | nil => exact .inr ⟨n, x, rfl, hx, by simpa [complete, finishIn] using h.symm⟩
      | cons frame outer => cases frame <;> simp [complete, finishIn] at h
  | done u =>
    obtain rfl : u = v := by simpa [finish] using h
    exact .inl rfl
  | _ => simp [finish] at h

theorem leads_done {s : State} {v w : Json} {t : List Char} (h : s.mode = .done v) :
    Leads s t w ↔ Blank t ∧ w = v := by
  rw [Leads, h]

/-- Where the reader may stop, the grammar allows the end of the text. -/
theorem leads_nil {s : State} {w : Json} (h : finish s = .ok w) : Leads s [] w := by
  obtain hdone | ⟨n, x, rfl, hx, rfl⟩ := finish_cases h
  · exact (leads_done hdone).2 ⟨.nil, rfl⟩
  · exact ⟨x, [], [], Numeral.tail_nil hx, rfl, .nil, rfl⟩

/-- A stretch of text that leads to a document is one that the grammar allows. -/
theorem leads_of_reach {s s' : State} {t : List Char} {w : Json} (h : reach s t = some s')
    (hw : finish s' = .ok w) : Leads s t w := by
  induction t generalizing s with
  | nil =>
    obtain rfl := Option.some.inj h
    exact leads_nil hw
  | cons c t ih =>
    cases hc : step s c with
    | error r => simp [reach_cons_error hc] at h
    | ok s₁ =>
      rw [reach_cons hc] at h
      exact leads_cons hc (ih h)

/-- The reader accepts exactly the texts of the documents that are not nested too deeply, and reads
each as the document it is a text of. -/
theorem ofText_eq_ok_iff_isText {text : List Char} {v : Json} :
    ofText text = .ok v ↔ IsText v text ∧ v.depth ≤ depthLimit := by
  constructor
  · intro h
    obtain ⟨s, hs, hv⟩ := ofText_eq_ok_iff.1 h
    obtain ⟨w, a, b, c, ha, hb, rfl, hd, hc, rfl⟩ := leads_of_reach hs hv
    exact ⟨.padded ha hb hc, hd⟩
  · intro ⟨hv, hd⟩
    exact ofText_of_isText hv hd

/-! ### Continued texts -/

/-- Where the reader may stop, only white space may follow, unless what it has read is a number. -/
theorem continued_of_finish {s : State} {v w : Json} {t : List Char} (h : finish s = .ok v)
    (hs : Leads s t w) : Blank t ∧ w = v ∨ ∃ x y, v = .number x ∧ w = .number y := by
  obtain hdone | ⟨n, x, rfl, hx, rfl⟩ := finish_cases h
  · exact .inl ((leads_done hdone).1 hs)
  · obtain ⟨y, a, rest, -, -, -, rfl⟩ := hs
    exact .inr ⟨x, y, rfl, rfl⟩

/-- Of two documents of which one text continues the other, both are numbers or both are the same.
-/
theorem continued_of_ofText {text more : List Char} {v w : Json} (hv : ofText text = .ok v)
    (hw : ofText (text ++ more) = .ok w) :
    Blank more ∧ w = v ∨ ∃ x y, v = .number x ∧ w = .number y := by
  obtain ⟨s, hs, hsv⟩ := ofText_eq_ok_iff.1 hv
  obtain ⟨s', hs', hsw⟩ := ofText_eq_ok_iff.1 hw
  rw [reach_append_of hs] at hs'
  exact continued_of_finish hsv (leads_of_reach hs' hsw)

/-- White space after a document changes nothing. -/
theorem ofText_append_blank {text more : List Char} {v : Json} (hv : ofText text = .ok v)
    (hb : Blank more) : ofText (text ++ more) = .ok v := by
  obtain ⟨htext, hd⟩ := ofText_eq_ok_iff_isText.1 hv
  refine ofText_of_isText ?_ hd
  cases htext with
  | @padded _ a t b ha ht hb' =>
    have hpadded : IsText v (a ++ (t ++ (b ++ more))) :=
      .padded ha ht fun c hc => (List.mem_append.1 hc).elim (hb' c) (hb c)
    simpa using hpadded

end SierraFootprint.Json
