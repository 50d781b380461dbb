import SierraFootprint.Proofs.Json.Grammar

/-!
# Sources that are refused

The reader takes a text from the left, so that the first thing in it that cannot be read is where it
stops: a number that is out of range, a surrogate that lacks its other half, or a list or object
that is too deep. A source with any of these is refused, whatever comes after it.
-/
namespace SierraFootprint.Json

/-! ### Numbers out of range -/

/-- What may follow a value is no part of a numeral. -/
theorem Numeral.step_ne_more {n : Numeral} {c : Char} (hc : c ∈ terminators) (k : Numeral) :
    n.step c ≠ .more k := by
  have hall : ∀ c ∈ terminators, Decimal.digitValue? c = none ∧ c ≠ '.' ∧ c ≠ 'e' ∧ c ≠ 'E' ∧
      c ≠ '+' ∧ c ≠ '-' := by
    intro c hc
    fin_cases hc <;> decide
  obtain ⟨hd, hp, he, hE, hplus, hminus⟩ := hall c hc
  cases n <;>
    simp [Numeral.step, Numeral.afterWhole, Numeral.afterFraction, hd, hp, he, hE, hplus, hminus]

/-- A numeral at a fault is refused by then, or by what follows it. -/
theorem Numeral.Arrives.reach_none {n : Numeral} {text : List Char} {cause : Cause}
    (h : n.Arrives text (.error cause)) (outer : List Frame) {c : Char} (hc : c ∈ terminators)
    (rest : List Char) : reach ⟨.numeral n, outer⟩ (text ++ c :: rest) = none := by
  generalize hr : Except.error cause = r at h
  induction h with
  | ended n =>
    cases hs : n.step c with
    | more k => exact absurd hs (Numeral.step_ne_more hc k)
    | fault cause => exact reach_cons_error (r := ⟨cause, 1⟩) (by simp [Json.step, hs, refuse]) rest
    | ended => exact reach_cons_error (r := ⟨cause, 0⟩) (by simp [Json.step, hs, ← hr]) rest
  | @more n k d text r hs _ ih =>
    rw [List.cons_append, reach_cons (t := ⟨.numeral k, outer⟩) (by simp [Json.step, hs])]
    exact ih hr
  | @fault n d fault text hs =>
    exact reach_cons_error (r := ⟨fault, 1⟩) (by simp [Json.step, hs, refuse]) _

/-! ### Surrogates without their other half -/

variable (outer : List Frame) (role : Role) (before rest : List Char)

theorem reach_escapedUnit {u : Nat} {t : List Char} (h : UnitText u t) :
    reach ⟨.string role before, outer⟩ ('\\' :: 'u' :: (t ++ rest)) =
      (completeUnit outer role before none u).toOption.bind (reach · rest) := by
  rw [reach_cons (t := ⟨.escape role before, outer⟩) rfl,
    reach_cons (t := ⟨.unit role before none (some 0) 4, outer⟩) rfl, reach_append, reach_unit h]

theorem reach_secondUnit {u : Nat} {t : List Char} (h : UnitText u t) (high : Nat) :
    reach ⟨.pairEscape role before high, outer⟩ ('\\' :: 'u' :: (t ++ rest)) =
      (completeUnit outer role before (some high) u).toOption.bind (reach · rest) := by
  rw [reach_cons (t := ⟨.pairUnit role before high, outer⟩) rfl,
    reach_cons (t := ⟨.unit role before (some high) (some 0) 4, outer⟩) rfl, reach_append,
    reach_unit h]

/-- After the first unit of a pair nothing but a code unit may come. -/
theorem reach_pairEscape_none {c : Char} {t : List Char} (h : (Piece.char c).HasText t)
    (high : Nat) : reach ⟨.pairEscape role before high, outer⟩ (t ++ rest) = none := by
  cases h with
  | raw _ _ hb => exact reach_cons_error (r := ⟨.unpairedSurrogate, 1⟩) (by simp [step, hb, refuse]) _
  | @short letter c hm =>
    have hletter : ∀ m ∈ shortEscapes, m.1 ≠ 'u' := by decide
    rw [List.cons_append, reach_cons (t := ⟨.pairUnit role before high, outer⟩) rfl]
    exact reach_cons_error (r := ⟨.unpairedSurrogate, 1⟩)
      (by simp [step, hletter _ hm, refuse]) rest

/-- A string in which a surrogate lacks its other half is refused. -/
theorem reach_pieces_none {ps : List Piece} {t : List Char} (h : PiecesText ps t)
    (hnone : characters? ps = none) :
    reach ⟨.string role before, outer⟩ (t ++ '"' :: rest) = none := by
  fun_induction characters? ps generalizing t before with
  | case1 => cases hnone
  | case2 c ps ih =>
    cases h with | cons hp hps =>
    rw [List.append_assoc, reach_append_of (hp.spelled.reach outer role before)]
    exact ih _ hps (Option.map_eq_none_iff.1 hnone)
  | case3 u ps hlow =>
    cases h with | cons hp hps =>
    cases hp with | unit hu =>
    simp only [List.cons_append, List.append_assoc, reach_escapedUnit _ _ _ _ hu]
    simp [completeUnit, hlow, refuse, Except.toOption]
  | case4 u hlow hhigh v ps hv ih =>
    cases h with | cons hp hps =>
    cases hp with | unit hu =>
    cases hps with | cons hq hqs =>
    cases hq with | unit hv' =>
    have hreach := (spelled_pair hu hv' hhigh hv).reach outer role before
    simpa using (reach_append_of hreach _).trans (ih _ hqs (Option.map_eq_none_iff.1 hnone))
  | case5 u hlow hhigh v ps hv =>
    cases h with | cons hp hps =>
    cases hp with | unit hu =>
    cases hps with | cons hq hqs =>
    cases hq with | unit hv' =>
    simp only [List.cons_append, List.append_assoc, reach_escapedUnit _ _ _ _ hu]
    simp [completeUnit, hlow, hhigh, Except.toOption, reach_secondUnit _ _ _ _ hv', hv, refuse]
  | case6 u ps hlow hhigh hnot =>
    cases h with | cons hp hps =>
    cases hp with | unit hu =>
    simp only [List.cons_append, List.append_assoc, reach_escapedUnit _ _ _ _ hu]
    simp only [completeUnit, hlow, hhigh, if_false, Except.toOption]
    cases hps with
    | nil => exact reach_cons_error (r := ⟨.unpairedSurrogate, 1⟩) rfl rest
    | @cons q qs t more hq hqs =>
      cases q with
      | char c =>
        rw [List.append_assoc]
        exact reach_pairEscape_none _ _ _ _ hq u
      | unit v => exact absurd rfl (hnot v qs)
  | case7 u ps hlow hhigh ih =>
    cases h with | cons hp hps =>
    cases hp with | unit hu =>
    rw [List.append_assoc, reach_append_of ((spelled_unit hu (by omega)).reach outer role before)]
    exact ih _ hps (Option.map_eq_none_iff.1 hnone)

/-! ### Values -/

/-- A text is refused by the time that anything which may follow a value has been read. -/
def Refused (s : State) (text : List Char) : Prop :=
  ∀ c ∈ terminators, ∀ rest, reach s (text ++ c :: rest) = none

theorem Refused.append_cons {s : State} {a : List Char} (h : Refused s a) {c : Char}
    (hc : c ∈ terminators) (b : List Char) : Refused s (a ++ c :: b) := by
  intro d _ rest
  simpa using h c hc (b ++ d :: rest)

theorem Refused.append_blank {s : State} {a b : List Char} (h : Refused s a) (hb : Blank b) :
    Refused s (a ++ b) := by
  cases b with
  | nil => simpa using h
  | cons d b => exact h.append_cons (mem_terminators (hb d (by simp))) b

theorem Refused.of_reach {s s' : State} {a t : List Char} (ha : reach s a = some s')
    (h : Refused s' t) : Refused s (a ++ t) := by
  intro c hc rest
  rw [List.append_assoc, reach_append_of ha]
  exact h c hc rest

theorem Refused.of_step {s s' : State} {c : Char} {t : List Char} (hc : step s c = .ok s')
    (h : Refused s' t) : Refused s (c :: t) :=
  of_reach (a := [c]) (reach_cons hc []) h

/-- A list or object that is too deep is refused where it opens. -/
theorem Awaits.refused_opening {s : State} {outer : List Frame} (h : Awaits s outer) {c : Char}
    (hc : c = '[' ∨ c = '\x7b') {t : List Char}
    (ht : outer.length < depthLimit → Refused s (c :: t)) : Refused s (c :: t) := by
  by_cases hdeep : outer.length < depthLimit
  · exact ht hdeep
  · have hstep : step s c = .error ⟨.tooDeep, 1⟩ := by
      obtain rfl | rfl := hc <;> rw [h.step_eq (by decide) (by decide)] <;>
        simp [beginValue, hdeep, refuse]
    exact fun _ _ _ => reach_cons_error hstep _

namespace Source

/-- What becomes of a phrase in which something cannot be read. -/
def Refuses : Phrase → List Char → Prop
  | .value v, text | .padded v, text => ∀ s outer, Awaits s outer → outer.length ≤ depthLimit →
      ¬ v.IsReadable outer.length → Refused s text
  | .elements vs, text => ∀ s before outer, Awaits s (.element before :: outer) →
      outer.length < depthLimit → (∃ v ∈ vs, ¬ v.IsReadable (outer.length + 1)) → Refused s text
  | .members ms, text => ∀ s before outer, AwaitsKey outer s before →
      outer.length < depthLimit → (∃ m ∈ ms, ¬ MemberIsReadable (outer.length + 1) m) →
      Refused s text

/-- What can be read is read. -/
theorem HasText.exists_reach {v : Source} {t : List Char} (h : HasText (.padded v) t) {s : State}
    {outer : List Frame} (ha : Awaits s outer) (hv : v.IsReadable outer.length) :
    ∃ x s', reach s t = some s' ∧ Completed outer x s' := by
  obtain ⟨x, hx, hdepth⟩ := hv
  obtain ⟨s', hs', hc⟩ := (h.written (q := .padded x) (by simp [Phrase.value?, hx])).reads
    s outer ha hdepth
  exact ⟨x, s', hs', hc⟩

theorem refuses_member {key : List Piece} {v : Source} {a k b t : List Char} (hA : Blank a)
    (hk : PieceQuotes key k) (hB : Blank b) (ht : Refuses (.padded v) t) {s : State}
    {before : List (String × Json)} {outer : List Frame} (ha : AwaitsKey outer s before)
    (houter : outer.length < depthLimit) (hm : ¬ MemberIsReadable (outer.length + 1) (key, v)) :
    Refused s (a ++ (k ++ (b ++ ':' :: t))) := by
  cases hkey : characters? key with
  | none =>
    obtain ⟨inside, hinside, rfl⟩ := hk
    refine .of_reach (reach_blank (fun _ => ha.step_blank) hA) fun c _ rest => ?_
    rw [List.cons_append, List.cons_append, reach_cons ha.step_quote]
    simpa using reach_pieces_none outer (.key before) [] _ hinside hkey
  | some cs =>
    have hreach := reach_key hA (quotes_of_characters? hk hkey) hB ha
    have hv : ¬ v.IsReadable (outer.length + 1) := fun hv => hm ⟨⟨cs, hkey⟩, hv⟩
    intro c hc rest
    have hrefused := ht _ _ (.value (.member before (String.ofList cs) :: outer)) houter hv c hc rest
    simpa using (hreach (t ++ c :: rest)).trans hrefused

/-- The first thing that cannot be read is where the reader stops. -/
theorem HasText.refuses {p : Phrase} {text : List Char} (h : HasText p text) : Refuses p text := by
  induction h with
  | null => exact fun s outer ha houter hv => absurd (isReadable_null houter) hv
  | isTrue | isFalse => exact fun s outer ha houter hv => absurd (isReadable_bool _ houter) hv
  | number l =>
    intro s outer ha houter hv c hc rest
    cases hl : l.value with
    | ok x => exact absurd (isReadable_number hl houter) hv
    | error cause =>
      rw [ha.reach_literal]
      exact (hl ▸ l.arrives).reach_none outer hc rest
  | @string ps t hps =>
    intro s outer ha houter hv c hc rest
    cases hcs : characters? ps with
    | some cs => exact absurd (isReadable_string hcs houter) hv
    | none =>
      obtain ⟨inside, hinside, rfl⟩ := hps
      rw [List.cons_append, reach_cons (t := ⟨.string .value [], outer⟩) (by
        rw [ha.step_eq (by decide) (by decide)]
        rfl)]
      simpa using reach_pieces_none outer .value [] (c :: rest) hinside hcs
  | emptyArray hb =>
    exact fun s outer ha houter hv => ha.refused_opening (.inl rfl) fun hdeep =>
      absurd (isReadable_array hdeep (by simp)) hv
  | @array vs t _ ih =>
    intro s outer ha houter hv
    refine ha.refused_opening (.inl rfl) fun hdeep => ?_
    have hsome : ∃ v ∈ vs, ¬ v.IsReadable (outer.length + 1) := by
      by_contra hall
      exact hv (isReadable_array hdeep (by simpa using hall))
    have hrefused := ih _ [] outer (.first outer) hdeep hsome
    exact .of_step (ha.step_bracket hdeep) (hrefused.append_cons (by decide) [])
  | emptyObject hb =>
    exact fun s outer ha houter hv => ha.refused_opening (.inr rfl) fun hdeep =>
      absurd (isReadable_object hdeep (by simp)) hv
  | @object ms t _ ih =>
    intro s outer ha houter hv
    refine ha.refused_opening (.inr rfl) fun hdeep => ?_
    have hsome : ∃ m ∈ ms, ¬ MemberIsReadable (outer.length + 1) m := by
      by_contra hall
      exact hv (isReadable_object hdeep (by simpa using hall))
    have hrefused := ih _ [] outer .first hdeep hsome
    exact .of_step (ha.step_brace hdeep) (hrefused.append_cons (by decide) [])
  | padded hA _ hB ih =>
    intro s outer ha houter hv
    exact .of_reach (reach_blank (fun _ => ha.step_blank) hA)
      ((ih s outer ha houter hv).append_blank hB)
  | lastElement _ ih =>
    intro s before outer ha houter hv
    exact ih s _ ha houter (by simpa using hv)
  -- Either this element cannot be read, or the reader comes past it to one that cannot.
  | @element v vs t rest hv _ iht ihrest =>
    intro s before outer ha houter hsome
    by_cases hreadable : v.IsReadable (outer.length + 1)
    · obtain ⟨x, s', hs', hc⟩ := hv.exists_reach ha hreadable
      have hrest : ∃ v ∈ vs, ¬ v.IsReadable (outer.length + 1) := by
        simpa [hreadable] using hsome
      exact .of_reach hs' (.of_step hc.step_nextElement (ihrest _ _ outer (.next _ _) houter hrest))
    · exact (iht s _ ha houter hreadable).append_cons (by decide) rest
  | lastMember hA hk hB _ ih =>
    intro s before outer ha houter hm
    exact refuses_member hA hk hB ih ha houter (by simpa using hm)
  | @member key v ms a k b t rest hA hk hB hv _ iht ihrest =>
    intro s before outer ha houter hsome
    have hsplit : a ++ (k ++ (b ++ ':' :: (t ++ ',' :: rest))) =
        (a ++ (k ++ (b ++ ':' :: t))) ++ ',' :: rest := by simp
    rw [hsplit]
    by_cases hreadable : MemberIsReadable (outer.length + 1) (key, v)
    · have hrest : ∃ m ∈ ms, ¬ MemberIsReadable (outer.length + 1) m := by
        simpa [hreadable] using hsome
      obtain ⟨⟨cs, hcs⟩, hreadable⟩ := hreadable
      obtain ⟨x, s', hs', hc⟩ := hv.exists_reach
        (.value (.member before (String.ofList cs) :: outer)) hreadable
      rw [← reach_key hA (quotes_of_characters? hk hcs) hB ha] at hs'
      exact .of_reach hs' (.of_step hc.step_nextKey (ihrest _ _ outer (.next _) houter hrest))
    · exact (refuses_member hA hk hB iht ha houter hreadable).append_cons (by decide) rest

end Source
end SierraFootprint.Json
