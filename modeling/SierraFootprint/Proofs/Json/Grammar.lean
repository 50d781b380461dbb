import SierraFootprint.Proofs.Json.Accepted

/-!
# The grammar of JSON

The grammar sets no limit to the depth of lists and objects or to the size of numbers, and lets a
string spell any code units. A source is a value as the grammar has it. Not every source stands for
a value that is read: a number may be out of range, a surrogate may lack its other half, and lists
and objects may be too deep.
-/
namespace SierraFootprint.Json

/-! ### Strings -/

/-- A part of a string: a character, as it is or by a letter after a backslash, or a code unit. -/
inductive Piece
  | char (c : Char)
  | unit (u : Nat)

inductive Piece.HasText : Piece → List Char → Prop
  | raw {c : Char} : 0x20 ≤ c.toNat → c ≠ '"' → c ≠ '\\' → HasText (.char c) [c]
  | short {letter c : Char} : (letter, c) ∈ shortEscapes → HasText (.char c) ['\\', letter]
  | unit {u : Nat} {t : List Char} : UnitText u t → HasText (.unit u) ('\\' :: 'u' :: t)

/-- The texts of a string between its quotes, by its parts. -/
inductive PiecesText : List Piece → List Char → Prop
  | nil : PiecesText [] []
  | cons {p : Piece} {ps : List Piece} {t rest : List Char} : p.HasText t → PiecesText ps rest →
      PiecesText (p :: ps) (t ++ rest)

/-- A string in its quotes, by its parts. -/
def PieceQuotes (ps : List Piece) (text : List Char) : Prop :=
  ∃ t, PiecesText ps t ∧ text = '"' :: (t ++ ['"'])

/-- The first units of surrogate pairs. -/
abbrev IsHigh (u : Nat) : Prop := 0xD800 ≤ u ∧ u ≤ 0xDBFF

/-- The second units of surrogate pairs. -/
abbrev IsLow (u : Nat) : Prop := 0xDC00 ≤ u ∧ u ≤ 0xDFFF

/-- The characters of a string. There are none if a surrogate lacks its other half. -/
def characters? : List Piece → Option (List Char)
  | [] => some []
  | .char c :: ps => (characters? ps).map (c :: ·)
  | .unit u :: ps =>
    if IsLow u then none
    else if IsHigh u then
      match ps with
      | .unit v :: ps => if IsLow v then (characters? ps).map (pairChar u v :: ·) else none
      | _ => none
    else (characters? ps).map (Char.ofNat u :: ·)

/-! ### Values -/

/-- A value as the grammar has it. -/
inductive Source
  | null
  | bool (b : Bool)
  | number (l : Literal)
  | string (ps : List Piece)
  | array (elements : List Source)
  | object (members : List (List Piece × Source))

namespace Source

/-- What the grammar has texts for. -/
inductive Phrase
  | value (v : Source)
  /-- A value with white space around it. -/
  | padded (v : Source)
  /-- The elements of a list, of which there is at least one. -/
  | elements (vs : List Source)
  /-- The members of an object, of which there is at least one. -/
  | members (ms : List (List Piece × Source))

/-- The texts that the grammar has for a phrase. -/
inductive HasText : Phrase → List Char → Prop
  | null : HasText (.value .null) ['n', 'u', 'l', 'l']
  | isTrue : HasText (.value (.bool true)) ['t', 'r', 'u', 'e']
  | isFalse : HasText (.value (.bool false)) ['f', 'a', 'l', 's', 'e']
  | number (l : Literal) : HasText (.value (.number l)) l.text
  | string {ps : List Piece} {t : List Char} : PieceQuotes ps t → HasText (.value (.string ps)) t
  | emptyArray {b : List Char} : Blank b → HasText (.value (.array [])) ('[' :: (b ++ [']']))
  | array {vs : List Source} {t : List Char} : HasText (.elements vs) t →
      HasText (.value (.array vs)) ('[' :: (t ++ [']']))
  | emptyObject {b : List Char} : Blank b →
      HasText (.value (.object [])) ('\x7b' :: (b ++ ['\x7d']))
  | object {ms : List (List Piece × Source)} {t : List Char} : HasText (.members ms) t →
      HasText (.value (.object ms)) ('\x7b' :: (t ++ ['\x7d']))
  | padded {v : Source} {a t b : List Char} : Blank a → HasText (.value v) t → Blank b →
      HasText (.padded v) (a ++ (t ++ b))
  | lastElement {v : Source} {t : List Char} : HasText (.padded v) t → HasText (.elements [v]) t
  | element {v : Source} {vs : List Source} {t rest : List Char} : HasText (.padded v) t →
      HasText (.elements vs) rest → HasText (.elements (v :: vs)) (t ++ ',' :: rest)
  | lastMember {key : List Piece} {v : Source} {a k b t : List Char} : Blank a →
      PieceQuotes key k → Blank b → HasText (.padded v) t →
      HasText (.members [(key, v)]) (a ++ (k ++ (b ++ ':' :: t)))
  | member {key : List Piece} {v : Source} {ms : List (List Piece × Source)}
      {a k b t rest : List Char} : Blank a → PieceQuotes key k → Blank b → HasText (.padded v) t →
      HasText (.members ms) rest →
      HasText (.members ((key, v) :: ms)) (a ++ (k ++ (b ++ ':' :: (t ++ ',' :: rest))))

/-- The value that a source stands for. There is none if a number in it is out of range or a
surrogate in it lacks its other half. -/
def value? : Source → Option Json
  | null => some .null
  | bool b => some (.bool b)
  | number l => l.value.toOption.map .number
  | string ps => (characters? ps).map fun cs => .string (String.ofList cs)
  | array vs => (values? vs).map .array
  | object ms => (members? ms).map .object
where
  values? : List Source → Option (List Json)
    | [] => some []
    | v :: vs => (value? v).bind fun x => (values? vs).map (x :: ·)
  members? : List (List Piece × Source) → Option (List (String × Json))
    | [] => some []
    | (key, v) :: ms => (characters? key).bind fun cs =>
        (value? v).bind fun x => (members? ms).map ((String.ofList cs, x) :: ·)

/-- A source can be read inside a number of lists and objects: it has a value, and nothing in it is
too deep. -/
def IsReadable (outer : Nat) (v : Source) : Prop :=
  ∃ x, v.value? = some x ∧ outer + x.depth ≤ depthLimit

/-- A member of an object can be read inside a number of lists and objects. -/
def MemberIsReadable (outer : Nat) (m : List Piece × Source) : Prop :=
  (∃ cs, characters? m.1 = some cs) ∧ m.2.IsReadable outer

end Source

/-! ### Sources that have a value -/

theorem Piece.HasText.spelled {c : Char} {t : List Char} (h : (Piece.char c).HasText t) :
    Spelled c t := by
  cases h with
  | raw h hq hb => exact .raw h hq hb
  | short h => exact .short h

/-- The characters of a string are spelled by its parts. -/
theorem inside_of_characters? {ps : List Piece} {cs t : List Char} (h : PiecesText ps t)
    (hcs : characters? ps = some cs) : Inside cs t := by
  fun_induction characters? ps generalizing cs t with
  | case1 =>
    cases h
    cases hcs
    exact .nil
  | case2 c ps ih =>
    obtain ⟨more, hmore, rfl⟩ := Option.map_eq_some_iff.1 hcs
    cases h with | cons hp hps =>
    exact .cons hp.spelled (ih hps hmore)
  | case3 | case5 | case6 => cases hcs
  | case4 u hlow hhigh v ps hv ih =>
    obtain ⟨more, hmore, rfl⟩ := Option.map_eq_some_iff.1 hcs
    cases h with | cons hp hps =>
    cases hp with | unit hu =>
    cases hps with | @cons _ _ _ rest hq hqs =>
    cases hq with | unit hv' =>
    simpa using Inside.cons (spelled_pair hu hv' hhigh hv) (ih hqs hmore)
  | case7 u ps hlow hhigh ih =>
    obtain ⟨more, hmore, rfl⟩ := Option.map_eq_some_iff.1 hcs
    cases h with | cons hp hps =>
    cases hp with | unit hu =>
    exact .cons (spelled_unit hu (by omega)) (ih hps hmore)

theorem quotes_of_characters? {ps : List Piece} {cs t : List Char} (h : PieceQuotes ps t)
    (hcs : characters? ps = some cs) : Quotes (String.ofList cs) t := by
  obtain ⟨inside, hinside, rfl⟩ := h
  exact ⟨inside, by simpa using inside_of_characters? hinside hcs, rfl⟩

namespace Source

open value? (values? members?)

/-- The phrase of values that a phrase of sources stands for. -/
def Phrase.value? : Phrase → Option Json.Phrase
  | value v => v.value?.map .value
  | padded v => v.value?.map .padded
  | elements vs => (values? vs).map .elements
  | members ms => (members? ms).map .members

/-- What the grammar has as text of a source is a way of writing its value. -/
theorem HasText.written {p : Phrase} {q : Json.Phrase} {text : List Char} (h : HasText p text)
    (hq : p.value? = some q) : Written q text := by
  induction h generalizing q with
  | null | isTrue | isFalse =>
    cases hq
    constructor
  | number l =>
    simp only [Phrase.value?, Source.value?, Option.map_map, Option.map_eq_some_iff] at hq
    obtain ⟨x, hx, rfl⟩ := hq
    refine .number ?_
    cases hl : l.value <;> simp_all [Except.toOption]
  | string hps =>
    simp only [Phrase.value?, Source.value?, Option.map_map, Option.map_eq_some_iff] at hq
    obtain ⟨cs, hcs, rfl⟩ := hq
    exact .string (quotes_of_characters? hps hcs)
  | emptyArray hb =>
    cases hq
    exact .emptyArray hb
  | array _ ih =>
    simp only [Phrase.value?, Source.value?, Option.map_map, Option.map_eq_some_iff] at hq ih
    obtain ⟨xs, hxs, rfl⟩ := hq
    exact .array (ih ⟨xs, hxs, rfl⟩)
  | emptyObject hb =>
    cases hq
    exact .emptyObject hb
  | object _ ih =>
    simp only [Phrase.value?, Source.value?, Option.map_map, Option.map_eq_some_iff] at hq ih
    obtain ⟨xs, hxs, rfl⟩ := hq
    exact .object (ih ⟨xs, hxs, rfl⟩)
  | padded ha _ hb ih =>
    obtain ⟨x, hx, rfl⟩ := Option.map_eq_some_iff.1 hq
    exact .padded ha (ih (by simp [Phrase.value?, hx])) hb
  | lastElement _ ih =>
    simp only [Phrase.value?, values?, Option.map_eq_some_iff, Option.bind_eq_some_iff] at hq ih
    obtain ⟨_, ⟨x, hx, _, hnil, rfl⟩, rfl⟩ := hq
    cases hnil
    exact .lastElement (ih ⟨x, hx, rfl⟩)
  | element _ _ iht ihrest =>
    simp only [Phrase.value?, values?, Option.map_eq_some_iff, Option.bind_eq_some_iff] at hq iht
    obtain ⟨_, ⟨x, hx, xs, hxs, rfl⟩, rfl⟩ := hq
    exact .element (iht ⟨x, hx, rfl⟩) (ihrest (by simp [Phrase.value?, hxs]))
  | lastMember ha hk hb _ ih =>
    simp only [Phrase.value?, members?, Option.map_eq_some_iff, Option.bind_eq_some_iff] at hq ih
    obtain ⟨_, ⟨cs, hcs, x, hx, _, hnil, rfl⟩, rfl⟩ := hq
    cases hnil
    exact .lastMember ha (quotes_of_characters? hk hcs) hb (ih ⟨x, hx, rfl⟩)
  | member ha hk hb _ _ iht ihrest =>
    simp only [Phrase.value?, members?, Option.map_eq_some_iff, Option.bind_eq_some_iff] at hq iht
    obtain ⟨_, ⟨cs, hcs, x, hx, xs, hxs, rfl⟩, rfl⟩ := hq
    exact .member ha (quotes_of_characters? hk hcs) hb (iht ⟨x, hx, rfl⟩)
      (ihrest (by simp [Phrase.value?, hxs]))

/-! ### Lists and objects of what can be read -/

/-- Elements that can be read have values, none of which is too deep. -/
theorem exists_values {outer : Nat} {vs : List Source} (h : ∀ v ∈ vs, v.IsReadable outer)
    (houter : outer ≤ depthLimit) :
    ∃ xs, values? vs = some xs ∧ outer + Json.depth.depthAll xs ≤ depthLimit := by
  induction vs with
  | nil => exact ⟨[], rfl, houter⟩
  | cons v vs ih =>
    obtain ⟨x, hx, hdepth⟩ := h v (by simp)
    obtain ⟨xs, hxs, hdepths⟩ := ih fun v hv => h v (List.mem_cons_of_mem _ hv)
    refine ⟨x :: xs, by simp [values?, hx, hxs], ?_⟩
    simp only [Json.depth.depthAll]
    omega

theorem exists_members {outer : Nat} {ms : List (List Piece × Source)}
    (h : ∀ m ∈ ms, MemberIsReadable outer m) (houter : outer ≤ depthLimit) :
    ∃ xs, members? ms = some xs ∧ outer + Json.depth.depthMembers xs ≤ depthLimit := by
  induction ms with
  | nil => exact ⟨[], rfl, houter⟩
  | cons m ms ih =>
    obtain ⟨⟨cs, hcs⟩, x, hx, hdepth⟩ := h m (by simp)
    obtain ⟨xs, hxs, hdepths⟩ := ih fun v hv => h v (List.mem_cons_of_mem _ hv)
    refine ⟨(String.ofList cs, x) :: xs, by simp [members?, hcs, hx, hxs], ?_⟩
    simp only [Json.depth.depthMembers]
    omega

theorem isReadable_array {outer : Nat} {vs : List Source} (houter : outer < depthLimit)
    (h : ∀ v ∈ vs, v.IsReadable (outer + 1)) : (array vs).IsReadable outer := by
  obtain ⟨xs, hxs, hdepth⟩ := exists_values h houter
  refine ⟨.array xs, by simp [value?, hxs], ?_⟩
  simp only [Json.depth]
  omega

theorem isReadable_object {outer : Nat} {ms : List (List Piece × Source)}
    (houter : outer < depthLimit) (h : ∀ m ∈ ms, MemberIsReadable (outer + 1) m) :
    (object ms).IsReadable outer := by
  obtain ⟨xs, hxs, hdepth⟩ := exists_members h houter
  refine ⟨.object xs, by simp [value?, hxs], ?_⟩
  simp only [Json.depth]
  omega

theorem isReadable_null {outer : Nat} (houter : outer ≤ depthLimit) : null.IsReadable outer :=
  ⟨.null, rfl, houter⟩

theorem isReadable_bool {outer : Nat} (b : Bool) (houter : outer ≤ depthLimit) :
    (bool b).IsReadable outer :=
  ⟨.bool b, rfl, houter⟩

theorem isReadable_number {outer : Nat} {l : Literal} {x : Number} (hl : l.value = .ok x)
    (houter : outer ≤ depthLimit) : (number l).IsReadable outer :=
  ⟨.number x, by simp [value?, hl, Except.toOption], houter⟩

theorem isReadable_string {outer : Nat} {ps : List Piece} {cs : List Char}
    (hcs : characters? ps = some cs) (houter : outer ≤ depthLimit) :
    (string ps).IsReadable outer :=
  ⟨.string (String.ofList cs), by simp [value?, hcs], houter⟩

end Source
end SierraFootprint.Json
