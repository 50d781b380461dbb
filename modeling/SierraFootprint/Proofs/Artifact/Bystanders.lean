import SierraFootprint.Proofs.Artifact.Classification
import SierraFootprint.Proofs.Json.Refusal

/-!
# The members beside the program

The program is read from the last member `sierra_program` alone, but the whole document is read
before. What the other members hold plays no part as long as they can be read, and a single one that
cannot be read makes a document of the grammar pass for one that is not JSON.
-/
namespace SierraFootprint

namespace Json.Source

open value? (values? members?)

theorem members?_append (a b : List (List Piece × Source)) :
    members? (a ++ b) = (members? a).bind fun xs => (members? b).map (xs ++ ·) := by
  induction a with
  | nil => simp [members?]
  | cons m a ih =>
    obtain ⟨key, v⟩ := m
    cases hkey : characters? key <;> cases hv : v.value? <;> cases ha : members? a <;>
      simp_all [members?, Function.comp_def]

/-- The keys of the values are those of the sources. -/
theorem exists_key {ms : List (List Piece × Source)} {xs : List (String × Json)}
    (h : members? ms = some xs) : ∀ x ∈ xs, ∃ m ∈ ms, characters? m.1 = some x.1.toList := by
  induction ms generalizing xs with
  | nil =>
    cases h
    simp
  | cons m ms ih =>
    simp only [members?, Option.bind_eq_some_iff, Option.map_eq_some_iff] at h
    obtain ⟨cs, hcs, x, -, xs, hxs, rfl⟩ := h
    intro y hy
    obtain rfl | hy := List.mem_cons.1 hy
    · exact ⟨m, by simp, by simpa using hcs⟩
    · obtain ⟨n, hn, hkey⟩ := ih hxs y hy
      exact ⟨n, List.mem_cons_of_mem m hn, hkey⟩

theorem values?_strings {felts : List (List Piece)} {texts : List String}
    (h : felts.map characters? = texts.map (some ·.toList)) :
    values? (felts.map .string) = some (texts.map .string) := by
  induction felts generalizing texts with
  | nil =>
    obtain rfl : texts = [] := by simpa using h.symm
    rfl
  | cons felt felts ih =>
    cases texts with
    | nil => simp at h
    | cons s texts =>
      obtain ⟨hfelt, hfelts⟩ := List.cons.inj h
      simp [values?, value?, hfelt, ih hfelts]

theorem depthAll_strings (texts : List String) :
    Json.depth.depthAll (texts.map .string) = 0 := by
  induction texts with
  | nil => rfl
  | cons s texts ih => simp [Json.depth.depthAll, Json.depth, ih]

end Json.Source

namespace Artifact

open Json (Piece Source characters?)
open Json.Source

/-- A document of the grammar in which a member cannot be read passes for one that is not JSON. -/
theorem ofText_refused {ms : List (List Piece × Source)} {text : List Char}
    (h : HasText (.padded (.object ms)) text) (hm : ∃ m ∈ ms, ¬ MemberIsReadable 1 m) :
    ∃ fault, ofText text = .error (.notJson (.malformed fault)) := by
  have hnone : Json.reach Json.initial text = none := by
    cases h with | @padded _ a t b hA ht hB =>
    cases ht with
    | emptyObject => simp at hm
    | @object _ t hms =>
      have hinitial : Json.Awaits Json.initial [] := .value []
      have hrefused := hms.refuses ⟨.firstKey, []⟩ [] [] .first (by decide) hm '\x7d' (by decide) b
      rw [Json.reach_append_of (Json.reach_blank (fun _ => hinitial.step_blank) hA),
        List.cons_append, Json.reach_cons (hinitial.step_brace (by decide))]
      simpa using hrefused
  cases hread : Json.ofText text with
  | ok v =>
    obtain ⟨s, hs, -⟩ := Json.ofText_eq_ok_iff.1 hread
    cases hnone.symm.trans hs
  | error fault => exact ⟨fault, by simp [ofText, hread]⟩

/-- A document of the grammar in which all members can be read is an object of their values. -/
theorem ofText_readable {ms : List (List Piece × Source)} {text : List Char}
    (h : HasText (.padded (.object ms)) text) (hms : ∀ m ∈ ms, MemberIsReadable 1 m) :
    ∃ xs, value?.members? ms = some xs ∧ ofText text = ofJson (.object xs) := by
  obtain ⟨xs, hxs, hdepth⟩ := exists_members hms (by decide)
  refine ⟨xs, hxs, ofText_of_isText (h.written ?_) ?_⟩
  · simp [Phrase.value?, value?, hxs]
  · simp only [Json.depth]
    omega

theorem memberIsReadable_strings {key : List Piece} {cs : List Char}
    {felts : List (List Piece)} {texts : List String} (hkey : characters? key = some cs)
    (hfelts : felts.map characters? = texts.map (some ·.toList)) :
    MemberIsReadable 1 (key, .array (felts.map .string)) := by
  refine ⟨⟨cs, hkey⟩, .array (texts.map .string), by simp [value?, values?_strings hfelts], ?_⟩
  simp [Json.depth, depthAll_strings, Json.depthLimit]

/-- For every document of the grammar whose last member `sierra_program` is a list of strings, in
which no surrogate lacks its other half, the other members decide whether the program is read: if
each of them can be read, the result is these strings, and otherwise it is that the document is not
JSON. -/
theorem ofText_of_source {before after : List (List Piece × Source)} {key : List Piece}
    {felts : List (List Piece)} {texts : List String} {text : List Char}
    (h : HasText (.padded (.object (before ++ (key, .array (felts.map .string)) :: after))) text)
    (hkey : characters? key = some "sierra_program".toList)
    (hlast : ∀ m ∈ after, characters? m.1 ≠ some "sierra_program".toList)
    (hfelts : felts.map characters? = texts.map (some ·.toList)) :
    ((∀ m ∈ before ++ after, MemberIsReadable 1 m) → ofText text = .ok ⟨⟨texts⟩⟩) ∧
      ((∃ m ∈ before ++ after, ¬ MemberIsReadable 1 m) →
        ∃ fault, ofText text = .error (.notJson (.malformed fault))) := by
  constructor
  · intro hreadable
    have hall : ∀ m ∈ before ++ (key, .array (felts.map .string)) :: after,
        MemberIsReadable 1 m := by
      intro m hm
      rw [List.mem_append, List.mem_cons] at hm
      obtain hm | rfl | hm := hm
      · exact hreadable m (List.mem_append_left after hm)
      · exact memberIsReadable_strings hkey hfelts
      · exact hreadable m (List.mem_append_right before hm)
    obtain ⟨zs, hzs, hread⟩ := ofText_readable h hall
    simp only [members?_append, value?.members?, hkey, value?, values?_strings hfelts,
      Option.bind_eq_some_iff, Option.map_eq_some_iff, Option.bind_some, Option.map_some] at hzs
    obtain ⟨xs, -, _, ⟨ys, hys, rfl⟩, rfl⟩ := hzs
    rw [hread]
    refine (Describes.program fun y hy hprogram => ?_).ofJson_eq
    obtain ⟨m, hm, hmkey⟩ := exists_key hys y hy
    exact hlast m hm (by rw [hmkey, hprogram])
  · rintro ⟨m, hm, hnot⟩
    refine ofText_refused h ⟨m, ?_, hnot⟩
    rw [List.mem_append] at hm
    simp only [List.mem_append, List.mem_cons]
    tauto

/-! ### At the limits -/

/-- A string without any escapes. -/
def plain (text : String) : List Piece :=
  text.toList.map .char

theorem characters?_plain (text : String) : characters? (plain text) = some text.toList := by
  unfold plain
  induction text.toList with
  | nil => rfl
  | cons c cs ih => simp [characters?, ih]

def plainText (text : String) : List Char :=
  '"' :: (text.toList ++ ['"'])

theorem pieceQuotes_plain {text : String}
    (h : ∀ c ∈ text.toList, 0x20 ≤ c.toNat ∧ c ≠ '"' ∧ c ≠ '\\') :
    Json.PieceQuotes (plain text) (plainText text) := by
  refine ⟨text.toList, ?_, rfl⟩
  unfold plain
  generalize text.toList = cs at h
  induction cs with
  | nil => exact .nil
  | cons c cs ih =>
    obtain ⟨hc, hq, hb⟩ := h c (by simp)
    exact .cons (.raw hc hq hb) (ih fun d hd => h d (List.mem_cons_of_mem c hd))

/-- A document with a member in front of a program of one felt. -/
def document (v : Source) : Source :=
  .object [(plain "abi", v), (plain "sierra_program", .array [.string (plain "0x1")])]

def documentText (t : List Char) : List Char :=
  '\x7b' :: (plainText "abi" ++ ':' :: (t ++ ',' :: (plainText "sierra_program" ++
    ':' :: '[' :: (plainText "0x1" ++ [']', '\x7d']))))

theorem hasText_padded {v : Source} {t : List Char} (h : HasText (.value v) t) :
    HasText (.padded v) t := by
  simpa using HasText.padded Json.Blank.nil h .nil

theorem hasText_document {v : Source} {t : List Char} (h : HasText (.value v) t) :
    HasText (.padded (document v)) (documentText t) := by
  have habi : Json.PieceQuotes (plain "abi") (plainText "abi") := pieceQuotes_plain (by simp)
  have hkey : Json.PieceQuotes (plain "sierra_program") (plainText "sierra_program") :=
    pieceQuotes_plain (by simp)
  have hfelt : Json.PieceQuotes (plain "0x1") (plainText "0x1") := pieceQuotes_plain (by simp)
  have hprogram := hasText_padded (.array (.lastElement (hasText_padded (.string hfelt))))
  have hmembers := HasText.member Json.Blank.nil habi .nil (hasText_padded h)
    (.lastMember .nil hkey .nil hprogram)
  unfold document
  simpa [documentText] using hasText_padded (.object hmembers)

/-- Lists inside each other. -/
def nested : Nat → Source
  | 0 => .array []
  | n + 1 => .array [nested n]

def nestedText : Nat → List Char
  | 0 => ['[', ']']
  | n + 1 => '[' :: (nestedText n ++ [']'])

theorem hasText_nested (n : Nat) : HasText (.value (nested n)) (nestedText n) := by
  induction n with
  | zero => exact .emptyArray .nil
  | succ n ih => exact .array (.lastElement (hasText_padded ih))

theorem isReadable_nested_iff {outer n : Nat} :
    (nested n).IsReadable outer ↔ outer + (n + 1) ≤ Json.depthLimit := by
  have hvalue : ∃ x, (nested n).value? = some x ∧ x.depth = n + 1 := by
    induction n with
    | zero => exact ⟨.array [], rfl, rfl⟩
    | succ n ih =>
      obtain ⟨x, hx, hdepth⟩ := ih
      exact ⟨.array [x], by simp [nested, value?, value?.values?, hx],
        by simp [Json.depth, Json.depth.depthAll, hdepth]⟩
  obtain ⟨x, hx, hdepth⟩ := hvalue
  rw [← hdepth]
  constructor
  · rintro ⟨y, hy, hlimit⟩
    obtain rfl := Option.some.inj (hx.symm.trans hy)
    exact hlimit
  · exact fun hlimit => ⟨x, hx, hlimit⟩

/-- Beside 126 lists inside each other a program is still read. -/
theorem ofText_of_source_nested :
    ofText (documentText (nestedText 125)) = .ok ⟨⟨["0x1"]⟩⟩ := by
  have htext : HasText (.padded (.object ([(plain "abi", nested 125)] ++
      (plain "sierra_program", .array ([plain "0x1"].map .string)) :: [])))
      (documentText (nestedText 125)) := hasText_document (hasText_nested 125)
  refine (ofText_of_source htext (characters?_plain _) (by simp) (by
    simp [characters?_plain])).1 ?_
  simp only [List.append_nil, List.forall_mem_singleton]
  exact ⟨⟨_, characters?_plain "abi"⟩, isReadable_nested_iff.2 (by decide)⟩

/-- A number that is larger than all doubles. -/
def hugeNumber : Json.Literal :=
  ⟨false, 1, [], [], some ⟨false, .absent, 9, List.replicate 9 9⟩, by simp⟩

/-- A text that the grammar has for a document with a program passes for one that is not JSON. -/
def RefusedBeside (v : Source) (t : List Char) : Prop :=
  HasText (.padded (document v)) (documentText t) ∧
    ∃ fault, ofText (documentText t) = .error (.notJson (.malformed fault))

theorem refusedBeside {v : Source} {t : List Char} (h : HasText (.value v) t)
    (hv : ¬ v.IsReadable 1) : RefusedBeside v t :=
  ⟨hasText_document h,
    ofText_refused (hasText_document h) ⟨(plain "abi", v), by simp, fun hm => hv hm.2⟩⟩

/-- The other member is a surrogate without its other half, a number that is too large, or a list in
which 126 lists stand inside each other. -/
theorem refusedBeside_unreadable :
    RefusedBeside (.string [.unit 0xD800]) "\"\\ud800\"".toList ∧
      RefusedBeside (.number hugeNumber) "1e9999999999".toList ∧
      RefusedBeside (nested 126) (nestedText 126) := by
  refine ⟨refusedBeside ?_ ?_, refusedBeside ?_ ?_, refusedBeside (hasText_nested 126) ?_⟩
  · have hunit : Json.UnitText 0xD800 ['d', '8', '0', '0'] :=
      .digits (i := 13) (j := 8) (k := 0) (l := 0) (by unfold Json.HexDigit; decide)
        (by unfold Json.HexDigit; decide) (by unfold Json.HexDigit; decide)
        (by unfold Json.HexDigit; decide)
    exact .string ⟨_, .cons (.unit hunit) .nil, rfl⟩
  · rintro ⟨x, hx, -⟩
    cases hx
  · exact .number hugeNumber
  · rintro ⟨x, hx, -⟩
    have hhuge : hugeNumber.value = .error .numberOutOfRange := rfl
    simp [value?, hhuge, Except.toOption] at hx
  · rw [isReadable_nested_iff]
    decide

end Artifact
end SierraFootprint
