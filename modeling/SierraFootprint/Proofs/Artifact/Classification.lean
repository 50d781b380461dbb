import SierraFootprint.Artifact.Basic
import SierraFootprint.Proofs.Json.Accepted

/-!
# Which documents describe an artifact

Every way of writing a document is decoded to what the document describes. What that is depends on
the last top-level member `sierra_program` alone.
-/
namespace SierraFootprint

/-! ### Last members -/

namespace Json

variable {key : String}

theorem foldl_lastMember? (found : Option Json) (members : List (String × Json)) :
    members.foldl (fun found member => if member.1 = key then some member.2 else found) found =
      (lastMember? key members).or found := by
  induction members generalizing found with
  | nil => rfl
  | cons m rest ih =>
    have hcons : lastMember? key (m :: rest) =
        (lastMember? key rest).or (if m.1 = key then some m.2 else none) := ih _
    rw [List.foldl_cons, ih, hcons]
    by_cases hm : m.1 = key <;> simp [hm]

theorem lastMember?_append (a b : List (String × Json)) :
    lastMember? key (a ++ b) = (lastMember? key b).or (lastMember? key a) := by
  rw [lastMember?, List.foldl_append, foldl_lastMember?]
  rfl

/-- There is no last member with a key that no member has. -/
theorem lastMember?_eq_none {members : List (String × Json)} (h : ∀ m ∈ members, m.1 ≠ key) :
    lastMember? key members = none := by
  induction members with
  | nil => rfl
  | cons m rest ih =>
    have hm : lastMember? key [m] = none := by simp [lastMember?, h m (by simp)]
    have hrest := ih fun m hm => h m (List.mem_cons_of_mem _ hm)
    rw [← List.singleton_append, lastMember?_append, hrest, hm]
    rfl

/-- What precedes the last member with a key plays no part. -/
theorem lastMember?_last {before after : List (String × Json)} {v : Json}
    (h : ∀ m ∈ after, m.1 ≠ key) : lastMember? key (before ++ (key, v) :: after) = some v := by
  have hv : lastMember? key [(key, v)] = some v := by simp [lastMember?]
  rw [lastMember?_append, ← List.singleton_append, lastMember?_append, lastMember?_eq_none h, hv]
  rfl

/-- A list of members has a last one with a key, or none at all. -/
theorem members_cases (key : String) (members : List (String × Json)) :
    (∀ m ∈ members, m.1 ≠ key) ∨
      ∃ before v after, members = before ++ (key, v) :: after ∧ ∀ m ∈ after, m.1 ≠ key := by
  induction members with
  | nil => exact .inl (by simp)
  | cons m rest ih =>
    obtain h | ⟨before, v, after, rfl, h⟩ := ih
    · by_cases hm : m.1 = key
      · exact .inr ⟨[], m.2, rest, by rw [← hm]; rfl, h⟩
      · exact .inl (by simpa [hm] using h)
    · exact .inr ⟨m :: before, v, after, rfl, h⟩

@[simp] theorem text?_string (s : String) : (string s).text? = some s := rfl

/-- The strings of a list, in order, up to the first value that is none. -/
theorem strings_cases (vs : List Json) :
    (∃ felts : List String, vs = felts.map string) ∨
      ∃ (felts : List String) (x : Json) (rest : List Json),
        vs = felts.map string ++ x :: rest ∧ ∀ s, x ≠ string s := by
  induction vs with
  | nil => exact .inl ⟨[], rfl⟩
  | cons v vs ih =>
    by_cases hv : ∃ s, v = string s
    · obtain ⟨s, rfl⟩ := hv
      obtain ⟨felts, rfl⟩ | ⟨felts, x, rest, rfl, hx⟩ := ih
      · exact .inl ⟨s :: felts, rfl⟩
      · exact .inr ⟨s :: felts, x, rest, rfl, hx⟩
    · exact .inr ⟨[], v, vs, rfl, fun s hs => hv ⟨s, hs⟩⟩

end Json

/-! ### Programs -/

namespace Program

/-- The first value of a list that is no string, if there is one. -/
def firstMisfit : List Json → Json
  | .string _ :: vs => firstMisfit vs
  | v :: _ => v
  | [] => .null

/-- What is wrong with a value that is not a list of strings. -/
def fault : Json → DecodingError
  | .array vs => .mismatch ⟨firstMisfit vs, "a string"⟩
  | v => .mismatch ⟨v, "a sequence"⟩

@[simp] theorem ofJson_strings (felts : List String) :
    ofJson (.array (felts.map .string)) = .ok ⟨felts⟩ := by
  have hfind : (felts.map Json.string).find? (fun v => v.text?.isNone) = none := by
    simp
  have hall : (felts.map Json.string).filterMap Json.text? = felts := by
    simp [Function.comp_def]
  simp [ofJson, hfind, hall]

theorem firstMisfit_append {felts : List String} {x : Json} {rest : List Json}
    (hx : ∀ s, x ≠ .string s) : firstMisfit (felts.map .string ++ x :: rest) = x := by
  induction felts with
  | nil =>
    cases x with
    | string s => exact absurd rfl (hx s)
    | _ => rfl
  | cons s felts ih => exact ih

/-- Only the first value that is no string is complained about. -/
theorem fault_append {felts : List String} {x : Json} {rest : List Json}
    (hx : ∀ s, x ≠ .string s) : fault (.array (felts.map .string ++ x :: rest)) =
      fault (.array [x]) := by
  have hone : firstMisfit ([].map .string ++ [x]) = x := firstMisfit_append hx
  rw [List.map_nil, List.nil_append] at hone
  simp only [fault, firstMisfit_append hx, hone]

/-- Whatever is not a list of strings is refused. -/
theorem ofJson_misfit {v : Json} (h : ∀ felts : List String, v ≠ .array (felts.map .string)) :
    ∃ e, ofJson v = .error e ∧ fault v = .mismatch e := by
  cases v with
  | array vs =>
    obtain ⟨felts, rfl⟩ | ⟨felts, x, rest, rfl, hx⟩ := Json.strings_cases vs
    · exact absurd rfl (h felts)
    · have hnone : x.text?.isNone = true := by
        cases x with
        | string s => exact absurd rfl (hx s)
        | _ => rfl
      have hfind : (felts.map Json.string ++ x :: rest).find? (fun v => v.text?.isNone) =
          some x :=
        List.find?_eq_some_iff_append.2 ⟨hnone, felts.map .string, rest, rfl, by simp⟩
      exact ⟨⟨x, "a string"⟩, by simp [ofJson, hfind], by simp [fault, firstMisfit_append hx]⟩
  | _ => exact ⟨_, rfl, rfl⟩

end Program

/-! ### Documents -/

namespace Artifact

/-- What a document describes: nothing without a top-level member `sierra_program`, and otherwise
what the last one holds. -/
inductive Describes : Json → Except ArtifactProblem Artifact → Prop
  | noProgram {document : Json} :
      (∀ members, document = .object members → ∀ m ∈ members, m.1 ≠ "sierra_program") →
      Describes document (.error .noProgram)
  | program {before after : List (String × Json)} {felts : List String} :
      (∀ m ∈ after, m.1 ≠ "sierra_program") →
      Describes (.object (before ++ ("sierra_program", .array (felts.map .string)) :: after))
        (.ok ⟨⟨felts⟩⟩)
  | misfit {before after : List (String × Json)} {v : Json} :
      (∀ m ∈ after, m.1 ≠ "sierra_program") →
      (∀ felts : List String, v ≠ .array (felts.map .string)) →
      Describes (.object (before ++ ("sierra_program", v) :: after))
        (.error (.invalidProgram (Program.fault v)))

theorem Describes.ofJson_eq {document : Json} {outcome : Except ArtifactProblem Artifact}
    (h : Describes document outcome) : ofJson document = outcome := by
  cases h with
  | noProgram h =>
    have hnone : document.member? programKey = none := by
      cases document with
      | object members => exact Json.lastMember?_eq_none (h members rfl)
      | _ => rfl
    simp [ofJson, hnone]
  | @program before after felts h =>
    have hlast : Json.lastMember? "sierra_program"
        (before ++ ("sierra_program", .array (felts.map .string)) :: after) = _ :=
      Json.lastMember?_last h
    simp [ofJson, Json.member?, programKey, hlast]
  | @misfit before after v h hv =>
    have hlast : Json.lastMember? "sierra_program" (before ++ ("sierra_program", v) :: after) = _ :=
      Json.lastMember?_last h
    obtain ⟨e, he, hf⟩ := Program.ofJson_misfit hv
    simp [ofJson, Json.member?, programKey, hlast, he, hf]

/-- Every document describes something. -/
theorem exists_describes (document : Json) : ∃ outcome, Describes document outcome := by
  cases document with
  | object members =>
    obtain h | ⟨before, v, after, rfl, h⟩ := Json.members_cases "sierra_program" members
    · exact ⟨_, .noProgram fun ms hms => by cases hms; exact h⟩
    · by_cases hv : ∃ felts : List String, v = .array (felts.map .string)
      · obtain ⟨felts, rfl⟩ := hv
        exact ⟨_, .program h⟩
      · exact ⟨_, .misfit h fun felts hf => hv ⟨felts, hf⟩⟩
  | _ => exact ⟨_, .noProgram fun _ h => by cases h⟩

theorem ofJson_eq_iff {document : Json} {outcome : Except ArtifactProblem Artifact} :
    ofJson document = outcome ↔ Describes document outcome := by
  constructor
  · rintro rfl
    obtain ⟨outcome, h⟩ := exists_describes document
    rwa [h.ofJson_eq]
  · exact Describes.ofJson_eq

/-- However a document is written, it is decoded as the document itself is. -/
theorem ofText_of_isText {document : Json} {text : List Char} (h : Json.IsText document text)
    (hd : document.depth ≤ Json.depthLimit) : ofText text = ofJson document := by
  simp [ofText, Json.ofText_of_isText h hd]

/-- An artifact is read from a text as the artifact of the document that the text is. -/
theorem ofText_eq_ok_iff {text : List Char} {artifact : Artifact} :
    ofText text = .ok artifact ↔
      ∃ document, Json.ofText text = .ok document ∧ ofJson document = .ok artifact := by
  unfold ofText
  cases Json.ofText text with
  | ok document => simp
  | error fault => simp

theorem located_injective {path : Bytes} {a b : Except ArtifactProblem Artifact}
    (h : located path a = located path b) : a = b := by
  cases a <;> cases b <;> simp_all [located]

/-- However a document of at most 127 levels is written, what its text is decoded to is what the
document describes, and only that. When a list holds something that is no string, the complaint is
about the first such value as if it stood there alone. -/
theorem located_ofText_eq_iff {document : Json} {text : List Char}
    (h : Json.IsText document text) (hd : document.depth ≤ 127) (path : Bytes) :
    (∀ outcome, located path (ofText text) = located path outcome ↔ Describes document outcome) ∧
      ∀ (felts : List String) (x : Json) (rest : List Json), (∀ s, x ≠ .string s) →
        Program.fault (.array (felts.map .string ++ x :: rest)) = Program.fault (.array [x]) := by
  refine ⟨fun outcome => ?_, fun felts x rest hx => Program.fault_append hx⟩
  rw [ofText_of_isText h hd, ← ofJson_eq_iff]
  constructor
  · exact located_injective
  · rintro rfl
    rfl

/-- Members that are not the last one at the top level. -/
def decoys : List (String × Json) :=
  [("abi", .object [("sierra_program", .array [.string "0x9"])]),
    ("sierra_program", .number (.whole 7))]

/-- A text with the decoys in front, where the key of the last member is spelled with an escape. -/
def decoyText : List Char :=
  ("\x7b\"abi\": \x7b\"sierra_program\": [\"0x9\"]\x7d, \"sierra_program\": 7," ++
    "\"sierra_\\u0070rogram\" : [\"0x1\", \"0X\\ud83d\\ude00\"]\x7d\n").toList

/-- Only the last member counts, and its key is what the escapes stand for. -/
theorem located_ofText_decoyText :
    located [0x61] (ofText decoyText) = .ok ⟨⟨["0x1", "0X😀"]⟩⟩ := by
  have hread : Json.ofText decoyText = .ok (.object (decoys ++
      ("sierra_program", .array (["0x1", "0X😀"].map .string)) :: [])) := by rfl
  obtain ⟨htext, hdepth⟩ := Json.ofText_eq_ok_iff_isText.1 hread
  exact ((located_ofText_eq_iff htext hdepth [0x61]).1 (.ok ⟨⟨["0x1", "0X😀"]⟩⟩)).2
    (.program (by simp))

end Artifact
end SierraFootprint
