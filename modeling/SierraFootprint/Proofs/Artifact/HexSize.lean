import SierraFootprint.Proofs.Artifact.Classification
import SierraFootprint.Proofs.Program.Accounting

/-!
# The size of hexadecimal artifacts

The tokens of a program are hexadecimal digits, most of them behind a marker. No digit is part of a
marker, so that the mode for the front finds exactly the marker in front of the digits, and the
other mode does too unless it is written with a capital X.
-/
namespace SierraFootprint

/-- The hexadecimal digits, in either case. -/
def hexDigits : List Char :=
  "0123456789abcdefABCDEF".toList

/-- What stands in front of the digits of a token. -/
inductive Opening
  | bare
  | small
  | capital
  deriving DecidableEq

def Opening.text : Opening → List Char
  | bare => []
  | small => ['0', 'x']
  | capital => ['0', 'X']

/-- A token of hexadecimal digits. -/
structure HexToken where
  opening : Opening
  digits : List Char
  isHex : digits ⊆ hexDigits

namespace HexToken

def text (t : HexToken) : String :=
  String.ofList (t.opening.text ++ t.digits)

/-- The bytes that the digits stand for. A digit left over is dropped. -/
def size (t : HexToken) : Nat :=
  t.digits.length / 2

/-- One for a token with a capital X. -/
def capitalCount (t : HexToken) : Nat :=
  if t.opening = .capital then 1 else 0

theorem not_mem_digits (t : HexToken) {c : Char} (hc : c ∉ hexDigits) : c ∉ t.digits :=
  fun h => hc (t.isHex h)

theorem length_text (t : HexToken) : t.text.length = t.opening.text.length + t.digits.length := by
  simp [text]

end HexToken

namespace StripMode

theorem markerCount_eq_zero {text : List Char} (h : 'x' ∉ text) : markerCount text = 0 := by
  rw [markerCount, List.countP_eq_zero]
  intro i _ hi
  have hx : text[i + 1]? = some 'x' := by simpa [MarkerAt] using (of_decide_eq_true hi).2
  exact h (List.mem_of_getElem? hx)

theorem leadCount_eq_zero {text : List Char} (hx : 'x' ∉ text) (hX : 'X' ∉ text) :
    leadCount text = 0 := by
  have hn : ¬ LeadingMarker text := by
    rintro (h | h)
    · exact hx (h.subset (by simp))
    · exact hX (h.subset (by simp))
  rw [leadCount, if_neg hn]

/-- A marker in front of the digits is the only one for the front, in either case. -/
theorem leadCount_text (t : HexToken) :
    2 * leadCount t.text.toList = t.opening.text.length := by
  have hx : 'x' ∉ t.digits := t.not_mem_digits (by decide)
  have hX : 'X' ∉ t.digits := t.not_mem_digits (by decide)
  rw [HexToken.text, String.toList_ofList]
  cases t.opening with
  | bare => simp [Opening.text, leadCount_eq_zero hx hX]
  | small => simp [Opening.text, leadCount, LeadingMarker]
  | capital => simp [Opening.text, leadCount, LeadingMarker]

/-- A marker in front of the digits is the only one anywhere, except with a capital X. -/
theorem markerCount_text (t : HexToken) :
    2 * (markerCount t.text.toList + t.capitalCount) = t.opening.text.length := by
  have hx : 'x' ∉ t.digits := t.not_mem_digits (by decide)
  have hzero : markerCount t.digits = 0 := markerCount_eq_zero hx
  rw [HexToken.text, String.toList_ofList, HexToken.capitalCount]
  cases t.opening with
  | bare => simp [Opening.text, hzero]
  | small => simp [Opening.text, markerCount_cons, MarkerAt, hzero]
  | capital => simp [Opening.text, markerCount_cons, MarkerAt, hzero]

/-- The mode for the front leaves the digits. -/
theorem tokenSize_leading_text (t : HexToken) : tokenSize .leading t.text = t.size := by
  have hsize := tokenSize_leading_add t.text
  have hlead := leadCount_text t
  rw [t.length_text] at hsize
  rw [HexToken.size]
  omega

/-- The other mode leaves a marker with a capital X too, which counts as a byte. -/
theorem tokenSize_global_text (t : HexToken) :
    tokenSize .global t.text = t.size + t.capitalCount := by
  have hsize := tokenSize_global_add t.text
  have hmarker := markerCount_text t
  rw [t.length_text] at hsize
  rw [HexToken.size]
  omega

end StripMode

theorem byteSize_leading_texts (tokens : List HexToken) :
    byteSize .leading (tokens.map HexToken.text) = (tokens.map HexToken.size).sum := by
  induction tokens with
  | nil => rfl
  | cons t rest ih =>
    rw [List.map_cons, byteSize_cons, ih, StripMode.tokenSize_leading_text, List.map_cons,
      List.sum_cons]

theorem byteSize_global_texts (tokens : List HexToken) :
    byteSize .global (tokens.map HexToken.text) =
      (tokens.map HexToken.size).sum + (tokens.countP fun t => t.opening = .capital) := by
  induction tokens with
  | nil => rfl
  | cons t rest ih =>
    rw [List.map_cons, byteSize_cons, ih, StripMode.tokenSize_global_text, HexToken.capitalCount,
      List.map_cons, List.sum_cons, List.countP_cons]
    simp only [decide_eq_true_eq]
    omega

/-- Whatever way a document of at most 127 levels is written, when its last top-level member
`sierra_program` lists tokens of hexadecimal digits, the size of the program in the mode for the
front is the number of whole bytes of the digits. In the other mode every token with a capital X
counts for one byte more. -/
theorem Artifact.byteSize_hex {tokens : List HexToken} {before after : List (String × Json)}
    {text : List Char} (hlast : ∀ m ∈ after, m.1 ≠ "sierra_program")
    (htext : Json.IsText (.object (before ++
      ("sierra_program", .array (tokens.map fun t => .string t.text)) :: after)) text)
    (hdepth : (Json.object (before ++
      ("sierra_program", .array (tokens.map fun t => .string t.text)) :: after)).depth ≤ 127) :
    ∃ artifact, Artifact.ofText text = .ok artifact ∧
      artifact.program.length = tokens.length ∧
      artifact.program.byteSize .leading = (tokens.map fun t => t.digits.length / 2).sum ∧
      artifact.program.byteSize .global = (tokens.map fun t => t.digits.length / 2).sum +
        tokens.countP fun t => t.opening = .capital := by
  have hstrings : (tokens.map fun t => Json.string t.text) =
      (tokens.map HexToken.text).map Json.string := by simp
  rw [hstrings] at htext hdepth
  rw [ofText_of_isText htext hdepth, (Describes.program hlast).ofJson_eq]
  exact ⟨_, rfl, by simp [Program.length], byteSize_leading_texts tokens,
    byteSize_global_texts tokens⟩

/-- One token of each kind. -/
def mixedTokens : List HexToken :=
  [⟨.bare, ['0', 'a', '1'], by decide⟩, ⟨.small, ['0', '0'], by decide⟩,
    ⟨.capital, ['F', 'f', '1'], by decide⟩]

/-- A text of these tokens, with escapes in the key and in a token. -/
def mixedText : List Char :=
  ("\x7b\"abi\":[],\"sierra\\u005fprogram\":" ++
    "[\"0a1\",\"\\u0030x00\",\"0XFf1\"]\x7d").toList

/-- Three tokens of three, two and three digits make three bytes, and four with the capital X. -/
theorem Artifact.byteSize_mixedText :
    ∃ artifact, ofText mixedText = .ok artifact ∧ artifact.program.length = 3 ∧
      artifact.program.byteSize .leading = 3 ∧ artifact.program.byteSize .global = 4 := by
  have hread : Json.ofText mixedText = .ok (.object ([("abi", .array [])] ++
      ("sierra_program", .array (mixedTokens.map fun t => .string t.text)) :: [])) := by rfl
  obtain ⟨htext, hdepth⟩ := Json.ofText_eq_ok_iff_isText.1 hread
  exact byteSize_hex (by simp) htext hdepth

end SierraFootprint
