import SierraFootprint.Proofs.Artifact.Classification
import SierraFootprint.Proofs.Json.LeastLength
import SierraFootprint.Proofs.Program.WordSize

/-!
# How large the program of a text can be

Every character of a felt is written with at least one byte, and the key, the quotes and the commas
take more. So a text is longer than twice the size of the program in it, whichever mode strips the
felts, and a sum of sizes stays in range where the length of the text does.
-/
namespace SierraFootprint

theorem Utf8.length_le_encode (text : List Char) : text.length ≤ (Utf8.encode text).length := by
  induction text with
  | nil => exact Nat.le_refl 0
  | cons c text ih =>
    have hpos : 0 < (String.utf8EncodeChar c).length := by
      rw [String.length_utf8EncodeChar]
      exact c.utf8Size_pos
    rw [Utf8.encode_cons, List.length_cons, List.length_append]
    omega

namespace Artifact

/-- An artifact is read from an object whose last member with the key of the program lists its
felts. -/
theorem exists_document {text : List Char} {artifact : Artifact} (h : ofText text = .ok artifact) :
    ∃ before after, Json.IsText (.object (before ++
      ("sierra_program", .array (artifact.program.felts.map .string)) :: after)) text := by
  obtain ⟨document, hread, hok⟩ := ofText_eq_ok_iff.1 h
  obtain ⟨htext, -⟩ := Json.ofText_eq_ok_iff_isText.1 hread
  cases ofJson_eq_iff.1 hok with
  | program _ => exact ⟨_, _, htext⟩

/-- The key with its quotes and colon, the brackets and the braces are twenty-one characters. A felt
has two quotes and a comma, but the last one has no comma. -/
theorem leastLength_document (before after : List (String × Json)) (felts : List String) :
    20 + 3 * felts.length + characterCount felts ≤ Json.leastLength (.object (before ++
      ("sierra_program", .array (felts.map .string)) :: after)) := by
  have hkey : "sierra_program".length = 14 := by decide
  simp only [Json.leastLength, Json.leastMembers_append, Json.leastLength.leastMembers,
    Json.leastElements_strings, hkey, characterCount]
  omega

theorem characterCount_le {text : List Char} {artifact : Artifact}
    (h : ofText text = .ok artifact) :
    20 + 3 * artifact.program.length + characterCount artifact.program.felts ≤
      (Utf8.encode text).length := by
  obtain ⟨before, after, htext⟩ := exists_document h
  calc 20 + 3 * artifact.program.length + characterCount artifact.program.felts
      ≤ _ := leastLength_document before after artifact.program.felts
    _ ≤ text.length := htext.leastLength_le
    _ ≤ (Utf8.encode text).length := Utf8.length_le_encode text

/-- A text that an artifact is read from has twenty bytes, three for every felt, and two for every
byte of the program in either mode. So the size of any first part of the program is below half the
length of the text, and it is added up in words of 64 bits without leaving their range if the text
is shorter than `2 ^ 64` bytes. -/
theorem byteSize_le_text {text : List Char} {artifact : Artifact} (h : ofText text = .ok artifact)
    (mode : StripMode) :
    20 + 3 * artifact.program.length + 2 * artifact.program.byteSize mode ≤
        (Utf8.encode text).length ∧
      (∀ k, 2 * byteSize mode (artifact.program.felts.take k) < (Utf8.encode text).length) ∧
      ((Utf8.encode text).length < 2 ^ 64 → ∀ k,
        ∃ w, wordSize? mode (artifact.program.felts.take k) = some w ∧
          w.toNat = byteSize mode (artifact.program.felts.take k)) := by
  have hbound := characterCount_le h
  refine ⟨?_, fun k => ?_, fun hlength k => ?_⟩
  · have hsize := two_mul_byteSize_le mode artifact.program.felts
    rw [Program.byteSize]
    omega
  · have hsize := two_mul_byteSize_le mode (artifact.program.felts.take k)
    have hpart := characterCount_take_le artifact.program.felts k
    omega
  · have hpart := characterCount_take_le artifact.program.felts k
    exact wordSize?_eq_some mode (by omega)

/-- A text without white space, escapes and other members, in which no character of a felt is left
over. -/
def denseText : List Char :=
  "\x7b\"sierra_program\":[\"0a\",\"ff\"]\x7d".toList

/-- No byte is to spare in this text. -/
theorem byteSize_le_denseText :
    ofText denseText = .ok ⟨⟨["0a", "ff"]⟩⟩ ∧
      20 + 3 * 2 + 2 * byteSize .global ["0a", "ff"] = (Utf8.encode denseText).length ∧
      2 * byteSize .global ["0a"] < (Utf8.encode denseText).length ∧
      (Utf8.encode denseText).length < 2 ^ 64 ∧
      ∃ w, wordSize? .global ["0a"] = some w ∧ w.toNat = byteSize .global ["0a"] := by
  have hread : ofText denseText = .ok ⟨⟨["0a", "ff"]⟩⟩ := by rfl
  have hlength : (Utf8.encode denseText).length < 2 ^ 64 := by decide
  obtain ⟨hwhole, hpart, hword⟩ := byteSize_le_text hread .global
  exact ⟨hread, Nat.le_antisymm hwhole (by decide), hpart 1, hlength, hword hlength 1⟩

end Artifact
end SierraFootprint
