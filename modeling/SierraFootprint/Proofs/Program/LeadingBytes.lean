import SierraFootprint.Proofs.Program.Accounting
import SierraFootprint.Proofs.Text.Boundaries

/-!
# The marker at the front, on bytes

Whether a token begins with the marker shows in its first two bytes. A character of several bytes
never looks like one of the marker, so that the cut behind a marker is always one between characters
and the bytes that are left are those of the stripped token.
-/
namespace SierraFootprint
namespace Bytes

/-- A byte, or the small letter if it is a capital one of ASCII. -/
def lowerByte (b : UInt8) : UInt8 :=
  if 0x41 ≤ b ∧ b ≤ 0x5A then b + 0x20 else b

/-- Two byte strings are the same but for the case of ASCII letters. -/
def sameLetters (a b : Bytes) : Bool :=
  a.map lowerByte == b.map lowerByte

theorem toNat_lowerByte (b : UInt8) : (lowerByte b).toNat =
    if 0x41 ≤ b.toNat ∧ b.toNat ≤ 0x5A then b.toNat + 0x20 else b.toNat := by
  simp only [lowerByte, UInt8.le_iff_toNat_le, UInt8.reduceToNat]
  split
  · simp only [UInt8.toNat_add, UInt8.reduceToNat]
    omega
  · rfl

theorem lowerByte_eq_zero_iff (b : UInt8) : lowerByte b = 0x30 ↔ b = 0x30 := by
  simp only [← UInt8.toNat_inj, toNat_lowerByte, UInt8.reduceToNat]
  split <;> omega

theorem lowerByte_eq_x_iff (b : UInt8) : lowerByte b = 0x78 ↔ b = 0x78 ∨ b = 0x58 := by
  simp only [← UInt8.toNat_inj, toNat_lowerByte, UInt8.reduceToNat]
  split <;> omega

end Bytes

namespace StripMode

/-- The bytes of the marker. -/
def markerBytes : Bytes :=
  Bytes.ofString marker

/-- A token without the marker at its front, in either case. Nothing comes out when the token would
have to be cut inside a character. -/
def deleteLeadingBytes (token : Bytes) : Option Bytes :=
  match token.take? markerBytes.length with
  | some front =>
    if front.sameLetters markerBytes then token.drop? markerBytes.length else some token
  | none => some token

theorem sameLetters_markerBytes_iff {front : Bytes} :
    front.sameLetters markerBytes = true ↔ front = [0x30, 0x78] ∨ front = [0x30, 0x58] := by
  have hmarker : markerBytes.map Bytes.lowerByte = [0x30, 0x78] := by decide
  rw [Bytes.sameLetters, hmarker, beq_iff_eq]
  match front with
  | [] => simp
  | [a] => simp
  | [a, b] => simp [Bytes.lowerByte_eq_zero_iff, Bytes.lowerByte_eq_x_iff, ← and_or_left]
  | a :: b :: c :: rest => simp

/-- The first two bytes of a text look like the marker exactly when its first two characters do. -/
theorem leadingMarker_iff_bytes {text : List Char} : LeadingMarker text ↔
    ∃ front, (Utf8.encode text).take? 2 = some front ∧ front.sameLetters markerBytes = true := by
  simp only [sameLetters_markerBytes_iff]
  constructor
  · rintro (⟨rest, rfl⟩ | ⟨rest, rfl⟩)
    · exact ⟨_, (Utf8.cut_encode_append rfl rest).1, .inl rfl⟩
    · exact ⟨_, (Utf8.cut_encode_append rfl rest).1, .inr rfl⟩
  · rintro ⟨front, hfront, hmarker⟩
    obtain ⟨a, b, rfl, -, rfl⟩ := Utf8.exists_of_take?_encode hfront
    obtain h | h := hmarker
    · have ha : a = ['0', 'x'] := Utf8.encode_injective h
      exact .inl ⟨b, by rw [ha]⟩
    · have ha : a = ['0', 'X'] := Utf8.encode_injective h
      exact .inr ⟨b, by rw [ha]⟩

/-- Behind a marker at the front the bytes are cut between two characters. -/
theorem drop?_encode {text : List Char} (h : LeadingMarker text) :
    (Utf8.encode text).drop? 2 = some (Utf8.encode (text.drop 2)) := by
  obtain ⟨rest, rfl⟩ | ⟨rest, rfl⟩ := h
  · exact (Utf8.cut_encode_append rfl rest).2
  · exact (Utf8.cut_encode_append rfl rest).2

theorem deleteLeadingBytes_encode (text : List Char) :
    deleteLeadingBytes (Utf8.encode text) = some (Utf8.encode (deleteLeading text)) := by
  have hwidth : markerBytes.length = 2 := by decide
  rw [deleteLeadingBytes, deleteLeading_eq, hwidth]
  by_cases h : LeadingMarker text
  · obtain ⟨front, hfront, hmarker⟩ := leadingMarker_iff_bytes.1 h
    simp only [hfront, hmarker, if_true, if_pos h, drop?_encode h]
  · rw [if_neg h]
    split
    next front hfront =>
      rw [if_neg fun hmarker => h (leadingMarker_iff_bytes.2 ⟨front, hfront, hmarker⟩)]
    next => rfl

theorem deleteLeadingBytes_ofString (token : String) :
    deleteLeadingBytes (Bytes.ofString token) = some (Bytes.ofString (strip .leading token)) := by
  rw [Bytes.ofString, deleteLeadingBytes_encode, Bytes.ofString, toList_strip, stripText_leading]

/-- One marker is deleted, whatever stands behind it. -/
theorem strip_leading_append {front : String}
    (h : front.toList = ['0', 'x'] ∨ front.toList = ['0', 'X']) (rest : String) :
    strip .leading (front ++ rest) = rest := by
  apply String.toList_inj.1
  rw [toList_strip, stripText_leading, String.toList_append]
  obtain h | h := h <;> rw [h] <;> rfl

/-- Stripping the front of a token on its bytes and on its characters comes to the same. The first
two bytes are a text if they can be cut off, so is what stands behind them if they are the marker,
and no cut is asked for that cannot be made. On the characters, the first two go if they are the
marker and nothing goes otherwise; a marker behind the first one stays. -/
theorem strip_leading_eq_bytes (token : String) :
    (∀ front, (Bytes.ofString token).take? 2 = some front → Utf8.WellFormed front) ∧
      (∀ front, (Bytes.ofString token).take? 2 = some front →
        front.sameLetters markerBytes = true →
        ∃ rest, (Bytes.ofString token).drop? 2 = some rest ∧ Utf8.WellFormed rest) ∧
      deleteLeadingBytes (Bytes.ofString token) = some (Bytes.ofString (strip .leading token)) ∧
      (strip .leading token).toList =
        (if LeadingMarker token.toList then token.toList.drop 2 else token.toList) ∧
      ∀ rest : String, strip .leading ("0x" ++ rest) = rest ∧
        strip .leading ("0X" ++ rest) = rest := by
  refine ⟨fun front hfront => ?_, fun front hfront hmarker => ?_,
    deleteLeadingBytes_ofString token, ?_, fun rest => ⟨?_, ?_⟩⟩
  · obtain ⟨a, b, -, -, rfl⟩ := Utf8.exists_of_take?_encode hfront
    exact ⟨a, rfl⟩
  · have hlead : LeadingMarker token.toList := leadingMarker_iff_bytes.2 ⟨front, hfront, hmarker⟩
    exact ⟨_, drop?_encode hlead, _, rfl⟩
  · rw [toList_strip, stripText_leading, deleteLeading_eq]
  · exact strip_leading_append (.inl rfl) rest
  · exact strip_leading_append (.inr rfl) rest

/-- Behind a marker with a capital X stands another one, and a character of two bytes. -/
theorem strip_leading_eq_bytes_twice :
    (Bytes.ofString "0X0xé").take? 2 = some [0x30, 0x58] ∧
      Bytes.sameLetters [0x30, 0x58] markerBytes = true ∧
      Utf8.WellFormed [0x30, 0x58] ∧
      (∃ rest, (Bytes.ofString "0X0xé").drop? 2 = some rest ∧ Utf8.WellFormed rest) ∧
      strip .leading "0X0xé" = "0xé" := by
  have hfront : (Bytes.ofString "0X0xé").take? 2 = some [0x30, 0x58] := by decide
  have hmarker : Bytes.sameLetters [0x30, 0x58] markerBytes = true := by decide
  obtain ⟨htext, hrest, -, -, hone⟩ := strip_leading_eq_bytes "0X0xé"
  exact ⟨hfront, hmarker, htext _ hfront, hrest _ hfront hmarker, (hone "0xé").2⟩

end StripMode
end SierraFootprint
