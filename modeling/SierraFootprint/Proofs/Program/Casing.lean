import SierraFootprint.Proofs.Program.Accounting
import SierraFootprint.Proofs.Text.LetterCase
import Mathlib.Data.List.Forall2

/-!
# The case of letters in tokens

The marker at the front is deleted in either case, so that the case of letters plays no part for the
size in that mode. Everywhere else a marker has a small letter: tokens in small letters have the most
markers to lose and tokens in capitals none.
-/
namespace SierraFootprint

open Text

/-- Two lists of tokens are the same, token by token, but for the case of ASCII letters. -/
def SameTokens : List String → List String → Prop :=
  List.Forall₂ fun a b => SameLetters a.toList b.toList

namespace StripMode

/-! ### The marker at the front -/

theorem leadingMarker_iff_toLower (text : List Char) :
    LeadingMarker text ↔ ['0', 'x'] <+: text.map Char.toLower := by
  match text with
  | [] => simp [LeadingMarker]
  | [c] => simp [LeadingMarker]
  | c :: d :: rest =>
    simp only [LeadingMarker, List.map_cons, List.cons_prefix_cons, List.nil_prefix, and_true]
    rw [eq_comm (b := c.toLower), toLower_eq_zero_iff, eq_comm (b := d.toLower), toLower_eq_x_iff]
    simp only [eq_comm (b := c), eq_comm (b := d), ← and_or_left]

theorem leadingMarker_congr {a b : List Char} (h : SameLetters a b) :
    LeadingMarker a ↔ LeadingMarker b := by
  rw [leadingMarker_iff_toLower, leadingMarker_iff_toLower, h]

theorem sameLetters_deleteLeading {a b : List Char} (h : SameLetters a b) :
    SameLetters (deleteLeading a) (deleteLeading b) := by
  rw [deleteLeading_eq, deleteLeading_eq, if_congr (leadingMarker_congr h) rfl rfl]
  split
  · exact h.drop 2
  · exact h

theorem sameLetters_strip_leading {a b : String} (h : SameLetters a.toList b.toList) :
    SameLetters (strip .leading a).toList (strip .leading b).toList := by
  simpa using sameLetters_deleteLeading h

theorem tokenSize_leading_congr {a b : String} (h : SameLetters a.toList b.toList) :
    tokenSize .leading a = tokenSize .leading b := by
  have hlength := (sameLetters_strip_leading h).length_eq
  rw [String.length_toList, String.length_toList] at hlength
  rw [tokenSize, tokenSize, hlength]

theorem sameTokens_strip_leading {a b : List String} (h : SameTokens a b) :
    SameTokens (a.map (strip .leading)) (b.map (strip .leading)) :=
  List.forall₂_map_left_iff.2
    (List.forall₂_map_right_iff.2 (h.imp fun _ _ => sameLetters_strip_leading))

theorem byteSize_leading_congr {a b : List String} (h : SameTokens a b) :
    byteSize .leading a = byteSize .leading b := by
  induction h with
  | nil => rfl
  | cons hab _ ih => rw [byteSize_cons, byteSize_cons, tokenSize_leading_congr hab, ih]

/-! ### Markers anywhere -/

/-- No marker goes when capitals become small, and a new one comes of every capital `X` behind a
zero. -/
theorem markerCount_le_toLower (text : List Char) :
    markerCount text ≤ markerCount (text.map Char.toLower) := by
  rw [markerCount, markerCount, List.length_map]
  refine List.countP_mono_left fun i _ hi => ?_
  obtain ⟨hzero, hx⟩ := of_decide_eq_true hi
  refine decide_eq_true ⟨?_, ?_⟩
  · rw [List.getElem?_map, hzero]
    rfl
  · rw [List.getElem?_map, hx]
    rfl

theorem markerCount_toUpper (text : List Char) : markerCount (text.map Char.toUpper) = 0 := by
  refine List.countP_eq_zero.2 fun i _ hi => ?_
  obtain ⟨-, hx⟩ := of_decide_eq_true hi
  rw [List.getElem?_map, Option.map_eq_some_iff] at hx
  obtain ⟨c, -, hc⟩ := hx
  exact toUpper_ne_x c hc

theorem toLower_eq_map (token : String) : token.toLower = token.map Char.toLower := rfl

theorem tokenSize_global_toLower_le (token : String) :
    tokenSize .global token.toLower ≤ tokenSize .global token := by
  have hlower := tokenSize_global_add token.toLower
  have htoken := tokenSize_global_add token
  have hcount := markerCount_le_toLower token.toList
  rw [toLower_eq_map, String.toList_map, String.length_map] at hlower
  rw [toLower_eq_map]
  omega

theorem tokenSize_global_toUpper (token : String) :
    tokenSize .global token.toUpper = token.length / 2 := by
  have h := tokenSize_global_add token.toUpper
  rwa [String.toUpper, String.toList_map, markerCount_toUpper, String.length_map] at h

theorem tokenSize_global_le_toUpper (token : String) :
    tokenSize .global token ≤ tokenSize .global token.toUpper := by
  have h := tokenSize_global_add token
  rw [tokenSize_global_toUpper]
  omega

/-- What holds of the sizes of each token holds of the sizes of a list of them. -/
theorem byteSize_map_le {mode : StripMode} {f g : String → String}
    (h : ∀ t, tokenSize mode (f t) ≤ tokenSize mode (g t)) (tokens : List String) :
    byteSize mode (tokens.map f) ≤ byteSize mode (tokens.map g) := by
  induction tokens with
  | nil => exact Nat.le_refl 0
  | cons t rest ih =>
    rw [List.map_cons, List.map_cons, byteSize_cons, byteSize_cons]
    exact Nat.add_le_add (h t) ih

theorem byteSize_global_toUpper (tokens : List String) :
    byteSize .global (tokens.map String.toUpper) = (tokens.map fun t => t.length / 2).sum := by
  induction tokens with
  | nil => rfl
  | cons t rest ih =>
    rw [List.map_cons, byteSize_cons, tokenSize_global_toUpper, ih, List.map_cons, List.sum_cons]

/-- With one marker deleted at the front, tokens that are the same but for the case of their letters
have the same size, and are so again when they are stripped. With all small markers deleted, no size
is below the one in small letters and none above the one in capitals, which is half of each token. -/
theorem byteSize_letterCase :
    (∀ a b : List String, SameTokens a b →
      byteSize .leading a = byteSize .leading b ∧
      SameTokens (a.map (strip .leading)) (b.map (strip .leading))) ∧
    ∀ tokens : List String,
      byteSize .global (tokens.map String.toLower) ≤ byteSize .global tokens ∧
      byteSize .global tokens ≤ byteSize .global (tokens.map String.toUpper) ∧
      byteSize .global (tokens.map String.toUpper) = (tokens.map fun t => t.length / 2).sum := by
  refine ⟨fun a b h => ⟨byteSize_leading_congr h, sameTokens_strip_leading h⟩, fun tokens => ?_⟩
  have hlower := byteSize_map_le tokenSize_global_toLower_le tokens
  have hupper := byteSize_map_le tokenSize_global_le_toUpper tokens
  rw [List.map_id'] at hlower hupper
  exact ⟨hlower, hupper, byteSize_global_toUpper tokens⟩

/-- The case differs in the marker at the front, in a digit and in a marker further on. -/
theorem byteSize_letterCase_mixed :
    SameTokens ["0XaBé0x1", "x0"] ["0xAbé0X1", "X0"] ∧
      byteSize .leading ["0XaBé0x1", "x0"] = byteSize .leading ["0xAbé0X1", "X0"] ∧
      SameTokens ["aBé0x1", "x0"] ["Abé0X1", "X0"] := by
  have h : SameTokens ["0XaBé0x1", "x0"] ["0xAbé0X1", "X0"] :=
    .cons (by decide) (.cons (by decide) .nil)
  obtain ⟨hsize, hstripped⟩ := byteSize_letterCase.1 _ _ h
  exact ⟨h, hsize, hstripped⟩

end StripMode
end SierraFootprint
