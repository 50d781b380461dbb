import SierraFootprint.Program.Basic
import SierraFootprint.Proofs.Text.Lowercase
import Mathlib.Tactic.Common

/-!
# Names of modes

A name is that of a mode exactly when the two are the same in lowercase. The names hold no letter
that anything outside of ASCII becomes in lowercase, so that they may be written in either case of
ASCII and in no other way.
-/
namespace SierraFootprint
namespace StripMode

theorem find?_name (mode : StripMode) : all.find? (fun m => m.name == mode.name) = some mode := by
  cases mode <;> decide

theorem ofName_eq_ok_iff {text : String} {mode : StripMode} :
    ofName text = .ok mode ↔ Text.lowercase text.toList = mode.name.toList := by
  have hlower : Text.lowercase text.toList = mode.name.toList ↔
      String.ofList (Text.lowercase text.toList) = mode.name := by
    rw [← String.toList_inj, String.toList_ofList]
  rw [hlower]
  simp only [ofName]
  generalize String.ofList (Text.lowercase text.toList) = lower
  constructor
  · intro h
    split at h
    next found hfound =>
      cases h
      exact (eq_of_beq (List.find?_some hfound :)).symm
    next => cases h
  · rintro rfl
    rw [find?_name]

theorem isLower_of_mem_name (mode : StripMode) :
    ∀ c ∈ mode.name.toList, c.isLower ∧ c ≠ 'k' := by
  have hall : mode.name.toList.all (fun c => c.isLower && c != 'k') = true := by
    cases mode <;> decide
  simpa using hall

theorem ofName_eq_ok_iff_sameLetters {text : String} {mode : StripMode} :
    ofName text = .ok mode ↔ Text.SameLetters text.toList mode.name.toList := by
  rw [ofName_eq_ok_iff, Text.lowercase_eq_iff mode.isLower_of_mem_name]

theorem ofName_cases (text : String) :
    (∃ mode, ofName text = .ok mode) ∨
      ofName text = .error ⟨String.ofList (Text.lowercase text.toList)⟩ := by
  simp only [ofName]
  split
  next mode _ => exact .inl ⟨mode, rfl⟩
  next => exact .inr rfl

theorem Unknown.message_eq (e : Unknown) :
    e.message = "Unknown strip mode `" ++ e.name ++ "`. Supported modes: global, prefix" := by
  have hnames : ", ".intercalate (StripMode.all.map StripMode.name) = "global, prefix" := by
    decide +kernel
  have hend : "`. Supported modes: " ++ "global, prefix" = "`. Supported modes: global, prefix" := by
    decide
  unfold message
  rw [hnames, String.append_assoc, hend]

/-- What is a name in small letters holds letters of ASCII only. -/
theorem isAlpha_of_sameLetters {text : List Char} {mode : StripMode}
    (h : Text.SameLetters text mode.name.toList) : ∀ c ∈ text, c.isAlpha := by
  intro c hc
  have hmem : c.toLower ∈ mode.name.toList.map Char.toLower := h ▸ List.mem_map_of_mem hc
  obtain ⟨d, hd, hdc⟩ := List.mem_map.1 hmem
  obtain ⟨hsmall, -⟩ := mode.isLower_of_mem_name d hd
  rwa [← Text.isLower_toLower_iff, ← hdc, Text.toLower_eq_of_isLower hsmall]

theorem length_of_ofName {text : String} {mode : StripMode} (h : ofName text = .ok mode) :
    text.length = 6 := by
  have hlength := (ofName_eq_ok_iff_sameLetters.1 h).length_eq
  rw [String.length_toList, String.length_toList] at hlength
  rw [hlength]
  cases mode <;> rfl

/-- A mode is chosen exactly by its name, in either case of each ASCII letter. What is accepted thus
holds nothing but letters of ASCII, and with anything around it, white space or not, it is accepted
no more. Whatever is refused is named by the error in its lowercase form. -/
theorem ofName_letterCase (text : String) :
    (∀ mode, ofName text = .ok mode ↔ Text.SameLetters text.toList mode.name.toList) ∧
      (∀ mode, ofName text = .ok mode → ∀ c ∈ text.toList, c.isAlpha) ∧
      (∀ mode, ofName text = .ok mode → ∀ before after, before ≠ "" ∨ after ≠ "" →
        ∀ mode', ofName (before ++ text ++ after) ≠ .ok mode') ∧
      ((∀ mode, ofName text ≠ .ok mode) →
        ∃ e, ofName text = .error e ∧ e.name.toList = Text.lowercase text.toList ∧
          e.message =
            "Unknown strip mode `" ++ e.name ++ "`. Supported modes: global, prefix") := by
  refine ⟨fun mode => ofName_eq_ok_iff_sameLetters, fun mode h => ?_,
    fun mode h before after haround mode' hlonger => ?_, fun h => ?_⟩
  · exact isAlpha_of_sameLetters (ofName_eq_ok_iff_sameLetters.1 h)
  · have hlength := length_of_ofName h
    have htotal := length_of_ofName hlonger
    rw [String.length_append, String.length_append] at htotal
    rw [ne_eq, ne_eq, ← String.length_eq_zero_iff, ← String.length_eq_zero_iff] at haround
    omega
  · obtain ⟨mode, hmode⟩ | herror := ofName_cases text
    · exact absurd hmode (h mode)
    · exact ⟨_, herror, String.toList_ofList, Unknown.message_eq _⟩

/-- A name in mixed case, alone and between white space, and one with an I that is dotted in
capitals, which becomes an `i` and a dot above it. -/
theorem ofName_letterCase_dotted :
    ofName "GloBAL" = .ok .global ∧ (∀ c ∈ "GloBAL".toList, c.isAlpha) ∧
      (∀ mode, ofName (" " ++ "GloBAL" ++ "\n") ≠ .ok mode) ∧
      (∀ mode, ofName "prefİx" ≠ .ok mode) ∧
      ∃ e, ofName "prefİx" = .error e ∧ e.name.toList = ['p', 'r', 'e', 'f', 'i', '\u0307', 'x'] := by
  obtain ⟨haccepted, hletters, hapart, -⟩ := ofName_letterCase "GloBAL"
  have hglobal : ofName "GloBAL" = .ok .global := (haccepted .global).2 (by decide)
  have hrefused : ∀ mode, ofName "prefİx" ≠ .ok mode := by
    intro mode h
    have hsame := ((ofName_letterCase "prefİx").1 mode).1 h
    cases mode <;> exact absurd hsame (by decide)
  obtain ⟨e, he, hname, -⟩ := (ofName_letterCase "prefİx").2.2.2 hrefused
  have hlower : Text.lowercase "prefİx".toList = ['p', 'r', 'e', 'f', 'i', '\u0307', 'x'] := by
    decide
  exact ⟨hglobal, hletters .global hglobal, hapart .global hglobal " " "\n" (.inl (by decide)),
    hrefused, e, he, hname.trans hlower⟩

end StripMode
end SierraFootprint
