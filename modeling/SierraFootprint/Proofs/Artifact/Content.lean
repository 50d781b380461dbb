import SierraFootprint.Proofs.Artifact.Classification
import SierraFootprint.Proofs.Text.WellFormed
import SierraFootprint.World

/-!
# Incomplete and continued artifacts

A document that describes an artifact is an object, so that no text is shorter or longer than it
needs to be by more than white space. The same holds of the bytes of a file.
-/
namespace SierraFootprint

/-! ### White space in bytes -/

namespace Utf8

/-- The characters between JSON tokens, as bytes. -/
def whiteBytes : List UInt8 :=
  [0x20, 0x09, 0x0D, 0x0A]

theorem encodeChar_white {c : Char} :
    (∀ b ∈ String.utf8EncodeChar c, b ∈ whiteBytes) ↔ c ∈ Json.blanks := by
  have hblank : ∀ c ∈ Json.blanks, String.utf8EncodeChar c ⊆ whiteBytes := by
    intro c hc
    fin_cases hc <;> decide
  refine ⟨fun h => ?_, fun hc b hb => hblank c hc hb⟩
  have hlow : ∀ b ∈ whiteBytes, b.toNat < 0x80 ∧ Char.ofNat b.toNat ∈ Json.blanks := by
    intro b hb
    fin_cases hb <;> decide
  have hs := sequence_encodeChar c
  generalize String.utf8EncodeChar c = bytes at h hs
  cases hs with
  | @one a ha => exact (hlow a (h a (by simp))).2
  | @two a b ha =>
    have := (hlow a (h a (by simp))).1
    omega
  | @three a b c ha =>
    have := (hlow a (h a (by simp))).1
    omega
  | @four a b c d ha =>
    have := (hlow a (h a (by simp))).1
    omega

theorem encode_white {text : List Char} :
    (∀ b ∈ encode text, b ∈ whiteBytes) ↔ Json.Blank text := by
  simp only [encode, List.mem_flatMap, Json.Blank, ← encodeChar_white]
  constructor
  · intro h c hc b hb
    exact h b ⟨c, hc, hb⟩
  · rintro h b ⟨c, hc, hb⟩
    exact h c hc b hb

/-- White space is well formed. -/
theorem exists_blank {bytes : Bytes} (h : ∀ b ∈ bytes, b ∈ whiteBytes) :
    ∃ text, bytes = encode text ∧ Json.Blank text := by
  have hone : ∀ b ∈ whiteBytes, [b] = String.utf8EncodeChar (Char.ofNat b.toNat) := by
    intro b hb
    fin_cases hb <;> decide
  have hwell : WellFormed bytes := by
    induction bytes with
    | nil => exact ⟨[], rfl⟩
    | cons b bytes ih =>
      obtain ⟨text, rfl⟩ := ih fun d hd => h d (List.mem_cons_of_mem b hd)
      exact ⟨Char.ofNat b.toNat :: text, by rw [encode_cons, ← hone b (h b (by simp))]; rfl⟩
  obtain ⟨text, rfl⟩ := hwell
  exact ⟨text, rfl, encode_white.1 h⟩

end Utf8

/-! ### Contents -/

namespace Artifact

theorem ofBytes_encode (text : List Char) : ofBytes (Utf8.encode text) = ofText text := by
  simp [ofBytes, Utf8.decode?_encode]

theorem ofBytes_illFormed {content : Bytes} (h : ¬ Utf8.WellFormed content) :
    ofBytes content = .error (.reading .notUtf8) := by
  simp [ofBytes, Utf8.decode?_eq_none_iff.2 h]

/-- A well-formed text that is no document is not JSON. -/
theorem ofBytes_notJson {text : List Char} (h : ∀ v, Json.ofText text ≠ .ok v) :
    ∃ fault, ofBytes (Utf8.encode text) = .error (.notJson (.malformed fault)) := by
  rw [ofBytes_encode, ofText]
  cases hv : Json.ofText text with
  | ok v => exact absurd hv (h v)
  | error fault => exact ⟨fault, rfl⟩

/-- Only an object describes an artifact. -/
theorem exists_object {content : Bytes} {artifact : Artifact} (h : ofBytes content = .ok artifact) :
    ∃ text members, content = Utf8.encode text ∧ Json.ofText text = .ok (.object members) ∧
      ofJson (.object members) = .ok artifact := by
  unfold ofBytes at h
  cases htext : Utf8.decode? content with
  | none => simp [htext] at h
  | some text =>
    simp only [htext] at h
    obtain ⟨document, hread, hok⟩ := ofText_eq_ok_iff.1 h
    cases document with
    | object members =>
      exact ⟨text, members, Utf8.decode?_eq_some_iff.1 htext, hread, hok⟩
    | _ => simp [ofJson, Json.member?] at hok

/-- What follows a document or completes one is white space, if one of the two is an object. -/
theorem continued_white {text more : List Char} {v w : Json} {members : List (String × Json)}
    (hv : Json.ofText text = .ok v) (hw : Json.ofText (text ++ more) = .ok w)
    (hobject : v = .object members ∨ w = .object members) :
    ∀ b ∈ Utf8.encode more, b ∈ Utf8.whiteBytes := by
  obtain ⟨hblank, -⟩ | ⟨x, y, rfl, rfl⟩ := Json.continued_of_ofText hv hw
  · exact Utf8.encode_white.2 hblank
  · obtain h | h := hobject <;> cases h

/-- A first part of an artifact is no document unless only white space is missing. -/
theorem ofBytes_cut {p t : Bytes} {artifact : Artifact} (h : ofBytes (p ++ t) = .ok artifact)
    (ht : ∃ b ∈ t, b ∉ Utf8.whiteBytes) {text : List Char} (hp : p = Utf8.encode text) (v : Json) :
    Json.ofText text ≠ .ok v := by
  intro hv
  obtain ⟨whole, members, hwhole, hobject, -⟩ := exists_object h
  rw [hp] at hwhole
  obtain ⟨more, rfl, rfl⟩ := Utf8.encode_append_eq_encode hwhole
  obtain ⟨b, hb, hother⟩ := ht
  exact hother (continued_white hv hobject (.inr rfl) b hb)

/-- White space after an artifact changes nothing. -/
theorem ofBytes_append_white {content s : Bytes} {artifact : Artifact}
    (h : ofBytes content = .ok artifact) (hs : ∀ b ∈ s, b ∈ Utf8.whiteBytes) :
    ofBytes (content ++ s) = .ok artifact := by
  obtain ⟨text, members, rfl, hobject, hok⟩ := exists_object h
  obtain ⟨more, rfl, hblank⟩ := Utf8.exists_blank hs
  rw [← Utf8.encode_append, ofBytes_encode, ofText, Json.ofText_append_blank hobject hblank]
  exact hok

/-- An artifact with anything else after it is no document. -/
theorem ofBytes_append {content s : Bytes} {artifact : Artifact}
    (h : ofBytes content = .ok artifact) (hs : ∃ b ∈ s, b ∉ Utf8.whiteBytes) {text : List Char}
    (htext : content ++ s = Utf8.encode text) (v : Json) : Json.ofText text ≠ .ok v := by
  intro hv
  obtain ⟨whole, members, rfl, hobject, -⟩ := exists_object h
  obtain ⟨more, rfl, rfl⟩ := Utf8.encode_append_eq_encode htext
  obtain ⟨b, hb, hother⟩ := hs
  exact hother (continued_white hobject hv (.inl rfl) b hb)

end Artifact

/-! ### Files -/

namespace World

theorem artifact_eq {w : World} {path content : Bytes} (h : w.read path = .ok content) :
    w.artifact path = Artifact.located path (Artifact.ofBytes content) := by
  rw [artifact, h]
  rfl

theorem ofBytes_of_artifact {w : World} {path content : Bytes} {found : Artifact}
    (h : w.read path = .ok content) (hok : w.artifact path = .ok found) :
    Artifact.ofBytes content = .ok found := by
  rw [artifact_eq h] at hok
  cases hb : Artifact.ofBytes content with
  | ok a => simpa [hb, Artifact.located] using hok
  | error problem => simp [hb, Artifact.located] at hok

/-- Where a file holds an artifact, a file with only a first part of its bytes does not, unless all
that is missing is white space: its text is not JSON, or it is no text when it is cut inside a
character. With more bytes after it, it is the same artifact if they are white space, and otherwise
again not JSON or no text. -/
theorem artifact_cut_or_continued {w : World} {path content : Bytes} {found : Artifact}
    (hread : w.read path = .ok content) (hfound : w.artifact path = .ok found) (w' : World)
    (path' : Bytes) :
    (∀ p t, content = p ++ t → (∃ b ∈ t, b ∉ Utf8.whiteBytes) → w'.read path' = .ok p →
      (Utf8.CutsCharacter p t ∧ ¬ Utf8.WellFormed p ∧
          w'.artifact path' = .error ⟨path', .reading .notUtf8⟩) ∨
        (¬ Utf8.CutsCharacter p t ∧ Utf8.WellFormed p ∧
          ∃ fault, w'.artifact path' = .error ⟨path', .notJson (.malformed fault)⟩)) ∧
    ∀ s, w'.read path' = .ok (content ++ s) →
      ((∀ b ∈ s, b ∈ Utf8.whiteBytes) → w'.artifact path' = .ok found) ∧
      ((∃ b ∈ s, b ∉ Utf8.whiteBytes) →
        (Utf8.WellFormed (content ++ s) →
          ∃ fault, w'.artifact path' = .error ⟨path', .notJson (.malformed fault)⟩) ∧
        (¬ Utf8.WellFormed (content ++ s) →
          w'.artifact path' = .error ⟨path', .reading .notUtf8⟩)) := by
  have hcontent := ofBytes_of_artifact hread hfound
  constructor
  · rintro p t rfl ht hp
    rw [artifact_eq hp]
    obtain ⟨whole, -, hwhole, -⟩ := Artifact.exists_object hcontent
    by_cases hcut : Utf8.CutsCharacter p t
    · exact .inl ⟨hcut, hcut.not_wellFormed, by
        rw [Artifact.ofBytes_illFormed hcut.not_wellFormed]
        rfl⟩
    · have hwell := (Utf8.wellFormed_or_cutsCharacter hwhole).resolve_right hcut
      obtain ⟨text, rfl⟩ := hwell
      obtain ⟨fault, hfault⟩ := Artifact.ofBytes_notJson (Artifact.ofBytes_cut hcontent ht rfl)
      exact .inr ⟨hcut, ⟨text, rfl⟩, fault, by rw [hfault]; rfl⟩
  · intro s hs
    rw [artifact_eq hs]
    refine ⟨fun hwhite => ?_, fun hother => ⟨?_, fun hill => ?_⟩⟩
    · rw [Artifact.ofBytes_append_white hcontent hwhite]
      rfl
    · rintro ⟨text, htext⟩
      have hnone := Artifact.ofBytes_append hcontent hother htext
      obtain ⟨fault, hfault⟩ := Artifact.ofBytes_notJson hnone
      exact ⟨fault, by rw [htext, hfault]; rfl⟩
    · rw [Artifact.ofBytes_illFormed hill]
      rfl

/-- A world of one file, which is found at the path `a`. -/
def holding (content : Bytes) : World :=
  ⟨Files.Tree.empty.put [[0x61]] (.file ⟨content, .notExecutable⟩), [], none, none⟩

theorem read_holding (content : Bytes) : (holding content).read [0x61] = .ok content := rfl

/-- A text that ends after the first of the two bytes of a letter. -/
theorem artifact_cut_inside_letter :
    (holding (Utf8.encode "\x7b\"sierra_program\":[\"".toList ++ [0xC3])).artifact [0x61] =
      .error ⟨[0x61], .reading .notUtf8⟩ := by
  have hfound : (holding ((Utf8.encode "\x7b\"sierra_program\":[\"".toList ++ [0xC3]) ++
      ([0xA9] ++ Utf8.encode "\"]\x7d".toList))).artifact [0x61] = .ok ⟨⟨["é"]⟩⟩ := rfl
  have hcut : Utf8.CutsCharacter (Utf8.encode "\x7b\"sierra_program\":[\"".toList ++ [0xC3])
      ([0xA9] ++ Utf8.encode "\"]\x7d".toList) :=
    ⟨_, 'é', _, [0xC3], [0xA9], rfl, rfl, by decide, by decide, by decide⟩
  obtain ⟨-, -, h⟩ | ⟨hno, -⟩ := (artifact_cut_or_continued (read_holding _) hfound (holding _)
    [0x61]).1 _ _ rfl ⟨0xA9, by decide, by decide⟩ (read_holding _)
  · exact h
  · exact absurd hcut hno

end World
end SierraFootprint
