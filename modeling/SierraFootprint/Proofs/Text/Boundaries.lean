import SierraFootprint.Proofs.Text.WellFormed

/-!
# Where a text may be cut

A byte string may be cut in front of every byte that does not continue a character. In the encoding
of a text those are the places between two characters, so that both sides of a cut are texts again.
-/
namespace SierraFootprint
namespace Bytes

/-- The bytes may be cut at an offset: no character goes on there. -/
def isBoundary (bytes : Bytes) (i : Nat) : Bool :=
  match bytes[i]? with
  | some b => i == 0 || b.toNat < 0x80 || 0xC0 ≤ b.toNat
  | none => i == bytes.length

/-- The bytes before an offset at which they may be cut. -/
def take? (i : Nat) (bytes : Bytes) : Option Bytes :=
  if bytes.isBoundary i then some (bytes.take i) else none

/-- The bytes from an offset on at which they may be cut. -/
def drop? (i : Nat) (bytes : Bytes) : Option Bytes :=
  if bytes.isBoundary i then some (bytes.drop i) else none

end Bytes

namespace Utf8

/-- A character is a byte that begins it and bytes that continue it. -/
theorem Sequence.exists_cons {c : Char} {bytes : Bytes} (h : Sequence c bytes) :
    ∃ first rest, bytes = first :: rest ∧ ¬ Tail first ∧ ∀ b ∈ rest, Tail b := by
  cases h with
  | one ha => exact ⟨_, [], rfl, fun ht => by have := ht.1; omega, by simp⟩
  | two ha ha' hb => exact ⟨_, _, rfl, fun ht => by have := ht.2; omega, by simpa using hb⟩
  | three ha ha' _ _ hb hc =>
    exact ⟨_, _, rfl, fun ht => by have := ht.2; omega, by simpa using ⟨hb, hc⟩⟩
  | four ha ha' _ _ hb hc hd =>
    exact ⟨_, _, rfl, fun ht => by have := ht.2; omega, by simpa using ⟨hb, hc, hd⟩⟩

theorem isBoundary_iff {bytes : Bytes} {i : Nat} {b : UInt8} (h : bytes[i]? = some b) :
    bytes.isBoundary i = true ↔ i = 0 ∨ ¬ Tail b := by
  simp only [Bytes.isBoundary, h, Bool.or_eq_true, beq_iff_eq, decide_eq_true_eq, Tail]
  omega

theorem isBoundary_length (bytes : Bytes) : bytes.isBoundary bytes.length = true := by
  simp [Bytes.isBoundary]

/-- The bytes of a text may be cut where a part of the text ends. -/
theorem isBoundary_encode_append (a b : List Char) :
    (encode (a ++ b)).isBoundary (encode a).length = true := by
  cases b with
  | nil =>
    rw [List.append_nil]
    exact isBoundary_length _
  | cons c b =>
    obtain ⟨first, rest, hc, hfirst, -⟩ := (sequence_encodeChar c).exists_cons
    have hbyte : (encode (a ++ c :: b))[(encode a).length]? = some first := by
      simp [hc]
    exact (isBoundary_iff hbyte).2 (.inr hfirst)

/-- A cut inside a character comes before a byte that continues it. -/
theorem CutsCharacter.not_isBoundary {p t : Bytes} (h : CutsCharacter p t) :
    ¬ (p ++ t).isBoundary p.length = true := by
  obtain ⟨before, c, after, x, y, rfl, rfl, hc, hx, hy⟩ := h
  obtain ⟨first, rest, hseq, -, hrest⟩ := (sequence_encodeChar c).exists_cons
  obtain ⟨b, y, rfl⟩ := List.exists_cons_of_ne_nil hy
  obtain ⟨a, x, rfl⟩ := List.exists_cons_of_ne_nil hx
  rw [hseq, List.cons_append, List.cons.injEq] at hc
  have hb : Tail b := hrest b (by simp [hc.2])
  have hbyte : (encode before ++ a :: x ++ (b :: y ++ encode after))[
      (encode before ++ a :: x).length]? = some b := by
    simp
  rw [isBoundary_iff hbyte]
  rintro (hzero | htail)
  · simp at hzero
  · exact htail hb

/-- The bytes of a text may be cut between characters only. -/
theorem isBoundary_encode_iff {text : List Char} {i : Nat} :
    (encode text).isBoundary i = true ↔ ∃ a b, text = a ++ b ∧ i = (encode a).length := by
  constructor
  · intro h
    have hle : i ≤ (encode text).length := by
      by_contra hlt
      have hnone : (encode text)[i]? = none := List.getElem?_eq_none (by omega)
      simp only [Bytes.isBoundary, hnone, beq_iff_eq] at h
      omega
    have hlength : ((encode text).take i).length = i := by simp [hle]
    obtain ⟨a, ha⟩ | hcut := wellFormed_or_cutsCharacter (List.take_append_drop i (encode text))
    · have htext := List.take_append_drop i (encode text)
      rw [ha] at htext hlength
      obtain ⟨b, -, hb⟩ := encode_append_eq_encode htext
      exact ⟨a, b, hb, hlength.symm⟩
    · have hno := hcut.not_isBoundary
      rw [List.take_append_drop, hlength] at hno
      exact absurd h hno
  · rintro ⟨a, b, rfl, rfl⟩
    exact isBoundary_encode_append a b

/-- A cut where a part of a text ends takes the bytes of the text apart into those of its parts. -/
theorem cut_encode_append {a : List Char} {i : Nat} (hi : i = (encode a).length) (b : List Char) :
    (encode (a ++ b)).take? i = some (encode a) ∧ (encode (a ++ b)).drop? i = some (encode b) := by
  subst hi
  rw [Bytes.take?, Bytes.drop?, if_pos (isBoundary_encode_append a b),
    if_pos (isBoundary_encode_append a b)]
  simp

/-- Every cut of the bytes of a text is one of those. -/
theorem exists_of_take?_encode {text : List Char} {i : Nat} {front : Bytes}
    (h : (encode text).take? i = some front) :
    ∃ a b, text = a ++ b ∧ i = (encode a).length ∧ front = encode a := by
  rw [Bytes.take?, Option.ite_none_right_eq_some] at h
  obtain ⟨a, b, rfl, hi⟩ := isBoundary_encode_iff.1 h.1
  refine ⟨a, b, rfl, hi, ?_⟩
  simpa [hi] using h.2.symm

end Utf8
end SierraFootprint
