import SierraFootprint.Proofs.Program.Accounting

/-!
# Sizes in machine words

A size is added up in words of 64 bits. The characters of the tokens bound every sum on the way, so
that no sum leaves the range of a word as long as the characters can be counted in one.
-/
namespace SierraFootprint

/-- A number as a word, if it fits into 64 bits. -/
def word? (n : Nat) : Option UInt64 :=
  if n < 2 ^ 64 then some (UInt64.ofNat n) else none

/-- Adds the size of a token to a sum. Nothing comes out when a number does not fit into a word. -/
def addToken? (mode : StripMode) (total : UInt64) (token : String) : Option UInt64 :=
  (word? (mode.strip token).length).bind fun count => word? (total.toNat + (count / 2).toNat)

/-- `byteSize` in words, with nothing coming out when a number on the way does not fit into one. -/
def wordSize? (mode : StripMode) (tokens : List String) : Option UInt64 :=
  tokens.foldlM (addToken? mode) 0

/-- The characters of all tokens. -/
def characterCount (tokens : List String) : Nat :=
  (tokens.map String.length).sum

@[simp] theorem characterCount_nil : characterCount [] = 0 := rfl

@[simp] theorem characterCount_cons (token : String) (rest : List String) :
    characterCount (token :: rest) = token.length + characterCount rest := by
  simp [characterCount]

@[simp] theorem characterCount_append (a b : List String) :
    characterCount (a ++ b) = characterCount a + characterCount b := by
  simp [characterCount]

theorem characterCount_take_le (tokens : List String) (k : Nat) :
    characterCount (tokens.take k) ≤ characterCount tokens := by
  have h := characterCount_append (tokens.take k) (tokens.drop k)
  rw [List.take_append_drop] at h
  omega

namespace StripMode

theorem length_strip_le (mode : StripMode) (token : String) :
    (mode.strip token).length ≤ token.length := by
  rw [← String.length_toList, ← String.length_toList, toList_strip]
  cases mode with
  | global =>
    have h := length_deleteMarkers token.toList
    rw [stripText_global]
    omega
  | leading =>
    have h := length_deleteLeading token.toList
    rw [stripText_leading]
    omega

end StripMode

/-- Two characters make a byte at most. -/
theorem two_mul_byteSize_le (mode : StripMode) (tokens : List String) :
    2 * byteSize mode tokens ≤ characterCount tokens := by
  induction tokens with
  | nil => exact Nat.le_refl 0
  | cons token rest ih =>
    have hlength := mode.length_strip_le token
    rw [byteSize_cons, characterCount_cons, tokenSize]
    omega

theorem word?_eq_some {n : Nat} (h : n < 2 ^ 64) : ∃ w, word? n = some w ∧ w.toNat = n :=
  ⟨_, if_pos h, UInt64.toNat_ofNat_of_lt' h⟩

theorem addToken?_eq_some (mode : StripMode) {total : UInt64} {token : String}
    (h : total.toNat + token.length < 2 ^ 64) :
    ∃ w, addToken? mode total token = some w ∧ w.toNat = total.toNat + tokenSize mode token := by
  have hlength := mode.length_strip_le token
  obtain ⟨count, hcount, hvalue⟩ := word?_eq_some (n := (mode.strip token).length) (by omega)
  have hhalf : (count / 2).toNat = tokenSize mode token := by
    rw [UInt64.toNat_div, hvalue]
    rfl
  have hsum : total.toNat + (count / 2).toNat < 2 ^ 64 := by
    rw [hhalf, tokenSize]
    omega
  obtain ⟨w, hw, hwvalue⟩ := word?_eq_some hsum
  exact ⟨w, by rw [addToken?, hcount, Option.bind_some, hw], by rw [hwvalue, hhalf]⟩

/-- What is carried along is that the sum so far and the characters still to come fit into a word. -/
theorem foldlM_addToken? (mode : StripMode) {total : UInt64} {tokens : List String}
    (h : total.toNat + characterCount tokens < 2 ^ 64) :
    ∃ w, tokens.foldlM (addToken? mode) total = some w ∧
      w.toNat = total.toNat + byteSize mode tokens := by
  induction tokens generalizing total with
  | nil => exact ⟨total, rfl, rfl⟩
  | cons token rest ih =>
    rw [characterCount_cons] at h
    have hlength := mode.length_strip_le token
    have hfits : total.toNat + token.length < 2 ^ 64 := by omega
    obtain ⟨next, hnext, hvalue⟩ := addToken?_eq_some mode hfits
    have hsmall : next.toNat + characterCount rest < 2 ^ 64 := by
      rw [hvalue, tokenSize]
      omega
    obtain ⟨w, hw, hwvalue⟩ := ih hsmall
    refine ⟨w, by rw [List.foldlM_cons, hnext]; exact hw, ?_⟩
    rw [hwvalue, hvalue, byteSize_cons, Nat.add_assoc]

theorem wordSize?_eq_some (mode : StripMode) {tokens : List String}
    (h : characterCount tokens < 2 ^ 64) :
    ∃ w, wordSize? mode tokens = some w ∧ w.toNat = byteSize mode tokens := by
  have hzero : (0 : UInt64).toNat + characterCount tokens < 2 ^ 64 := by simpa using h
  simpa [wordSize?] using foldlM_addToken? mode hzero

end SierraFootprint
