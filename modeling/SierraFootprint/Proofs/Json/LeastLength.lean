import SierraFootprint.Proofs.Json.Written
import Mathlib.Algebra.GroupWithZero.Nat

/-!
# How short a text can be

No way of writing a string is shorter than its characters and two quotes, and lists and objects add
their brackets, commas and colons to that. White space, escapes and everything that is no string only
make a text longer.
-/
namespace SierraFootprint.Json

/-- A number of characters that every text of a value has. Values other than strings, lists and
objects are not counted. -/
def leastLength : Json → Nat
  | string s => s.length + 2
  | array vs => leastElements vs + 1
  | object ms => leastMembers ms + 1
  | _ => 0
where
  /-- Each element with the comma or bracket behind it. -/
  leastElements : List Json → Nat
    | [] => 0
    | v :: vs => leastLength v + 1 + leastElements vs
  /-- Each member with its colon and the comma or bracket behind it. -/
  leastMembers : List (String × Json) → Nat
    | [] => 0
    | (key, v) :: ms => key.length + 3 + leastLength v + 1 + leastMembers ms

/-- The bracket behind the last element or member is no part of the phrase. -/
def Phrase.leastLength : Phrase → Nat
  | value v => v.leastLength
  | padded v => v.leastLength
  | elements vs => leastLength.leastElements vs - 1
  | members ms => leastLength.leastMembers ms - 1

theorem Spelled.length_pos {c : Char} {t : List Char} (h : Spelled c t) : 0 < t.length := by
  cases h <;> simp

theorem Inside.length_le {s t : List Char} (h : Inside s t) : s.length ≤ t.length := by
  induction h with
  | nil => exact Nat.le_refl 0
  | cons hc _ ih =>
    have hpos := hc.length_pos
    simp only [List.length_cons, List.length_append]
    omega

theorem Quotes.length_le {s : String} {text : List Char} (h : Quotes s text) :
    s.length + 2 ≤ text.length := by
  obtain ⟨t, ht, rfl⟩ := h
  have hle := ht.length_le
  rw [String.length_toList] at hle
  simp only [List.length_cons, List.length_append, List.length_nil]
  omega

theorem Written.leastLength_le {p : Phrase} {text : List Char} (h : Written p text) :
    p.leastLength ≤ text.length := by
  induction h with
  | null | isTrue | isFalse | number => exact Nat.zero_le _
  | string hq => exact hq.length_le
  | emptyArray | emptyObject =>
    simp [Phrase.leastLength, leastLength, leastLength.leastElements, leastLength.leastMembers]
  | array _ ih | object _ ih =>
    simp only [Phrase.leastLength, leastLength, List.length_cons, List.length_append] at ih ⊢
    omega
  | padded _ _ _ ih =>
    simp only [Phrase.leastLength, List.length_append] at ih ⊢
    omega
  | lastElement _ ih =>
    simpa [Phrase.leastLength, leastLength.leastElements] using ih
  | element _ _ ihv ihvs =>
    simp only [Phrase.leastLength, leastLength.leastElements, List.length_append,
      List.length_cons] at ihv ihvs ⊢
    omega
  | lastMember _ hk _ _ ih =>
    have hkey := hk.length_le
    simp only [Phrase.leastLength, leastLength.leastMembers, List.length_append,
      List.length_cons] at ih ⊢
    omega
  | member _ hk _ _ _ ihv ihms =>
    have hkey := hk.length_le
    simp only [Phrase.leastLength, leastLength.leastMembers, List.length_append,
      List.length_cons] at ihv ihms ⊢
    omega

theorem leastMembers_append (a b : List (String × Json)) :
    leastLength.leastMembers (a ++ b) = leastLength.leastMembers a + leastLength.leastMembers b := by
  induction a with
  | nil => simp [leastLength.leastMembers]
  | cons m a ih =>
    simp only [List.cons_append, leastLength.leastMembers, ih]
    omega

theorem leastElements_strings (texts : List String) :
    leastLength.leastElements (texts.map string) =
      3 * texts.length + (texts.map String.length).sum := by
  induction texts with
  | nil => rfl
  | cons s texts ih =>
    simp only [List.map_cons, leastLength.leastElements, leastLength, ih, List.length_cons,
      List.sum_cons]
    omega

end SierraFootprint.Json
