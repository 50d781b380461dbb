import SierraFootprint.Text.Utf8
import Mathlib.Tactic.Common

/-!
# Well-formed byte strings

The decoder accepts exactly the encodings of texts, and gives back the text. Since an encoded text
leaves no character open, what follows it is decoded by itself. With losses an ill-formed byte string
shows the replacement character, and every other character that is shown stands in the bytes.
-/
namespace SierraFootprint.Utf8

/-- The byte string encodes some text. -/
def WellFormed (bytes : Bytes) : Prop :=
  ∃ text, bytes = encode text

/-! ### The sequences of single characters -/

/-- A byte after the first one of a character. -/
def Tail (b : UInt8) : Prop :=
  0x80 ≤ b.toNat ∧ b.toNat ≤ 0xBF

/-- The well-formed sequences and their characters. The range of the second byte keeps out overlong
forms, surrogates and values that are too large. -/
inductive Sequence : Char → Bytes → Prop
  | one {a : UInt8} : a.toNat < 0x80 → Sequence (Char.ofNat a.toNat) [a]
  | two {a b : UInt8} : 0xC2 ≤ a.toNat → a.toNat < 0xE0 → Tail b →
      Sequence (Char.ofNat ((a.toNat - 0xC0) * 64 + (b.toNat - 0x80))) [a, b]
  | three {a b c : UInt8} : 0xE0 ≤ a.toNat → a.toNat < 0xF0 →
      (a.toNat = 0xE0 → 0xA0 ≤ b.toNat) → (a.toNat = 0xED → b.toNat ≤ 0x9F) →
      Tail b → Tail c →
      Sequence (Char.ofNat (((a.toNat - 0xE0) * 64 + (b.toNat - 0x80)) * 64 + (c.toNat - 0x80)))
        [a, b, c]
  | four {a b c d : UInt8} : 0xF0 ≤ a.toNat → a.toNat < 0xF5 →
      (a.toNat = 0xF0 → 0x90 ≤ b.toNat) → (a.toNat = 0xF4 → b.toNat ≤ 0x8F) →
      Tail b → Tail c → Tail d →
      Sequence (Char.ofNat ((((a.toNat - 0xF0) * 64 + (b.toNat - 0x80)) * 64 +
        (c.toNat - 0x80)) * 64 + (d.toNat - 0x80))) [a, b, c, d]

theorem ofNat_toNat_of_eq {n : Nat} {b : UInt8} (h : n = b.toNat) : UInt8.ofNat n = b := by
  subst h
  simp

theorem toNat_charOfNat {n : Nat} (h : n < 0xD800 ∨ 0xDFFF < n ∧ n < 0x110000) :
    (Char.ofNat n).toNat = n := by
  have hv : n.isValidChar := h
  rw [Char.ofNat, dif_pos hv]
  rfl

/-- The encoder writes exactly these sequences. -/
theorem Sequence.encodeChar_eq {c : Char} {bytes : Bytes} (h : Sequence c bytes) :
    String.utf8EncodeChar c = bytes := by
  cases h with
  | @one a ha =>
    have hn : (Char.ofNat a.toNat).val.toNat = a.toNat := toNat_charOfNat (by omega)
    unfold String.utf8EncodeChar
    simp only [hn]
    rw [if_pos (by omega), ofNat_toNat_of_eq rfl]
  | @two a b ha ha' hb =>
    obtain ⟨hb, hb'⟩ := hb
    have hn := toNat_charOfNat (n := (a.toNat - 0xC0) * 64 + (b.toNat - 0x80)) (by omega)
    change (Char.ofNat _).val.toNat = _ at hn
    unfold String.utf8EncodeChar
    simp only [hn]
    rw [if_neg (by omega), if_pos (by omega), ofNat_toNat_of_eq (b := a) (by omega),
      ofNat_toNat_of_eq (b := b) (by omega)]
  | @three a b c ha ha' h0 hd hb hc =>
    obtain ⟨hb, hb'⟩ := hb
    obtain ⟨hc, hc'⟩ := hc
    have hn := toNat_charOfNat
      (n := ((a.toNat - 0xE0) * 64 + (b.toNat - 0x80)) * 64 + (c.toNat - 0x80)) (by omega)
    change (Char.ofNat _).val.toNat = _ at hn
    unfold String.utf8EncodeChar
    simp only [hn]
    rw [if_neg (by omega), if_neg (by omega), if_pos (by omega),
      ofNat_toNat_of_eq (b := a) (by omega), ofNat_toNat_of_eq (b := b) (by omega),
      ofNat_toNat_of_eq (b := c) (by omega)]
  | @four a b c d ha ha' h0 h4 hb hc hd =>
    obtain ⟨hb, hb'⟩ := hb
    obtain ⟨hc, hc'⟩ := hc
    obtain ⟨hd, hd'⟩ := hd
    have hn := toNat_charOfNat (n := (((a.toNat - 0xF0) * 64 + (b.toNat - 0x80)) * 64 +
      (c.toNat - 0x80)) * 64 + (d.toNat - 0x80)) (by omega)
    change (Char.ofNat _).val.toNat = _ at hn
    unfold String.utf8EncodeChar
    simp only [hn]
    rw [if_neg (by omega), if_neg (by omega), if_neg (by omega),
      ofNat_toNat_of_eq (b := a) (by omega), ofNat_toNat_of_eq (b := b) (by omega),
      ofNat_toNat_of_eq (b := c) (by omega), ofNat_toNat_of_eq (b := d) (by omega)]

theorem toNat_byteOfNat {n : Nat} (h : n < 256) : (UInt8.ofNat n).toNat = n := by
  simp [Nat.mod_eq_of_lt h]

theorem sequence_encodeChar (c : Char) : Sequence c (String.utf8EncodeChar c) := by
  have hv : c.toNat < 0xD800 ∨ 0xDFFF < c.toNat ∧ c.toNat < 0x110000 := c.valid
  have hc : Char.ofNat c.toNat = c := Char.ofNat_toNat c
  have hval : c.val.toNat = c.toNat := rfl
  have hlow : (UInt8.ofNat (c.toNat % 64 + 128)).toNat = c.toNat % 64 + 128 :=
    toNat_byteOfNat (by omega)
  have hmid : (UInt8.ofNat (c.toNat / 64 % 64 + 128)).toNat = c.toNat / 64 % 64 + 128 :=
    toNat_byteOfNat (by omega)
  unfold String.utf8EncodeChar
  simp only [hval]
  split_ifs with h1 h2 h3
  · have ha : (UInt8.ofNat c.toNat).toNat = c.toNat := toNat_byteOfNat (by omega)
    have hs := Sequence.one (a := UInt8.ofNat c.toNat) (by omega)
    rwa [ha, hc] at hs
  · have ha : (UInt8.ofNat (c.toNat / 64 % 32 + 192)).toNat = c.toNat / 64 % 32 + 192 :=
      toNat_byteOfNat (by omega)
    have hs := Sequence.two (a := UInt8.ofNat (c.toNat / 64 % 32 + 192))
      (b := UInt8.ofNat (c.toNat % 64 + 128)) (by omega) (by omega) ⟨by omega, by omega⟩
    have hn : (c.toNat / 64 % 32 + 192 - 0xC0) * 64 + (c.toNat % 64 + 128 - 0x80) = c.toNat := by
      omega
    rwa [ha, hlow, hn, hc] at hs
  · have ha : (UInt8.ofNat (c.toNat / 4096 % 16 + 224)).toNat = c.toNat / 4096 % 16 + 224 :=
      toNat_byteOfNat (by omega)
    have hs := Sequence.three (a := UInt8.ofNat (c.toNat / 4096 % 16 + 224))
      (b := UInt8.ofNat (c.toNat / 64 % 64 + 128)) (c := UInt8.ofNat (c.toNat % 64 + 128))
      (by omega) (by omega) (by omega) (by omega) ⟨by omega, by omega⟩ ⟨by omega, by omega⟩
    have hn : ((c.toNat / 4096 % 16 + 224 - 0xE0) * 64 + (c.toNat / 64 % 64 + 128 - 0x80)) * 64 +
        (c.toNat % 64 + 128 - 0x80) = c.toNat := by
      omega
    rwa [ha, hmid, hlow, hn, hc] at hs
  · have ha : (UInt8.ofNat (c.toNat / 262144 % 8 + 240)).toNat = c.toNat / 262144 % 8 + 240 :=
      toNat_byteOfNat (by omega)
    have hb : (UInt8.ofNat (c.toNat / 4096 % 64 + 128)).toNat = c.toNat / 4096 % 64 + 128 :=
      toNat_byteOfNat (by omega)
    have hs := Sequence.four (a := UInt8.ofNat (c.toNat / 262144 % 8 + 240))
      (b := UInt8.ofNat (c.toNat / 4096 % 64 + 128)) (c := UInt8.ofNat (c.toNat / 64 % 64 + 128))
      (d := UInt8.ofNat (c.toNat % 64 + 128)) (by omega) (by omega) (by omega) (by omega)
      ⟨by omega, by omega⟩ ⟨by omega, by omega⟩ ⟨by omega, by omega⟩
    have hn : (((c.toNat / 262144 % 8 + 240 - 0xF0) * 64 +
        (c.toNat / 4096 % 64 + 128 - 0x80)) * 64 + (c.toNat / 64 % 64 + 128 - 0x80)) * 64 +
          (c.toNat % 64 + 128 - 0x80) = c.toNat := by
      omega
    rwa [ha, hb, hmid, hlow, hn, hc] at hs

/-! ### The decoder on single characters -/

theorem lead_two {b : UInt8} (hl : 0xC2 ≤ b.toNat) (hh : b.toNat < 0xE0) :
    lead b = .opens ⟨b.toNat - 0xC0, 0, 0x80, 0xBF⟩ := by
  unfold lead
  simp only
  rw [if_neg (by omega), if_neg (by omega), if_pos hh]

theorem lead_three {b : UInt8} (hl : 0xE0 ≤ b.toNat) (hh : b.toNat < 0xF0) :
    lead b = .opens ⟨b.toNat - 0xE0, 1, if b.toNat = 0xE0 then 0xA0 else 0x80,
      if b.toNat = 0xED then 0x9F else 0xBF⟩ := by
  unfold lead
  simp only
  rw [if_neg (by omega), if_neg (by omega), if_neg (by omega)]
  by_cases h0 : b.toNat = 0xE0
  · simp [h0]
  by_cases hd : b.toNat = 0xED
  · simp [hd]
  simp [h0, hd, hh]

theorem lead_four {b : UInt8} (hl : 0xF0 ≤ b.toNat) (hh : b.toNat < 0xF5) :
    lead b = .opens ⟨b.toNat - 0xF0, 2, if b.toNat = 0xF0 then 0x90 else 0x80,
      if b.toNat = 0xF4 then 0x8F else 0xBF⟩ := by
  unfold lead
  simp only
  rw [if_neg (by omega), if_neg (by omega), if_neg (by omega), if_neg (by omega),
    if_neg (by omega), if_neg (by omega)]
  by_cases h0 : b.toNat = 0xF0
  · simp [h0]
  by_cases h4 : b.toNat = 0xF4
  · simp [h4]
  have hlt : b.toNat < 0xF4 := by omega
  simp [h0, h4, hlt]

/-- The other bytes open nothing. -/
theorem lead_cases (b : UInt8) :
    b.toNat < 0x80 ∧ lead b = .char (Char.ofNat b.toNat) ∨ lead b = .illFormed ∨
      0xC2 ≤ b.toNat ∧ b.toNat < 0xF5 := by
  by_cases h : b.toNat < 0x80
  · exact .inl ⟨h, by simp [lead, h]⟩
  by_cases hr : 0xC2 ≤ b.toNat ∧ b.toNat < 0xF5
  · exact .inr (.inr hr)
  refine .inr (.inl ?_)
  unfold lead
  simp only
  by_cases h2 : b.toNat < 0xC2
  · rw [if_neg h, if_pos h2]
  rw [if_neg h, if_neg h2, if_neg (by omega), if_neg (by omega), if_neg (by omega),
    if_neg (by omega), if_neg (by omega), if_neg (by omega), if_neg (by omega)]

theorem items_opens {b : UInt8} {p : Partial} (h : lead b = .opens p) (rest : Bytes) :
    items none (b :: rest) = items (some p) rest := by
  simp [items, feed, start, h]

theorem items_last {bits low high : Nat} {b : UInt8} (hl : low ≤ b.toNat) (hh : b.toNat ≤ high)
    (rest : Bytes) :
    items (some ⟨bits, 0, low, high⟩) (b :: rest) =
      some (Char.ofNat (bits * 64 + (b.toNat - 0x80))) :: items none rest := by
  simp [items, feed, hl, hh]

theorem items_more {bits more low high : Nat} {b : UInt8} (hl : low ≤ b.toNat)
    (hh : b.toNat ≤ high) (rest : Bytes) :
    items (some ⟨bits, more + 1, low, high⟩) (b :: rest) =
      items (some ⟨bits * 64 + (b.toNat - 0x80), more, 0x80, 0xBF⟩) rest := by
  simp [items, feed, hl, hh]

/-- A character is read back from its sequence, and nothing of it is left open. -/
theorem Sequence.items_append {c : Char} {bytes : Bytes} (h : Sequence c bytes) (rest : Bytes) :
    items none (bytes ++ rest) = some c :: items none rest := by
  cases h with
  | @one a ha =>
    have hlead : lead a = .char (Char.ofNat a.toNat) := by simp [lead, ha]
    simp [items, feed, start, hlead]
  | two ha ha' hb =>
    simp only [List.cons_append, List.nil_append]
    rw [items_opens (lead_two ha ha'), items_last hb.1 hb.2]
  | @three a b c ha ha' h0 hd hb hc =>
    obtain ⟨hb, hb'⟩ := hb
    simp only [List.cons_append, List.nil_append]
    rw [items_opens (lead_three ha ha'),
      items_more (by split_ifs <;> omega) (by split_ifs <;> omega), items_last hc.1 hc.2]
  | @four a b c d ha ha' h0 h4 hb hc hd =>
    obtain ⟨hb, hb'⟩ := hb
    simp only [List.cons_append, List.nil_append]
    rw [items_opens (lead_four ha ha'),
      items_more (by split_ifs <;> omega) (by split_ifs <;> omega), items_more hc.1 hc.2,
      items_last hd.1 hd.2]

/-- An open character that is not continued becomes a gap, and what follows is read by itself. -/
theorem items_open (p : Partial) (bytes : Bytes) :
    (∃ b rest, bytes = b :: rest ∧ p.low ≤ b.toNat ∧ b.toNat ≤ p.high) ∨
      items (some p) bytes = none :: items none bytes := by
  cases bytes with
  | nil => exact .inr rfl
  | cons b rest =>
    by_cases h : p.low ≤ b.toNat ∧ b.toNat ≤ p.high
    · exact .inl ⟨b, rest, rfl, h⟩
    · exact .inr (by simp [items, feed, h])

/-- Bytes start with the sequence of a character or with an ill-formed stretch. -/
theorem items_cases (b : UInt8) (bytes : Bytes) :
    (∃ c seq rest, b :: bytes = seq ++ rest ∧ Sequence c seq) ∨
      ∃ rest, rest <:+ bytes ∧ items none (b :: bytes) = none :: items none rest := by
  obtain ⟨hlt, -⟩ | hill | ⟨hl, hh⟩ := lead_cases b
  · exact .inl ⟨_, [b], bytes, rfl, .one hlt⟩
  · exact .inr ⟨bytes, List.suffix_refl bytes, by simp [items, feed, start, hill]⟩
  by_cases h2 : b.toNat < 0xE0
  · rw [items_opens (lead_two hl h2)]
    obtain ⟨x, r, rfl, hx, hx'⟩ | hgap := items_open ⟨_, 0, 0x80, 0xBF⟩ bytes
    · exact .inl ⟨_, [b, x], r, rfl, .two hl h2 ⟨hx, hx'⟩⟩
    · exact .inr ⟨_, List.suffix_refl _, hgap⟩
  by_cases h3 : b.toNat < 0xF0
  · rw [items_opens (lead_three (by omega) h3)]
    obtain ⟨x, r, rfl, hx, hx'⟩ | hgap := items_open ⟨_, 1, if b.toNat = 0xE0 then 0xA0 else 0x80,
      if b.toNat = 0xED then 0x9F else 0xBF⟩ bytes
    · rw [items_more hx hx']
      obtain ⟨y, r, rfl, hy, hy'⟩ | hgap := items_open ⟨_, 0, 0x80, 0xBF⟩ r
      · simp only at hx hx'
        refine .inl ⟨_, [b, x, y], r, rfl, .three (by omega) h3 ?_ ?_ ⟨?_, ?_⟩ ⟨hy, hy'⟩⟩ <;>
          split_ifs at hx hx' <;> omega
      · exact .inr ⟨r, List.suffix_cons x r, hgap⟩
    · exact .inr ⟨_, List.suffix_refl _, hgap⟩
  · rw [items_opens (lead_four (by omega) hh)]
    obtain ⟨x, r, rfl, hx, hx'⟩ | hgap := items_open ⟨_, 2, if b.toNat = 0xF0 then 0x90 else 0x80,
      if b.toNat = 0xF4 then 0x8F else 0xBF⟩ bytes
    · rw [items_more hx hx']
      obtain ⟨y, r, rfl, hy, hy'⟩ | hgap := items_open ⟨_, 1, 0x80, 0xBF⟩ r
      · rw [items_more hy hy']
        obtain ⟨z, r, rfl, hz, hz'⟩ | hgap := items_open ⟨_, 0, 0x80, 0xBF⟩ r
        · simp only at hx hx'
          refine .inl ⟨_, [b, x, y, z], r, rfl, .four (by omega) hh ?_ ?_ ⟨?_, ?_⟩ ⟨hy, hy'⟩
            ⟨hz, hz'⟩⟩ <;> split_ifs at hx hx' <;> omega
        · exact .inr ⟨r, (List.suffix_cons y r).trans (List.suffix_cons x _), hgap⟩
      · exact .inr ⟨r, List.suffix_cons x r, hgap⟩
    · exact .inr ⟨_, List.suffix_refl _, hgap⟩

/-- A text without gaps starts with the sequence of its first character. -/
theorem exists_sequence {b : UInt8} {bytes : Bytes} {text : List Char}
    (h : items none (b :: bytes) = text.map some) :
    ∃ c seq rest, b :: bytes = seq ++ rest ∧ Sequence c seq := by
  obtain hseq | ⟨rest, -, hgap⟩ := items_cases b bytes
  · exact hseq
  · rw [hgap] at h
    cases text <;> simp at h

/-! ### Texts -/

theorem items_encode_append (text : List Char) (rest : Bytes) :
    items none (encode text ++ rest) = text.map some ++ items none rest := by
  induction text with
  | nil => rfl
  | cons c text ih =>
    rw [encode_cons, List.append_assoc, (sequence_encodeChar c).items_append, ih]
    rfl

theorem eq_encode_of_items {bytes : Bytes} {text : List Char}
    (h : items none bytes = text.map some) : bytes = encode text := by
  induction text generalizing bytes with
  | nil =>
    cases bytes with
    | nil => rfl
    | cons b bytes =>
      have hnil : items none (b :: bytes) = List.map some [] := h
      obtain ⟨c, seq, rest, hb, hs⟩ := exists_sequence hnil
      rw [hb, hs.items_append] at h
      simp at h
  | cons c text ih =>
    cases bytes with
    | nil => simp [items] at h
    | cons b bytes =>
      obtain ⟨d, seq, rest, hb, hs⟩ := exists_sequence h
      rw [hb, hs.items_append, List.map_cons, List.cons.injEq, Option.some.injEq] at h
      obtain ⟨rfl, ht⟩ := h
      rw [hb, encode_cons, hs.encodeChar_eq, ih ht]

theorem decode?_eq_some_iff_items {bytes : Bytes} {text : List Char} :
    decode? bytes = some text ↔ items none bytes = text.map some := by
  unfold decode?
  rw [scan_eq]
  constructor
  · intro h
    simp only [Option.ite_none_right_eq_some, Option.some.injEq] at h
    obtain ⟨hall, rfl⟩ := h
    rw [List.map_filterMap_some_eq_filter_map_isSome, List.map_id, List.filter_eq_self.2]
    simpa using hall
  · intro h
    rw [h]
    simp

/-- Decoding succeeds on the encodings of texts only, and gives back the text. -/
theorem decode?_eq_some_iff {bytes : Bytes} {text : List Char} :
    decode? bytes = some text ↔ bytes = encode text := by
  rw [decode?_eq_some_iff_items]
  refine ⟨eq_encode_of_items, ?_⟩
  rintro rfl
  simpa [items] using items_encode_append text []

theorem decode?_encode (text : List Char) : decode? (encode text) = some text :=
  decode?_eq_some_iff.2 rfl

theorem encode_injective {a b : List Char} (h : encode a = encode b) : a = b := by
  have hb := decode?_encode b
  rw [← h, decode?_encode] at hb
  exact Option.some.inj hb

theorem decode?_eq_none_iff {bytes : Bytes} : decode? bytes = none ↔ ¬ WellFormed bytes := by
  rw [Option.eq_none_iff_forall_ne_some]
  simp only [ne_eq, decode?_eq_some_iff, WellFormed, not_exists]

/-- What follows an encoded text is an encoded text if the whole is. -/
theorem encode_append_eq_encode {a c : List Char} {bytes : Bytes}
    (h : encode a ++ bytes = encode c) : ∃ b, bytes = encode b ∧ c = a ++ b := by
  have hc := decode?_eq_some_iff_items.1 (decode?_encode c)
  rw [← h, items_encode_append] at hc
  obtain ⟨l, r, rfl, hl, hr⟩ := List.append_eq_map_iff.1 hc
  obtain rfl := (List.map_inj_right fun _ _ => Option.some.inj).1 hl
  exact ⟨r, eq_encode_of_items hr.symm, rfl⟩

/-! ### Cuts -/

/-- The bytes are cut in two inside a character. -/
def CutsCharacter (p t : Bytes) : Prop :=
  ∃ before c after x y, p = encode before ++ x ∧ t = y ++ encode after ∧
    String.utf8EncodeChar c = x ++ y ∧ x ≠ [] ∧ y ≠ []

theorem CutsCharacter.not_wellFormed {p t : Bytes} (h : CutsCharacter p t) : ¬ WellFormed p := by
  obtain ⟨before, c, after, x, y, rfl, -, hc, hx, hy⟩ := h
  rintro ⟨text, htext⟩
  obtain ⟨cut, rfl, -⟩ := encode_append_eq_encode htext
  have hone : encode cut ++ y = encode [c] := by simp [hc]
  obtain ⟨b, rfl, hb⟩ := encode_append_eq_encode hone
  obtain ⟨rfl, -⟩ | ⟨-, rfl⟩ := List.singleton_eq_append_iff.1 hb
  · exact hx rfl
  · exact hy rfl

/-- A first part of a text that is not well formed ends inside a character. -/
theorem wellFormed_or_cutsCharacter {p t : Bytes} {text : List Char} (h : p ++ t = encode text) :
    WellFormed p ∨ CutsCharacter p t := by
  induction text generalizing p with
  | nil =>
    obtain ⟨rfl, -⟩ := List.append_eq_nil_iff.1 h
    exact .inl ⟨[], rfl⟩
  | cons c text ih =>
    rw [encode_cons] at h
    obtain ⟨y, hc, ht⟩ | ⟨p', rfl, hp⟩ := List.append_eq_append_iff.1 h
    · by_cases hp : p = []
      · exact .inl ⟨[], hp⟩
      by_cases hy : y = []
      · exact .inl ⟨[c], by simp [hc, hy]⟩
      exact .inr ⟨[], c, text, p, y, by simp, ht, hc, hp, hy⟩
    · obtain ⟨q, rfl⟩ | ⟨before, d, after, x, y, rfl, hcut⟩ := ih hp.symm
      · exact .inl ⟨c :: q, by simp⟩
      · exact .inr ⟨c :: before, d, after, x, y, by simp, hcut⟩

/-! ### Decoding with losses -/

theorem lossy_encode (text : List Char) : lossy (encode text) = text := by
  have h := items_encode_append text []
  rw [List.append_nil] at h
  simp [lossy, scan_eq, h, items, Function.comp_def]

/-- Where no replacement character is shown nothing was ill-formed. -/
theorem eq_encode_of_lossy {bytes : Bytes} (h : replacement ∉ lossy bytes) :
    bytes = encode (lossy bytes) := by
  apply eq_encode_of_items
  rw [lossy, scan_eq, List.map_map]
  rw [lossy, scan_eq] at h
  refine (List.map_id' _).symm.trans (List.map_congr_left fun item hitem => ?_)
  cases item with
  | none => exact absurd (List.mem_map.2 ⟨none, hitem, rfl⟩) h
  | some c => rfl

/-- Every character that is read stands in the bytes. -/
theorem encodeChar_of_mem_items {bytes : Bytes} {c : Char} (h : some c ∈ items none bytes) :
    String.utf8EncodeChar c <:+: bytes := by
  induction hn : bytes.length using Nat.strongRecOn generalizing bytes with
  | ind n ih =>
    cases bytes with
    | nil => simp [items] at h
    | cons b bytes =>
      obtain ⟨d, seq, rest, hb, hs⟩ | ⟨rest, hrest, hgap⟩ := items_cases b bytes
      · rw [hb, hs.items_append, List.mem_cons, Option.some.injEq] at h
        rw [hb]
        obtain rfl | h := h
        · rw [hs.encodeChar_eq]
          exact (List.prefix_append seq rest).isInfix
        · have hlt : rest.length < n := by
            have hpos : 0 < seq.length := by cases hs <;> simp
            rw [← hn, hb, List.length_append]
            omega
          exact (ih _ hlt h rfl).trans (List.suffix_append seq rest).isInfix
      · rw [hgap, List.mem_cons] at h
        have hlt : rest.length < n := by
          have := hrest.length_le
          simp only [List.length_cons] at hn
          omega
        have hin := ih _ hlt (h.resolve_left (by simp)) rfl
        exact hin.trans (hrest.trans (List.suffix_cons b bytes)).isInfix

/-- A character below U+0080 is shown only where its byte stands. -/
theorem byte_mem_of_mem_lossy {bytes : Bytes} {c : Char} (h : c ∈ lossy bytes)
    (hc : c.toNat < 0x80) : UInt8.ofNat c.toNat ∈ bytes := by
  rw [lossy, scan_eq, List.mem_map] at h
  obtain ⟨item, hitem, hshown⟩ := h
  cases item with
  | none =>
    have hr : replacement = c := hshown
    rw [← hr] at hc
    exact absurd hc (by decide)
  | some d =>
    obtain rfl : d = c := hshown
    have hone : String.utf8EncodeChar d = [UInt8.ofNat d.toNat] := by
      have hval : d.val.toNat = d.toNat := rfl
      rw [String.utf8EncodeChar]
      simp only [hval]
      rw [if_pos (by omega)]
    have hin := encodeChar_of_mem_items hitem
    rw [hone] at hin
    exact hin.subset (List.mem_singleton_self _)

end SierraFootprint.Utf8
