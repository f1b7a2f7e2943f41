import AsyncActions.Text.Utf8
import Mathlib.Tactic.Common

/-!
# Bytes that encode text

Decoding takes back what encoding makes of characters. The other way round, bytes that decode without a
replacement character are the encoding of what they decode to, so invalid bytes always show in the text.
-/

namespace AsyncActions.Utf8

/-- The bytes are the encoding of some text. -/
def Valid (bs : Bytes) : Prop := ∃ cs, encode cs = bs

/-- The bytes have the form of one character, and this is its number. -/
inductive Form : Bytes → Nat → Prop
  | one {a : UInt8} : sequenceLength a = 1 → Form [a] a.toNat
  | two {a b : UInt8} : sequenceLength a = 2 → admitsSecond a b = true →
      Form [a, b] (a.toNat % 32 * 64 + bits b)
  | three {a b c : UInt8} : sequenceLength a = 3 → admitsSecond a b = true → isContinuation c = true →
      Form [a, b, c] (a.toNat % 16 * 4096 + bits b * 64 + bits c)
  | four {a b c d : UInt8} : sequenceLength a = 4 → admitsSecond a b = true → isContinuation c = true →
      isContinuation d = true →
        Form [a, b, c, d] (a.toNat % 8 * 262144 + bits b * 4096 + bits c * 64 + bits d)

lemma sequenceLength_eq_iff {b : UInt8} :
    (sequenceLength b = 1 ↔ b.toNat ≤ 0x7F) ∧
      (sequenceLength b = 2 ↔ 0xC2 ≤ b.toNat ∧ b.toNat ≤ 0xDF) ∧
      (sequenceLength b = 3 ↔ 0xE0 ≤ b.toNat ∧ b.toNat ≤ 0xEF) ∧
      (sequenceLength b = 4 ↔ 0xF0 ≤ b.toNat ∧ b.toNat ≤ 0xF4) := by
  simp only [sequenceLength, UInt8.lt_iff_toNat_lt, UInt8.le_iff_toNat_le, Bool.and_eq_true,
    decide_eq_true_eq]
  split_ifs <;> simp_all <;> omega

lemma isContinuation_iff {b : UInt8} : isContinuation b = true ↔ 0x80 ≤ b.toNat ∧ b.toNat ≤ 0xBF := by
  simp [isContinuation, UInt8.le_iff_toNat_le]

lemma admitsSecond_iff {lead b : UInt8} : admitsSecond lead b = true ↔
    0x80 ≤ b.toNat ∧ b.toNat ≤ 0xBF ∧ (lead.toNat = 0xE0 → 0xA0 ≤ b.toNat) ∧
      (lead.toNat = 0xED → b.toNat ≤ 0x9F) ∧ (lead.toNat = 0xF0 → 0x90 ≤ b.toNat) ∧
      (lead.toNat = 0xF4 → b.toNat ≤ 0x8F) := by
  simp only [admitsSecond, ← UInt8.toNat_inj, isContinuation]
  split_ifs <;> simp_all [UInt8.le_iff_toNat_le] <;> omega

lemma toNat_ofNat {v : Nat} (h : v < 0xD800 ∨ 0xDFFF < v ∧ v < 0x110000) : (Char.ofNat v).val.toNat = v := by
  have hvalid : v.isValidChar := h
  rw [Char.ofNat, dif_pos hvalid]
  rfl

/-! ### One character -/

lemma next?_eq_some_iff {bs rest : Bytes} {c : Char} :
    next? bs = some (c, rest) ↔ ∃ s v, Form s v ∧ bs = s ++ rest ∧ c = Char.ofNat v := by
  constructor
  · intro h
    unfold next? at h
    split at h
    · cases h
    · next lead tail =>
      split at h
      · next hlength =>
        cases h
        exact ⟨_, _, .one hlength, rfl, rfl⟩
      · next b _ hlength =>
        split at h
        · next hb =>
          cases h
          exact ⟨_, _, .two hlength hb, rfl, rfl⟩
        · cases h
      · next b c _ hlength =>
        split at h
        · next hb =>
          cases h
          obtain ⟨hb, hc⟩ := Bool.and_eq_true_iff.mp hb
          exact ⟨_, _, .three hlength hb hc, rfl, rfl⟩
        · cases h
      · next b c d _ hlength =>
        split at h
        · next hb =>
          cases h
          obtain ⟨hb, hd⟩ := Bool.and_eq_true_iff.mp hb
          obtain ⟨hb, hc⟩ := Bool.and_eq_true_iff.mp hb
          exact ⟨_, _, .four hlength hb hc hd, rfl, rfl⟩
        · cases h
      · cases h
  · rintro ⟨s, v, hform, rfl, rfl⟩
    cases hform with
    | one hlength => simp [next?, hlength]
    | two hlength hb => simp [next?, hlength, hb]
    | three hlength hb hc => simp [next?, hlength, hb, hc]
    | four hlength hb hc hd => simp [next?, hlength, hb, hc, hd]

/-- Every character is encoded in the form of its number. -/
lemma form_encodeChar (c : Char) : Form (String.utf8EncodeChar c) c.val.toNat := by
  have hvalid : c.val.toNat < 0xD800 ∨ 0xDFFF < c.val.toNat ∧ c.val.toNat < 0x110000 := c.valid
  have hbyte {n : Nat} (hn : n < 256) : (UInt8.ofNat n).toNat = n := UInt8.toNat_ofNat_of_lt' hn
  simp only [String.utf8EncodeChar]
  generalize c.val.toNat = v at *
  split_ifs with h1 h2 h3
  · have ha := hbyte (show v < 256 by omega)
    have hform : Form [UInt8.ofNat v] _ := .one (sequenceLength_eq_iff.1.mpr (by omega))
    rwa [ha] at hform
  · have ha := hbyte (show v / 64 % 0x20 + 0xC0 < 256 by omega)
    have hb := hbyte (show v % 0x40 + 0x80 < 256 by omega)
    have hform : Form [UInt8.ofNat (v / 64 % 0x20 + 0xC0), UInt8.ofNat (v % 0x40 + 0x80)] _ :=
      .two (sequenceLength_eq_iff.2.1.mpr (by omega)) (admitsSecond_iff.mpr (by omega))
    have hv : (v / 64 % 0x20 + 0xC0) % 32 * 64 + (v % 0x40 + 0x80) % 64 = v := by omega
    rwa [bits, ha, hb, hv] at hform
  · have ha := hbyte (show v / 4096 % 0x10 + 0xE0 < 256 by omega)
    have hb := hbyte (show v / 64 % 0x40 + 0x80 < 256 by omega)
    have hc := hbyte (show v % 0x40 + 0x80 < 256 by omega)
    have hform : Form [UInt8.ofNat (v / 4096 % 0x10 + 0xE0), UInt8.ofNat (v / 64 % 0x40 + 0x80),
        UInt8.ofNat (v % 0x40 + 0x80)] _ :=
      .three (sequenceLength_eq_iff.2.2.1.mpr (by omega)) (admitsSecond_iff.mpr (by omega))
        (isContinuation_iff.mpr (by omega))
    have hv : (v / 4096 % 0x10 + 0xE0) % 16 * 4096 + (v / 64 % 0x40 + 0x80) % 64 * 64 +
        (v % 0x40 + 0x80) % 64 = v := by omega
    rwa [bits, bits, ha, hb, hc, hv] at hform
  · have ha := hbyte (show v / 262144 % 0x08 + 0xF0 < 256 by omega)
    have hb := hbyte (show v / 4096 % 0x40 + 0x80 < 256 by omega)
    have hc := hbyte (show v / 64 % 0x40 + 0x80 < 256 by omega)
    have hd := hbyte (show v % 0x40 + 0x80 < 256 by omega)
    have hform : Form [UInt8.ofNat (v / 262144 % 0x08 + 0xF0), UInt8.ofNat (v / 4096 % 0x40 + 0x80),
        UInt8.ofNat (v / 64 % 0x40 + 0x80), UInt8.ofNat (v % 0x40 + 0x80)] _ :=
      .four (sequenceLength_eq_iff.2.2.2.mpr (by omega)) (admitsSecond_iff.mpr (by omega))
        (isContinuation_iff.mpr (by omega)) (isContinuation_iff.mpr (by omega))
    have hv : (v / 262144 % 0x08 + 0xF0) % 8 * 262144 + (v / 4096 % 0x40 + 0x80) % 64 * 4096 +
        (v / 64 % 0x40 + 0x80) % 64 * 64 + (v % 0x40 + 0x80) % 64 = v := by omega
    rwa [bits, bits, bits, ha, hb, hc, hd, hv] at hform

/-- Bytes in the form of a character are its encoding. -/
lemma Form.eq_encodeChar {s : Bytes} {v : Nat} (h : Form s v) : s = String.utf8EncodeChar (Char.ofNat v) := by
  have hbyte {b : UInt8} {n : Nat} (hn : b.toNat = n) : UInt8.ofNat n = b := by
    rw [← hn, UInt8.ofNat_toNat]
  cases h with
  | @one a ha =>
    rw [sequenceLength_eq_iff.1] at ha
    rw [String.utf8EncodeChar, toNat_ofNat (by omega), if_pos (by omega), UInt8.ofNat_toNat]
  | @two a b ha hb =>
    rw [sequenceLength_eq_iff.2.1] at ha
    rw [admitsSecond_iff] at hb
    rw [bits, String.utf8EncodeChar, toNat_ofNat (by omega), if_neg (by omega), if_pos (by omega),
      hbyte (b := a) (by omega), hbyte (b := b) (by omega)]
  | @three a b c ha hb hc =>
    rw [sequenceLength_eq_iff.2.2.1] at ha
    rw [admitsSecond_iff] at hb
    rw [isContinuation_iff] at hc
    rw [bits, bits, String.utf8EncodeChar, toNat_ofNat (by omega), if_neg (by omega), if_neg (by omega),
      if_pos (by omega), hbyte (b := a) (by omega), hbyte (b := b) (by omega), hbyte (b := c) (by omega)]
  | @four a b c d ha hb hc hd =>
    rw [sequenceLength_eq_iff.2.2.2] at ha
    rw [admitsSecond_iff] at hb
    rw [isContinuation_iff] at hc hd
    rw [bits, bits, bits, String.utf8EncodeChar, toNat_ofNat (by omega), if_neg (by omega),
      if_neg (by omega), if_neg (by omega), hbyte (b := a) (by omega), hbyte (b := b) (by omega),
      hbyte (b := c) (by omega), hbyte (b := d) (by omega)]

/-- Bytes that are read as a character start with its encoding. -/
lemma next?_eq_some_iff_append {bs rest : Bytes} {c : Char} :
    next? bs = some (c, rest) ↔ bs = String.utf8EncodeChar c ++ rest := by
  rw [next?_eq_some_iff]
  constructor
  · rintro ⟨s, v, hform, rfl, rfl⟩
    rw [hform.eq_encodeChar]
  · rintro rfl
    exact ⟨_, _, form_encodeChar c, rfl, (Char.ofNat_toNat c).symm⟩

/-! ### Text -/

lemma decode_of_next? {bs rest : Bytes} {c : Char} (h : next? bs = some (c, rest)) :
    decode bs = c :: decode rest := by
  cases bs with
  | nil => cases h
  | cons lead tail =>
    rw [decode.eq_def]
    simp only
    split
    · next hnext =>
      rw [h] at hnext
      cases hnext
      rfl
    · next hnext =>
      rw [h] at hnext
      cases hnext

lemma encode_cons (c : Char) (cs : List Char) : encode (c :: cs) = String.utf8EncodeChar c ++ encode cs := rfl

/-- Decoding takes encoding back. -/
lemma decode_encode (cs : List Char) : decode (encode cs) = cs := by
  induction cs with
  | nil => rw [encode, List.flatMap_nil, decode]
  | cons c cs ih => rw [decode_of_next? (next?_eq_some_iff_append.mpr (encode_cons c cs)), ih]

lemma encode_append (xs ys : List Char) : encode (xs ++ ys) = encode xs ++ encode ys := List.flatMap_append

lemma encode_injective {xs ys : List Char} (h : encode xs = encode ys) : xs = ys := by
  rw [← decode_encode xs, h, decode_encode]

lemma length_encode_concat (xs : List Char) (c : Char) :
    (encode (xs ++ [c])).length = (encode xs).length + (String.utf8EncodeChar c).length := by
  rw [encode_append, List.length_append, encode, encode, List.flatMap_singleton]

lemma length_encode_lt (xs : List Char) (c : Char) (ys : List Char) :
    (encode xs).length < (encode (xs ++ c :: ys)).length := by
  have hc := c.utf8Size_pos
  rw [encode_append, encode_cons, List.length_append, List.length_append, String.length_utf8EncodeChar]
  omega

/-- Where decoding replaces nothing, encoding takes it back. -/
lemma encode_decode {bs : Bytes} (h : replacement ∉ decode bs) : encode (decode bs) = bs := by
  fun_induction decode bs with
  | case1 => rfl
  | case2 lead rest c rest' hnext ih =>
    rw [encode_cons, ih fun hmem => h (List.mem_cons_of_mem _ hmem)]
    exact (next?_eq_some_iff_append.mp hnext).symm
  | case3 => exact absurd List.mem_cons_self h

lemma valid_of_not_mem_decode {bs : Bytes} (h : replacement ∉ decode bs) : Valid bs :=
  ⟨_, encode_decode h⟩

lemma Form.le {s : Bytes} {v : Nat} (h : Form s v) : ∀ b ∈ s, b.toNat ≤ 0xF4 := by
  have hsecond {a b : UInt8} (h : admitsSecond a b = true) : b.toNat ≤ 0xF4 := by
    have := admitsSecond_iff.mp h
    omega
  have hnext {b : UInt8} (h : isContinuation b = true) : b.toNat ≤ 0xF4 := by
    have := isContinuation_iff.mp h
    omega
  cases h with
  | one ha =>
    have := sequenceLength_eq_iff.1.mp ha
    simp only [List.forall_mem_cons]
    exact ⟨by omega, nofun⟩
  | two ha hb =>
    have := sequenceLength_eq_iff.2.1.mp ha
    simp only [List.forall_mem_cons]
    exact ⟨by omega, hsecond hb, nofun⟩
  | three ha hb hc =>
    have := sequenceLength_eq_iff.2.2.1.mp ha
    simp only [List.forall_mem_cons]
    exact ⟨by omega, hsecond hb, hnext hc, nofun⟩
  | four ha hb hc hd =>
    have := sequenceLength_eq_iff.2.2.2.mp ha
    simp only [List.forall_mem_cons]
    exact ⟨by omega, hsecond hb, hnext hc, hnext hd, nofun⟩

/-- No byte of a text is beyond `0xF4`. -/
lemma Valid.le {bs : Bytes} (h : Valid bs) : ∀ b ∈ bs, b.toNat ≤ 0xF4 := by
  obtain ⟨cs, rfl⟩ := h
  intro b hb
  obtain ⟨c, -, hb⟩ := List.mem_flatMap.mp hb
  exact (form_encodeChar c).le b hb

end AsyncActions.Utf8
