import AsyncActions.Proofs.EncodedText
import AsyncActions.Proofs.Splice

/-!
# Fixes as edits of text

Offsets count bytes, but a source is text. If it is encoded text and every offset falls between two of its
characters, applying fixes puts each text before the character that stands there: the result is encoded text
again, namely the old text with the new ones in between.
-/

namespace AsyncActions

namespace Utf8

/-- The offset falls between two characters, or at an end of the text. -/
def Boundary (bs : Bytes) (offset : Nat) : Prop :=
  ∃ before after, encode before ++ encode after = bs ∧ (encode before).length = offset

/-- How many characters stand before that offset. -/
def position (bs : Bytes) (offset : Nat) : Nat := (decode (bs.take offset)).length

end Utf8

namespace Insertions

/-- The text that is listed first for that position. -/
def textAt (insertions : List (Nat × List Char)) (position : Nat) : List Char :=
  (insertions.lookup position).getD []

/-- One walk over characters, the first of which has that position: before each, and at the end, the text that
belongs there. -/
def insertFrom (insertions : List (Nat × List Char)) : Nat → List Char → List Char
  | position, [] => textAt insertions position
  | position, c :: rest => textAt insertions position ++ c :: insertFrom insertions (position + 1) rest

/-- All texts put in at once, each before the character at its position. -/
def insert (insertions : List (Nat × List Char)) (cs : List Char) : List Char := insertFrom insertions 0 cs

end Insertions

/-- The fix as an insertion of characters before a character. -/
def Fix.inText (source : Bytes) (f : Fix) : Nat × List Char := (Utf8.position source f.offset, f.text.toList)

/-! ### Bytes and characters before an offset -/

namespace Utf8

lemma position_encode (before after : List Char) :
    position (encode (before ++ after)) (encode before).length = before.length := by
  rw [position, encode_append, List.take_left, decode_encode]

/-- A boundary is the end of the characters before it, or lies before that end, or past the next character. It has
as many characters before it accordingly. -/
lemma Boundary.cases {before rest : List Char} {offset : Nat} (h : Boundary (encode (before ++ rest)) offset) :
    (offset = (encode before).length ∧ position (encode (before ++ rest)) offset = before.length) ∨
      (offset < (encode before).length ∧ position (encode (before ++ rest)) offset < before.length) ∨
      ∃ c more, rest = c :: more ∧ (encode (before ++ [c])).length ≤ offset ∧
        before.length < position (encode (before ++ rest)) offset := by
  obtain ⟨ahead, behind, hbytes, rfl⟩ := h
  have hsplit : ahead ++ behind = before ++ rest := encode_injective (by rw [encode_append, hbytes])
  rw [← hsplit, position_encode]
  rcases List.append_eq_append_iff.mp hsplit with ⟨between, rfl, -⟩ | ⟨between, rfl, rfl⟩
  · cases between with
    | nil =>
      rw [List.append_nil]
      exact Or.inl ⟨rfl, rfl⟩
    | cons c more => exact Or.inr (Or.inl ⟨length_encode_lt ahead c more, by simp⟩)
  · cases between with
    | nil =>
      rw [List.append_nil]
      exact Or.inl ⟨rfl, rfl⟩
    | cons c more =>
      refine Or.inr (Or.inr ⟨c, more ++ behind, rfl, ?_, by simp⟩)
      rw [List.append_cons before c more, encode_append (before ++ [c]) more, List.length_append]
      exact Nat.le_add_right _ _

lemma Boundary.le_length {bs : Bytes} {offset : Nat} (h : Boundary bs offset) : offset ≤ bs.length := by
  obtain ⟨before, after, rfl, rfl⟩ := h
  rw [List.length_append]
  exact Nat.le_add_right _ _

end Utf8

/-! ### The walk over bytes and the walk over characters -/

namespace Fix

open Utf8

variable {fixes : List Fix} {before rest : List Char}

lemma textAt_encode (hb : ∀ f ∈ fixes, Boundary (encode (before ++ rest)) f.offset) :
    textAt fixes (encode before).length =
      encode (Insertions.textAt (fixes.map (inText (encode (before ++ rest)))) before.length) := by
  induction fixes with
  | nil => rfl
  | cons f fixes ih =>
    obtain ⟨hf, hb⟩ := List.forall_mem_cons.mp hb
    have hsame : f.offset = (encode before).length ↔
        before.length = position (encode (before ++ rest)) f.offset := by
      rcases hf.cases with ⟨ho, hp⟩ | ⟨ho, hp⟩ | ⟨c, more, -, ho, hp⟩
      · omega
      · omega
      · have := length_encode_lt before c []
        omega
    rw [textAt_cons, ih hb, List.map_cons, Insertions.textAt, Insertions.textAt, inText, List.lookup_cons]
    by_cases hat : f.offset = (encode before).length
    · rw [if_pos hat, beq_iff_eq.mpr (hsame.mp hat)]
      rfl
    · rw [if_neg hat, beq_eq_false_iff_ne.mpr fun h => hat (hsame.mpr h)]

/-- Bytes between which no text goes stay together. -/
lemma spliceFrom_of_clear {xs : Bytes} (hne : xs ≠ []) (ys : Bytes) {pos : Nat}
    (h : ∀ f ∈ fixes, f.offset ≤ pos ∨ pos + xs.length ≤ f.offset) :
    spliceFrom fixes pos (xs ++ ys) = textAt fixes pos ++ xs ++ spliceFrom fixes (pos + xs.length) ys := by
  obtain ⟨b, xs, rfl⟩ := List.exists_cons_of_ne_nil hne
  have hcopy : weave fixes (pos + 1) xs = xs := by
    refine weave_of_clear fun f hf => ?_
    have := h f hf
    rw [List.length_cons] at this
    omega
  rw [spliceFrom_append, weave, hcopy]

/-- No text goes between the bytes of one character, so both walks go on from character to character. -/
lemma spliceFrom_encode (hb : ∀ f ∈ fixes, Boundary (encode (before ++ rest)) f.offset) :
    spliceFrom fixes (encode before).length (encode rest) =
      encode (Insertions.insertFrom (fixes.map (inText (encode (before ++ rest)))) before.length rest) := by
  -- the whole text stays the same while the walk goes on, so a character leaves `rest` and joins `before`
  induction rest generalizing before with
  | nil => exact textAt_encode hb
  | cons c rest ih =>
    have hnext : before ++ c :: rest = before ++ [c] ++ rest := List.append_cons before c rest
    have hclear : ∀ f ∈ fixes, f.offset ≤ (encode before).length ∨
        (encode before).length + (String.utf8EncodeChar c).length ≤ f.offset := by
      intro f hf
      rcases (hb f hf).cases with ⟨ho, -⟩ | ⟨ho, -⟩ | ⟨d, more, hd, ho, -⟩
      · omega
      · omega
      · rw [(List.cons.inj hd).1, ← length_encode_concat]
        exact Or.inr ho
    have hne : String.utf8EncodeChar c ≠ [] := by
      have := c.utf8Size_pos
      rw [← List.length_pos_iff, String.length_utf8EncodeChar]
      exact this
    have ih := ih (hnext ▸ hb)
    rw [← hnext, length_encode_concat, List.length_append, List.length_singleton] at ih
    let insertions := fixes.map (inText (encode (before ++ c :: rest)))
    calc spliceFrom fixes (encode before).length (encode (c :: rest))
        = textAt fixes (encode before).length ++ String.utf8EncodeChar c ++
            spliceFrom fixes ((encode before).length + (String.utf8EncodeChar c).length) (encode rest) :=
          spliceFrom_of_clear hne _ hclear
      _ = encode (Insertions.textAt insertions before.length) ++ String.utf8EncodeChar c ++
            encode (Insertions.insertFrom insertions (before.length + 1) rest) := by rw [textAt_encode hb, ih]
      _ = encode (Insertions.insertFrom insertions before.length (c :: rest)) := by
          rw [Insertions.insertFrom, encode_append, encode_cons, List.append_assoc]

/-- Where the source is encoded text and every offset is a boundary in it, applying fixes is putting their texts
into that text, each before the character at its offset. The result is encoded text again. Of two texts for one
place only the first goes in. -/
theorem decode_applyAll (source : Bytes) (fixes : List Fix) (hsource : Valid source)
    (hb : ∀ f ∈ fixes, Boundary source f.offset) :
    ∃ edited, applyAll source fixes = .ok edited ∧ Valid edited.source ∧
      decode edited.source = Insertions.insert (fixes.map (inText source)) (decode source) := by
  obtain ⟨cs, rfl⟩ := hsource
  have hsplice : splice fixes (encode cs) = encode (Insertions.insert (fixes.map (inText (encode cs))) cs) :=
    @spliceFrom_encode fixes [] cs hb
  refine ⟨_, applyAll_eq fun f hf => (hb f hf).le_length, ⟨_, hsplice.symm⟩, ?_⟩
  rw [hsplice, decode_encode, decode_encode]

/-- Five fixes in a text of characters of two, four and one bytes. Two are at its end, of which the second does not
count. -/
theorem decode_applyAll_multibyte :
    let fix (offset : Nat) (text : String) : Fix := ⟨offset, text, .after 0, .after offset⟩
    let source := encode ['é', '😀', 'a']
    let fixes := [fix 7 "ü", fix 2 "x€", fix 7 "no", fix 0 "", fix 6 "😀"]
    (Valid source ∧ ∀ f ∈ fixes, Boundary source f.offset) ∧
      ∃ edited, applyAll source fixes = .ok edited ∧ Valid edited.source ∧
        decode edited.source = ['é', 'x', '€', '😀', '😀', 'a', 'ü'] := by
  intro fix source fixes
  have hsource : Valid source := ⟨_, rfl⟩
  have hboundary (before after : List Char) (h : before ++ after = ['é', '😀', 'a']) :
      Boundary source (encode before).length := ⟨before, after, by rw [← encode_append, h], rfl⟩
  have hb : ∀ f ∈ fixes, Boundary source f.offset := by
    simp only [fixes, List.forall_mem_cons]
    exact ⟨hboundary ['é', '😀', 'a'] [] rfl, hboundary ['é'] ['😀', 'a'] rfl, hboundary ['é', '😀', 'a'] [] rfl,
      hboundary [] ['é', '😀', 'a'] rfl, hboundary ['é', '😀'] ['a'] rfl, nofun⟩
  have h0 : position source 0 = 0 := position_encode [] ['é', '😀', 'a']
  have h2 : position source 2 = 1 := position_encode ['é'] ['😀', 'a']
  have h6 : position source 6 = 2 := position_encode ['é', '😀'] ['a']
  have h7 : position source 7 = 3 := position_encode ['é', '😀', 'a'] []
  have hinsertions : fixes.map (inText source) =
      [(3, ['ü']), (1, ['x', '€']), (3, ['n', 'o']), (0, []), (2, ['😀'])] := by
    simp only [fixes, fix, List.map_cons, List.map_nil, inText, h0, h2, h6, h7]
    rfl
  obtain ⟨edited, hok, hvalid, hdecode⟩ := decode_applyAll source fixes hsource hb
  refine ⟨⟨hsource, hb⟩, edited, hok, hvalid, ?_⟩
  rw [hdecode, hinsertions, decode_encode]
  rfl

end Fix

end AsyncActions
