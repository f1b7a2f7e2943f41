import AsyncActions.Proofs.EncodedText
import AsyncActions.Proofs.Flagging
import AsyncActions.Proofs.SplicedSource
import AsyncActions.Proofs.StringValue

/-!
# Writing literals and reading them back

There are many ways to write a text between quotes. `StringLiteral.Written` are those that take its characters one
by one, each as itself or by any of its escapes. Whichever is taken, the literal is read as the text, wherever it
stands in a file.
-/

namespace AsyncActions

namespace StringLiteral

open Escape (lit backslash)

/-- The letters that stand for a control character after a backslash, and that character. -/
def controls : List (CodePoint × CodePoint) :=
  [(lit 'b', lit '\x08'), (lit 't', lit '\t'), (lit 'n', lit '\n'), (lit 'v', lit '\x0b'), (lit 'f', lit '\x0c'),
    (lit 'r', lit '\r'), (lit '0', lit '\x00')]

/-- The characters that do not stand for themselves after a backslash. -/
def changed : List CodePoint := controls.map Prod.fst ++ [lit 'u', lit 'x'] ++ lineTerminators

/-- A way to write one character between these quotes. -/
inductive Writing (quote c : CodePoint) : Text → Prop
  | plain : c ≠ backslash → c ≠ quote → Writing quote c [c]
  | hex {digits : Text} :
      HexDigits digits c.val → digits.length = 2 → Writing quote c (backslash :: lit 'x' :: digits)
  | unicode {digits : Text} :
      HexDigits digits c.val → digits.length = 4 → Writing quote c (backslash :: lit 'u' :: digits)
  | braced {digits : Text} :
      HexDigits digits c.val → Writing quote c (backslash :: lit 'u' :: lit '\x7b' :: digits ++ [lit '\x7d'])
  | control {letter : CodePoint} : (letter, c) ∈ controls → Writing quote c [backslash, letter]
  | escaped : c ∉ changed → Writing quote c [backslash, c]

/-- A way to write a text between these quotes, character by character. -/
inductive Written (quote : CodePoint) : (raw value : Text) → Prop
  | nil : Written quote [] []
  | character {c : CodePoint} {text raw value : Text} :
      Writing quote c text → Written quote raw value → Written quote (text ++ raw) (c :: value)

lemma read_of_control {letter c : CodePoint} (h : (letter, c) ∈ controls) (after : Text) :
    Escape.read letter after = ([c], after) := by
  have htable : ∀ p ∈ controls, p.1 ≠ lit 'u' ∧ p.1 ≠ lit 'x' ∧ p.1 ≠ lit '\r' ∧
      Escape.single p.1 = [p.2] := by decide
  obtain ⟨hu, hx, hr, hsingle⟩ := htable _ h
  rw [read_of_ne hu hx hr, hsingle]

lemma read_of_not_changed {c : CodePoint} (h : c ∉ changed) (after : Text) :
    Escape.read c after = ([c], after) := by
  have hne : ∀ d ∈ changed, c ≠ d := fun d hd he => h (he ▸ hd)
  have hsingle : Escape.single c = [c] := by
    simp only [changed, controls, lineTerminators, List.map_cons, List.map_nil, List.cons_append, List.nil_append,
      List.forall_mem_cons] at hne
    simp [Escape.single, hne]
  rw [read_of_ne (hne _ (by decide)) (hne _ (by decide)) (hne _ (by decide)), hsingle]

/-- However a character is written, it is read back, and what follows it is read on its own. -/
lemma Writing.cook {quote c : CodePoint} {text : Text} (h : Writing quote c text) (after : Text) :
    AsyncActions.cook (text ++ after) = c :: AsyncActions.cook after := by
  cases h with
  | plain hc _ => exact cook_cons_of_ne hc after
  | hex hdigits hlength => exact hdigits.cook_hex hlength after
  | unicode hdigits hlength => exact hdigits.cook_unicode hlength after
  | braced hdigits => exact hdigits.cook_braced after
  | control hletter =>
    rw [List.cons_append, List.cons_append, cook_backslash, List.nil_append, read_of_control hletter]
    rfl
  | escaped hc =>
    rw [List.cons_append, List.cons_append, cook_backslash, List.nil_append, read_of_not_changed hc]
    rfl

lemma Written.cook {quote : CodePoint} {raw value : Text} (h : Written quote raw value) :
    AsyncActions.cook raw = value := by
  induction h with
  | nil => exact cook_of_plain nofun
  | character hwriting _ ih => rw [hwriting.cook, ih]

end StringLiteral

namespace Node

open StringLiteral
open Escape (lit backslash)

/-- The node covers these bytes, which stand after those others. -/
def Covers (n : Node) (before bytes : Bytes) : Prop :=
  n.startByte = before.length ∧ n.endByte = (before.length + bytes.length : Nat)

lemma text_of_covers {n : Node} {before : Bytes} {cs : List Char} (h : n.Covers before (Utf8.encode cs))
    (after : Bytes) : n.text (before ++ Utf8.encode cs ++ after) = cs := by
  obtain ⟨hstart, hend⟩ := h
  have hlength : (before ++ Utf8.encode cs).length = before.length + (Utf8.encode cs).length := List.length_append
  have hslice : Bytes.slice (before ++ Utf8.encode cs ++ after) n.startByte n.endByte = Utf8.encode cs := by
    rw [hstart, hend, ← hlength, Bytes.slice_of_le (List.prefix_append _ _).length_le
      (List.prefix_append _ _).length_le, List.take_left, List.drop_left]
  rw [text, hslice, Utf8.decode_encode]

lemma literalValue?_eq_none_of {n : Node} {source : Bytes} (h : ∀ value, ¬ n.Spells source value) :
    n.literalValue? source = none :=
  Option.eq_none_iff_forall_ne_some.mpr fun value hvalue => h value (literalValue?_eq_some_iff.mp hvalue)

/-- A text that is written between quotes, in whatever way, is the value of that literal, and the bytes around it do
not matter. A template with a substitution has no value, nor has what ends in another quote than it starts with. -/
theorem literalValue?_written :
    (∀ (before after : Bytes) (n : Node) (quote : Char) (raw s : List Char), n.IsLiteral → quote ∈ quotes →
        Written (lit quote) (raw.map CodePoint.ofChar) (s.map CodePoint.ofChar) →
        n.Covers before (Utf8.encode (quote :: raw ++ [quote])) →
          n.literalValue? (before ++ Utf8.encode (quote :: raw ++ [quote]) ++ after) =
            some (s.map CodePoint.ofChar)) ∧
      (∀ (source : Bytes) (n : Node), n.type = "template_string" →
        (∃ c ∈ n.children, c.named = true ∧ c.type = "template_substitution") → n.literalValue? source = none) ∧
      ∀ (before after : Bytes) (n : Node) (first last : Char) (raw : List Char), first ≠ last →
        n.Covers before (Utf8.encode (first :: raw ++ [last])) →
          n.literalValue? (before ++ Utf8.encode (first :: raw ++ [last]) ++ after) = none := by
  refine ⟨?_, ?_, ?_⟩
  · intro before after n quote raw s hliteral hquote hwritten hcovers
    exact literalValue?_eq_some_iff.mpr ⟨hliteral, quote, raw, hquote, text_of_covers hcovers after, hwritten.cook⟩
  · intro source n htype hsubstitution
    refine literalValue?_eq_none_of fun value hspells => ?_
    rcases hspells.literal with hstring | ⟨-, hnone⟩
    · rw [htype] at hstring
      exact absurd hstring (by decide)
    · exact hnone hsubstitution
  · intro before after n first last raw hne hcovers
    refine literalValue?_eq_none_of fun value hspells => ?_
    obtain ⟨quote, body, -, htext, -⟩ := hspells.quoted
    rw [text_of_covers hcovers after] at htext
    obtain ⟨hstart, hend⟩ := List.append_inj' htext rfl
    exact hne ((List.cons.inj hstart).1.trans (List.cons.inj hend).1.symm)

/-- A text with each kind of escape: a zero before a digit, and a quote next to the one that closes. -/
def escapedText : List Char := "\\x41é\\01\\u\x7b0001F600\x7d\\u20aC\\n\\q\\\x27".toList

lemma written_escapedText : Written (lit '\x27') (escapedText.map CodePoint.ofChar)
    (['A', 'é', '\x00', '1', '😀', '€', '\n', 'q', '\x27'].map CodePoint.ofChar) := by
  have hquote : Written (lit '\x27') ([backslash, lit '\x27'] ++ []) [lit '\x27'] :=
    .character (.escaped (by decide)) .nil
  have hself : Written (lit '\x27') ([backslash, lit 'q'] ++ _) (lit 'q' :: _) :=
    .character (.escaped (by decide)) hquote
  have hline : Written (lit '\x27') ([backslash, lit 'n'] ++ _) (lit '\n' :: _) :=
    .character (.control (by decide)) hself
  have heuro : Written (lit '\x27') ((backslash :: lit 'u' :: Text.ofString "20aC") ++ _) (lit '€' :: _) :=
    .character (.unicode (hexDigits_iff.mpr (by decide)) rfl) hline
  have hpicture : Written (lit '\x27')
      ((backslash :: lit 'u' :: lit '\x7b' :: Text.ofString "0001F600" ++ [lit '\x7d']) ++ _) (lit '😀' :: _) :=
    .character (.braced (hexDigits_iff.mpr (by decide))) heuro
  have hdigit : Written (lit '\x27') ([lit '1'] ++ _) (lit '1' :: _) :=
    .character (.plain (by decide) (by decide)) hpicture
  have hzero : Written (lit '\x27') ([backslash, lit '0'] ++ _) (lit '\x00' :: _) :=
    .character (.control (by decide)) hdigit
  have haccent : Written (lit '\x27') ([lit 'é'] ++ _) (lit 'é' :: _) :=
    .character (.plain (by decide) (by decide)) hzero
  have hfirst : Written (lit '\x27') ((backslash :: lit 'x' :: Text.ofString "41") ++ _) (lit 'A' :: _) :=
    .character (.hex (hexDigits_iff.mpr (by decide)) rfl) haccent
  exact hfirst

/-- The text between bytes that are no text themselves. As a template with a substitution, or with another quote at
its end, it has no value. -/
theorem literalValue?_written_escapedText :
    let s := ['A', 'é', '\x00', '1', '😀', '€', '\n', 'q', '\x27']
    let extent : Extent := ⟨2, 37, ⟨0, 2⟩, ⟨0, 37⟩⟩
    let n : Node := .mk "string" true none extent []
    let template : Node := .mk "template_string" true none extent [.mk "template_substitution" true none extent []]
    let literal := Utf8.encode ('\x27' :: escapedText ++ ['\x27'])
    let broken := Utf8.encode ('\x27' :: escapedText ++ ['\x22'])
    (n.IsLiteral ∧ n.Covers [0xFF, 0x5C] literal ∧ n.Covers [0xFF, 0x5C] broken) ∧
      n.literalValue? ([0xFF, 0x5C] ++ literal ++ [0x27]) = some (s.map CodePoint.ofChar) ∧
      template.literalValue? ([0xFF, 0x5C] ++ literal ++ [0x27]) = none ∧
      n.literalValue? ([0xFF, 0x5C] ++ broken ++ [0x27]) = none := by
  intro s extent n template literal broken
  have hliteral : n.IsLiteral := Or.inl rfl
  have hcovers : n.Covers [0xFF, 0x5C] literal := ⟨rfl, by decide⟩
  have hbroken : n.Covers [0xFF, 0x5C] broken := ⟨rfl, by decide⟩
  obtain ⟨hread, htemplate, hquotes⟩ := literalValue?_written
  exact ⟨⟨hliteral, hcovers, hbroken⟩,
    hread _ _ n _ _ s hliteral (by decide) written_escapedText hcovers,
    htemplate _ template rfl ⟨_, List.mem_cons_self, rfl, rfl⟩,
    hquotes _ _ n _ _ _ (by decide) hbroken⟩

end Node

end AsyncActions
