import AsyncActions.Proofs.EncodedText
import AsyncActions.Proofs.Flagging
import AsyncActions.Proofs.SplicedSource
import AsyncActions.Proofs.StringValue
import Mathlib.Data.List.Chain

/-!
# How the directive can be written

A literal is the directive if its body spells the ten characters one after the other, each as itself or by an
escape, with lines continued anywhere between them. `StringLiteral.Spelled` is that language, and nothing else
cooks to the directive. Since no spelling has a replacement character, bytes that are no text are no directive.
-/

namespace AsyncActions

namespace StringLiteral

open Escape (lit backslash)

/-- What may stand after a backslash that continues a line. -/
def lineBreaks : List Text := [lit '\r', lit '\n'] :: lineTerminators.map fun c => [c]

/-- The characters of the directive that mean the same after a backslash. -/
def selfEscapes : List CodePoint := [lit 'u', lit 's', lit 'e', lit ' ']

/-- A way to write one character of the directive. -/
inductive Spelling (c : CodePoint) : Text → Prop
  | plain : Spelling c [c]
  | escaped : c ∈ selfEscapes → Spelling c [backslash, c]
  | hex {digits : Text} :
      HexDigits digits c.val → digits.length = 2 → Spelling c (backslash :: lit 'x' :: digits)
  | unicode {digits : Text} :
      HexDigits digits c.val → digits.length = 4 → Spelling c (backslash :: lit 'u' :: digits)
  | braced {digits : Text} :
      HexDigits digits c.val → Spelling c (backslash :: lit 'u' :: lit '\x7b' :: digits ++ [lit '\x7d'])

/-- The text spells the characters one after the other, and continues lines before, between and after them. -/
inductive Spelled : (raw value : Text) → Prop
  | nil : Spelled [] []
  | continuation {text raw value : Text} :
      text ∈ lineBreaks → Spelled raw value → Spelled (backslash :: text ++ raw) value
  | character {c : CodePoint} {text raw value : Text} :
      Spelling c text → Spelled raw value → Spelled (text ++ raw) (c :: value)

/-- The characters of the directive. -/
def letters : Text := Text.ofString directive

/-- After an escaped `u` nothing follows that would make it the start of a number. -/
def Separate (c d : CodePoint) : Prop := c = lit 'u' → d ≠ lit '\x7b' ∧ d.hexDigit? = none

instance (c d : CodePoint) : Decidable (Separate c d) := inferInstanceAs (Decidable (_ → _))

lemma exists_hexDigits_of_hexRun? {n v : Nat} {cs rest : Text} (hn : n ≠ 0)
    (h : Escape.hexRun? n cs = some (v, rest)) :
    ∃ digits, cs = digits ++ rest ∧ digits.length = n ∧ HexDigits digits v := by
  unfold Escape.hexRun? at h
  split at h
  · cases h
  · next hlen =>
    obtain ⟨w, hw, hr⟩ := Option.map_eq_some_iff.mp h
    cases hr
    have hlength : (cs.take n).length = n := by rw [List.length_take]; omega
    refine ⟨cs.take n, (List.take_append_drop n cs).symm, hlength, hexDigits_iff.mpr ⟨?_, hw⟩⟩
    intro hnil
    rw [hnil] at hlength
    exact hn hlength.symm

lemma hexDigits_of_braced? {cs digits rest : Text} {v : Nat}
    (h : Escape.braced? cs = some (digits, v, rest)) :
    cs = digits ++ lit '\x7d' :: rest ∧ HexDigits digits v := by
  have hsplit := (List.takeWhile_append_dropWhile (p := fun c : CodePoint => c.hexDigit?.isSome) (l := cs)).symm
  simp only [Escape.braced?] at h
  split at h
  · next close rest' hdrop =>
    split at h
    · next hclose =>
      obtain ⟨hbrace, hne⟩ := hclose
      obtain ⟨w, hw, hr⟩ := Option.map_eq_some_iff.mp h
      cases hr
      rw [hdrop, hbrace] at hsplit
      exact ⟨hsplit, hexDigits_iff.mpr ⟨hne, hw⟩⟩
    · cases h
  · cases h

/-- After a backslash and `u` there is a number that names a character, or one that names none, or no number. -/
lemma unicode_cases (rest : Text) :
    (∃ c text, Spelling c (backslash :: lit 'u' :: text) ∧ rest = text ++ (Escape.unicode rest).2 ∧
        (Escape.unicode rest).1 = [c]) ∨
      (∃ more, (Escape.unicode rest).1 = backslash :: more) ∨
      Escape.unicode rest = ([lit 'u'], rest) := by
  have plain {read : Text × Text}
      (hnumber : ∀ v rest', Escape.hexRun? 4 rest = some (v, rest') → read = (Escape.named v [], rest'))
      (hletter : Escape.hexRun? 4 rest = none → read = ([lit 'u'], rest)) :
      (∃ c text, Spelling c (backslash :: lit 'u' :: text) ∧ rest = text ++ read.2 ∧ read.1 = [c]) ∨
        (∃ more, read.1 = backslash :: more) ∨ read = ([lit 'u'], rest) := by
    cases hrun : Escape.hexRun? 4 rest with
    | none => exact Or.inr (Or.inr (hletter hrun))
    | some found =>
      obtain ⟨v, rest'⟩ := found
      obtain ⟨digits, hrest, hlength, hdigits⟩ := exists_hexDigits_of_hexRun? (by decide) hrun
      have hv := hdigits.lt
      rw [hlength] at hv
      let c : CodePoint := ⟨v, by omega⟩
      rw [hnumber v rest' hrun]
      exact Or.inl ⟨c, digits, .unicode hdigits hlength, hrest, named_val c []⟩
  unfold Escape.unicode
  simp only
  split
  · next brace rest' =>
    split
    · next hbrace =>
      split
      · next digits v rest'' hbraced =>
        obtain ⟨hrest, hdigits⟩ := hexDigits_of_braced? hbraced
        by_cases hv : v < 0x110000
        · let c : CodePoint := ⟨v, hv⟩
          refine Or.inl ⟨c, lit '\x7b' :: digits ++ [lit '\x7d'], .braced hdigits, ?_, named_val c _⟩
          simp [hbrace, hrest]
        · refine Or.inr (Or.inl ⟨[lit 'u', brace] ++ digits ++ [lit '\x7d'], ?_⟩)
          simp [Escape.named, CodePoint.ofNat?, hv]
      · exact plain (fun v rest' hrun => by rw [hrun]) (fun hrun => by rw [hrun])
    · exact plain (fun v rest' hrun => by rw [hrun]) (fun hrun => by rw [hrun])
  · exact plain (fun v rest' hrun => by rw [hrun]) (fun hrun => by rw [hrun])

/-- After a backslash there is the end of a line, or a number that names a character, or one that names none,
or a character on its own. -/
lemma read_cases (d : CodePoint) (rest : Text) :
    (∃ text ∈ lineBreaks, d :: rest = text ++ (Escape.read d rest).2 ∧ (Escape.read d rest).1 = []) ∨
      (∃ c text, Spelling c (backslash :: text) ∧ d :: rest = text ++ (Escape.read d rest).2 ∧
        (Escape.read d rest).1 = [c]) ∨
      (∃ more, (Escape.read d rest).1 = backslash :: more) ∨
      Escape.read d rest = (Escape.single d, rest) ∧ d ∉ lineTerminators := by
  unfold Escape.read
  split
  · next hu =>
    rcases unicode_cases rest with ⟨c, text, hspelling, hrest, hread⟩ | hmore | hplain
    · exact Or.inr (Or.inl ⟨c, lit 'u' :: text, hspelling, by rw [hu, List.cons_append, ← hrest], hread⟩)
    · exact Or.inr (Or.inr (Or.inl hmore))
    · refine Or.inr (Or.inr (Or.inr ⟨?_, ?_⟩))
      · rw [hplain, hu]
        rfl
      · rw [hu]
        decide
  · split
    · next hx =>
      split
      · next v rest' hrun =>
        obtain ⟨digits, hrest, hlength, hdigits⟩ := exists_hexDigits_of_hexRun? (by decide) hrun
        have hv := hdigits.lt
        rw [hlength] at hv
        let c : CodePoint := ⟨v, by omega⟩
        exact Or.inr (Or.inl ⟨c, lit 'x' :: digits, .hex hdigits hlength, by rw [hx, hrest]; rfl, named_val c []⟩)
      · refine Or.inr (Or.inr (Or.inr ⟨?_, ?_⟩))
        · rw [hx]
          rfl
        · rw [hx]
          decide
    · split
      · next hcrlf =>
        obtain ⟨hr, hn⟩ := hcrlf
        refine Or.inl ⟨[lit '\r', lit '\n'], by decide, ?_, rfl⟩
        obtain ⟨rest', rfl⟩ := List.head?_eq_some_iff.mp hn
        rw [hr]
        rfl
      · by_cases hbreak : d ∈ lineTerminators
        · have hempty : ∀ c ∈ lineTerminators, Escape.single c = [] := by decide
          exact Or.inl ⟨[d], List.mem_cons_of_mem _ (List.mem_map_of_mem hbreak), rfl, hempty d hbreak⟩
        · exact Or.inr (Or.inr (Or.inr ⟨rfl, hbreak⟩))

/-! ### What cooks to letters of the directive -/

/-- A character that is none of the escapes stands for itself. -/
lemma single_eq_or (c : CodePoint) : Escape.single c = [c] ∨ c ∈ lineTerminators ∨
    ∃ control, Escape.single c = [control] ∧ control.val < 0x20 := by
  unfold Escape.single
  split_ifs
  all_goals simp_all [lineTerminators, lit, CodePoint.ofChar]

lemma spelled_of_cook {raw : Text} (h : ∀ c ∈ cook raw, c ∈ letters) : Spelled raw (cook raw) := by
  have hletter : ∀ c ∈ letters, 0x20 ≤ c.val ∧ c ≠ backslash ∧ (Escape.single c = [c] → c ∈ selfEscapes) := by
    decide
  fun_induction cook raw with
  | case1 => exact .nil
  | case2 => exact absurd rfl (hletter backslash (h _ List.mem_cons_self)).2.1
  | case3 d rest ih =>
    obtain ⟨hshown, hrest⟩ := List.forall_mem_append.mp h
    have ih := ih hrest
    rcases read_cases d rest with ⟨text, hbreak, hsplit, hread⟩ | ⟨c, text, hspelling, hsplit, hread⟩ |
      ⟨more, hread⟩ | ⟨hread, hbreak⟩
    · rw [hread, List.nil_append, hsplit]
      exact .continuation hbreak ih
    · rw [hread, hsplit]
      exact .character hspelling ih
    · rw [hread] at hshown
      exact absurd rfl (hletter backslash (hshown _ List.mem_cons_self)).2.1
    · rw [hread] at hshown ih ⊢
      rcases single_eq_or d with hself | hmem | ⟨control, hcontrol, hlow⟩
      · rw [hself] at hshown ⊢
        have hd := hletter d (hshown d List.mem_cons_self)
        exact .character (.escaped (hd.2.2 hself)) ih
      · exact absurd hmem hbreak
      · rw [hcontrol] at hshown
        have := (hletter control (hshown control List.mem_cons_self)).1
        omega
  | case4 c rest hc ih =>
    obtain ⟨-, hrest⟩ := List.forall_mem_cons.mp h
    exact .character .plain (ih hrest)

lemma Spelled.head {raw value : Text} (h : Spelled raw value) :
    ∀ c ∈ raw.head?, c = backslash ∨ c ∈ value.head? := by
  cases h with
  | nil => nofun
  | continuation => exact fun c hc => Or.inl (Option.some.inj hc).symm
  | character hspelling _ =>
    cases hspelling with
    | plain => exact fun c hc => Or.inr hc
    | escaped => exact fun c hc => Or.inl (Option.some.inj hc).symm
    | hex => exact fun c hc => Or.inl (Option.some.inj hc).symm
    | unicode => exact fun c hc => Or.inl (Option.some.inj hc).symm
    | braced => exact fun c hc => Or.inl (Option.some.inj hc).symm

lemma lineEnd_of_mem {text after : Text} (h : text ∈ lineBreaks) (hafter : after.head? ≠ some (lit '\n')) :
    LineEnd text after := by
  simp only [lineBreaks, lineTerminators, List.map_cons, List.map_nil, List.mem_cons, List.not_mem_nil,
    or_false] at h
  rcases h with rfl | rfl | rfl | rfl | rfl
  · exact .both
  · exact .lineFeed
  · exact .carriageReturn hafter
  · exact .lineSeparator
  · exact .paragraphSeparator

lemma unicode_of_none {after : Text} (hrun : Escape.hexRun? 4 after = none)
    (hbraced : ∀ more, after = lit '\x7b' :: more → Escape.braced? more = none) :
    Escape.unicode after = ([lit 'u'], after) := by
  cases after with
  | nil => rfl
  | cons d after =>
    by_cases hd : d = lit '\x7b'
    · subst hd
      simp [Escape.unicode, hrun, hbraced after rfl]
    · simp [Escape.unicode, hrun, hd]

/-- A `u` before something that is no number is only a letter. -/
lemma unicode_of_separate {after : Text}
    (h : ∀ d ∈ after.head?, d ≠ lit '\x7b' ∧ d.hexDigit? = none) :
    Escape.unicode after = ([lit 'u'], after) := by
  cases after with
  | nil => rfl
  | cons d after =>
    obtain ⟨hbrace, hdigit⟩ := h d rfl
    refine unicode_of_none ?_ fun more hmore => absurd (List.cons.inj hmore).1 hbrace
    unfold Escape.hexRun?
    split
    · rfl
    · rw [List.take_succ_cons, Escape.hexValue?, hdigit]
      rfl

/-- A backslash before a letter of the directive changes nothing, unless the letter is `u` and a number follows. -/
lemma read_of_selfEscape {c : CodePoint} {after : Text} (hc : c ∈ selfEscapes)
    (hafter : c = lit 'u' → ∀ d ∈ after.head?, d ≠ lit '\x7b' ∧ d.hexDigit? = none) :
    Escape.read c after = ([c], after) := by
  by_cases hu : c = lit 'u'
  · rw [Escape.read, if_pos hu, unicode_of_separate (hafter hu), hu]
  · have htable : ∀ c ∈ selfEscapes, c ≠ lit 'x' ∧ c ≠ lit '\r' ∧ Escape.single c = [c] := by decide
    obtain ⟨hx, hr, hsingle⟩ := htable c hc
    rw [read_of_ne hu hx hr, hsingle]

lemma Spelling.cook {c : CodePoint} {text after : Text} (h : Spelling c text) (hc : c ≠ backslash)
    (hafter : c = lit 'u' → ∀ d ∈ after.head?, d ≠ lit '\x7b' ∧ d.hexDigit? = none) :
    AsyncActions.cook (text ++ after) = c :: AsyncActions.cook after := by
  cases h with
  | plain => exact cook_cons_of_ne hc after
  | escaped hself =>
    rw [List.cons_append, List.cons_append, cook_backslash, List.nil_append, read_of_selfEscape hself hafter]
    rfl
  | hex hdigits hlength => exact hdigits.cook_hex hlength after
  | unicode hdigits hlength => exact hdigits.cook_unicode hlength after
  | braced hdigits => exact hdigits.cook_braced after

lemma cook_of_spelled {raw value : Text} (h : Spelled raw value) (hvalue : ∀ c ∈ value, c ∈ letters)
    (hseparate : value.IsChain Separate) : cook raw = value := by
  have hletter : ∀ c ∈ letters, c ≠ backslash ∧ c ≠ lit '\n' := by decide
  induction h with
  | nil => exact cook_of_plain nofun
  | @continuation text raw value hbreak hraw ih =>
    have hafter : raw.head? ≠ some (lit '\n') := by
      intro hhead
      rcases hraw.head _ hhead with hslash | hmem
      · exact absurd hslash (by decide)
      · exact (hletter _ (hvalue _ (List.mem_of_mem_head? hmem))).2 rfl
    obtain ⟨c, rest, rfl, hread⟩ := (lineEnd_of_mem hbreak hafter).read
    rw [List.cons_append, List.cons_append, cook_backslash, hread, List.nil_append, ih hvalue hseparate]
  | @character c text raw value hspelling hraw ih =>
    obtain ⟨hc, hvalue⟩ := List.forall_mem_cons.mp hvalue
    obtain ⟨hnext, hseparate⟩ := List.isChain_cons.mp hseparate
    rw [hspelling.cook (hletter c hc).1, ih hvalue hseparate]
    rintro hu d hd
    rcases hraw.head d hd with rfl | hmem
    · decide
    · exact hnext d hmem hu

/-- Nothing but the spellings of the directive is read as the directive. -/
lemma cook_eq_letters_iff {raw : Text} : cook raw = letters ↔ Spelled raw letters := by
  constructor
  · intro h
    rw [← h]
    exact spelled_of_cook fun c hc => h ▸ hc
  · intro h
    exact cook_of_spelled h (fun _ hc => hc) (by decide)

/-! ### Bytes that are no text -/

lemma HexDigits.le {digits : Text} {v : Nat} (h : HexDigits digits v) : ∀ d ∈ digits, d.val ≤ 0x2029 := by
  have hdigit {c : CodePoint} {v : Nat} (hc : HexDigit c v) : c.val ≤ 0x2029 := by cases hc <;> omega
  induction h with
  | one hc => simpa using hdigit hc
  | more _ hc ih => exact List.forall_mem_append.mpr ⟨ih, by simpa using hdigit hc⟩

/-- No way to write a letter of the directive needs a code point beyond the line separators. -/
lemma Spelling.le {c : CodePoint} {text : Text} (h : Spelling c text) (hc : c.val ≤ 0x2029) :
    ∀ d ∈ text, d.val ≤ 0x2029 := by
  have hmark : backslash.val ≤ 0x2029 ∧ (lit 'x').val ≤ 0x2029 ∧ (lit 'u').val ≤ 0x2029 ∧
      (lit '\x7b').val ≤ 0x2029 ∧ (lit '\x7d').val ≤ 0x2029 := by decide
  obtain ⟨hslash, hx, hu, hopen, hclose⟩ := hmark
  cases h with
  | plain => simpa using hc
  | escaped => simp [hslash, hc]
  | hex hdigits => simpa [hslash, hx] using hdigits.le
  | unicode hdigits => simpa [hslash, hu] using hdigits.le
  | braced hdigits => simpa [hslash, hu, hopen, hclose, or_imp, forall_and] using hdigits.le

lemma Spelled.le {raw value : Text} (h : Spelled raw value) (hvalue : ∀ c ∈ value, c.val ≤ 0x2029) :
    ∀ d ∈ raw, d.val ≤ 0x2029 := by
  induction h with
  | nil => nofun
  | continuation hbreak _ ih =>
    have hall : ∀ text ∈ lineBreaks, ∀ d ∈ backslash :: text, d.val ≤ 0x2029 := by decide
    exact List.forall_mem_append.mpr ⟨hall _ hbreak, ih hvalue⟩
  | character hspelling _ ih =>
    obtain ⟨hc, hvalue⟩ := List.forall_mem_cons.mp hvalue
    exact List.forall_mem_append.mpr ⟨hspelling.le hc, ih hvalue⟩

end StringLiteral

namespace Node

open StringLiteral
open Escape (lit backslash)

/-- A literal in quotes whose body spells the directive is made of bytes that are text. -/
lemma valid_of_spelled {source : Bytes} {n : Node} {quote : Char} {body : List Char}
    (hquote : quote ∈ quotes) (htext : n.text source = quote :: body ++ [quote])
    (hbody : Spelled (body.map CodePoint.ofChar) letters) :
    Utf8.Valid (source.slice n.startByte n.endByte) := by
  have hletters : ∀ c ∈ letters, c.val ≤ 0x2029 := by decide
  have hquotes : ∀ q ∈ quotes, q ≠ Utf8.replacement := fun q hq => by
    rcases mem_quotes.mp hq with rfl | rfl | rfl <;> decide
  refine Utf8.valid_of_not_mem_decode fun hmem => ?_
  change Utf8.replacement ∈ n.text source at hmem
  rw [htext] at hmem
  rcases List.mem_append.mp hmem with hmem | hmem
  · rcases List.mem_cons.mp hmem with h | hmem
    · exact hquotes quote hquote h.symm
    · have hle := hbody.le hletters _ (List.mem_map_of_mem hmem)
      exact absurd hle (by decide)
  · exact hquotes quote hquote (List.mem_singleton.mp hmem).symm

/-- A text is read as the directive exactly if it spells it. So a literal is the directive exactly if a spelling
stands between its quotes, and never if its bytes are no text. -/
theorem literalValue?_eq_directive_iff :
    (∀ raw, cook raw = letters ↔ Spelled raw letters) ∧
      ∀ (source : Bytes) (n : Node), n.IsLiteral →
        (n.literalValue? source = some letters ↔
          ∃ quote body, quote ∈ quotes ∧ n.text source = quote :: body ++ [quote] ∧
            Spelled (body.map CodePoint.ofChar) letters) ∧
        (¬ Utf8.Valid (source.slice n.startByte n.endByte) → n.literalValue? source ≠ some letters) := by
  refine ⟨fun _ => cook_eq_letters_iff, fun source n hliteral => ?_⟩
  have hiff : n.literalValue? source = some letters ↔
      ∃ quote body, quote ∈ quotes ∧ n.text source = quote :: body ++ [quote] ∧
        Spelled (body.map CodePoint.ofChar) letters := by
    rw [literalValue?_eq_some_iff]
    constructor
    · rintro ⟨-, quote, body, hquote, htext, hcook⟩
      exact ⟨quote, body, hquote, htext, cook_eq_letters_iff.mp hcook⟩
    · rintro ⟨quote, body, hquote, htext, hspelled⟩
      exact ⟨hliteral, quote, body, hquote, htext, cook_eq_letters_iff.mpr hspelled⟩
  refine ⟨hiff, fun hinvalid hvalue => ?_⟩
  obtain ⟨quote, body, hquote, htext, hspelled⟩ := hiff.mp hvalue
  exact hinvalid (valid_of_spelled hquote htext hspelled)

/-- The directive with an escape of each kind and a line that goes on. -/
def escapedDirective : List Char := "\\us\\x65\\u\x7b00020\x7d\\\r\n\\serve\\u0072".toList

lemma spelled_escapedDirective : Spelled (escapedDirective.map CodePoint.ofChar) letters := by
  have hlast : Spelled ((backslash :: lit 'u' :: Text.ofString "0072") ++ []) [lit 'r'] :=
    .character (.unicode (hexDigits_iff.mpr (by decide)) rfl) .nil
  have hplain : Spelled ([lit 'e'] ++ ([lit 'r'] ++ ([lit 'v'] ++ ([lit 'e'] ++ _)))) _ :=
    .character .plain (.character .plain (.character .plain (.character .plain hlast)))
  have hself : Spelled ([backslash, lit 's'] ++ _) (lit 's' :: _) := .character (.escaped (by decide)) hplain
  have hline : Spelled (backslash :: [lit '\r', lit '\n'] ++ _) _ := .continuation (by decide) hself
  have hspace : Spelled
      ((backslash :: lit 'u' :: lit '\x7b' :: Text.ofString "00020" ++ [lit '\x7d']) ++ _) (lit ' ' :: _) :=
    .character (.braced (hexDigits_iff.mpr (by decide))) hline
  have hhex : Spelled ((backslash :: lit 'x' :: Text.ofString "65") ++ _) (lit 'e' :: _) :=
    .character (.hex (hexDigits_iff.mpr (by decide)) rfl) hspace
  have hfirst : Spelled ([backslash, lit 'u'] ++ ([lit 's'] ++ _)) (lit 'u' :: lit 's' :: _) :=
    .character (.escaped (by decide)) (.character .plain hhex)
  exact hfirst

/-- The escapes leave it the directive, and a byte that starts no character makes it another text. -/
theorem literalValue?_eq_directive_escaped :
    let n : Node := .mk "string" true none ⟨0, 33, ⟨0, 0⟩, ⟨1, 12⟩⟩ []
    let source : Bytes := Utf8.encode ('\x27' :: escapedDirective ++ ['\x27'])
    let broken : Bytes := source.set 3 0xFF
    n.IsLiteral ∧ n.literalValue? source = some letters ∧
      ¬ Utf8.Valid (broken.slice n.startByte n.endByte) ∧ n.literalValue? broken ≠ some letters := by
  intro n source broken
  have hliteral : n.IsLiteral := Or.inl rfl
  have hlength : source.length = 33 := by decide
  have hcovers : Bytes.slice source n.startByte n.endByte = source := by
    rw [show n.startByte = (0 : Nat) from rfl, show n.endByte = (33 : Nat) from rfl,
      Bytes.slice_of_le (by omega) (by omega), ← hlength, List.take_length, List.drop_zero]
  have htext : n.text source = '\x27' :: escapedDirective ++ ['\x27'] := by
    rw [Node.text, hcovers, Utf8.decode_encode]
  have hinvalid : ¬ Utf8.Valid (Bytes.slice broken n.startByte n.endByte) :=
    fun h => absurd (h.le 0xFF (by decide)) (by decide)
  obtain ⟨-, hnode⟩ := literalValue?_eq_directive_iff
  exact ⟨hliteral, (hnode source n hliteral).1.mpr ⟨_, _, by decide, htext, spelled_escapedDirective⟩,
    hinvalid, (hnode broken n hliteral).2 hinvalid⟩

end Node

end AsyncActions
