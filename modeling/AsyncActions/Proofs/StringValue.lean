import AsyncActions.Tree.Literal
import Mathlib.Algebra.Group.Nat.Defs
import Mathlib.Data.List.Induction
import Mathlib.Tactic.Common

/-!
# What the body of a string literal stands for

`StringLiteral.Body` is the grammar of what may stand between the quotes of a string literal in
strict code, after ECMAScript's clause on string literals. It gives each part its value in UTF-16
code units. This file shows that `cook` computes that value.
-/

namespace AsyncActions

/-- The code point in UTF-16. A surrogate is written as itself. -/
def CodePoint.units (c : CodePoint) : List UInt16 :=
  if c.val < 0x10000 then [UInt16.ofNat c.val]
  else [UInt16.ofNat (0xD800 + (c.val - 0x10000) / 0x400), UInt16.ofNat (0xDC00 + (c.val - 0x10000) % 0x400)]

/-- The text in UTF-16. -/
def Text.units (t : Text) : List UInt16 := t.flatMap CodePoint.units

namespace StringLiteral

open Escape (lit backslash)

inductive Quote where
  | single
  | double

def Quote.mark : Quote → CodePoint
  | single => lit '\x27'
  | double => lit '\x22'

def lineTerminators : List CodePoint := [lit '\n', lit '\r', lit '\u2028', lit '\u2029']

/-- The characters that have a meaning of their own after a backslash. -/
def singleEscapes : List (CodePoint × UInt16) :=
  [(lit 'b', 0x08), (lit 't', 0x09), (lit 'n', 0x0A), (lit 'v', 0x0B), (lit 'f', 0x0C), (lit 'r', 0x0D),
    (lit '\x22', 0x22), (lit '\x27', 0x27), (backslash, 0x5C)]

def IsDecimalDigit (c : CodePoint) : Prop := 0x30 ≤ c.val ∧ c.val ≤ 0x39

/-- The character means something else after a backslash than it does without. -/
def IsEscapeCharacter (c : CodePoint) : Prop :=
  c ∈ singleEscapes.map Prod.fst ∨ IsDecimalDigit c ∨ c = lit 'x' ∨ c = lit 'u'

instance (c : CodePoint) : Decidable (IsDecimalDigit c) := inferInstanceAs (Decidable (_ ∧ _))

instance (c : CodePoint) : Decidable (IsEscapeCharacter c) := inferInstanceAs (Decidable (_ ∨ _))

/-- A hexadecimal digit and the number that it stands for. -/
inductive HexDigit : CodePoint → Nat → Prop
  | decimal {c : CodePoint} {v : Nat} : v < 10 → c.val = 0x30 + v → HexDigit c v
  | lower {c : CodePoint} {v : Nat} : v < 6 → c.val = 0x61 + v → HexDigit c (10 + v)
  | upper {c : CodePoint} {v : Nat} : v < 6 → c.val = 0x41 + v → HexDigit c (10 + v)

/-- One hexadecimal digit or more, and the number that they stand for together. -/
inductive HexDigits : Text → Nat → Prop
  | one {c : CodePoint} {v : Nat} : HexDigit c v → HexDigits [c] v
  | more {cs : Text} {c : CodePoint} {v w : Nat} :
      HexDigits cs v → HexDigit c w → HexDigits (cs ++ [c]) (16 * v + w)

/-- The end of a line. A carriage return and the line feed after it are one end. -/
inductive LineEnd : (text after : Text) → Prop
  | lineFeed {after : Text} : LineEnd [lit '\n'] after
  | carriageReturn {after : Text} : after.head? ≠ some (lit '\n') → LineEnd [lit '\r'] after
  | both {after : Text} : LineEnd [lit '\r', lit '\n'] after
  | lineSeparator {after : Text} : LineEnd [lit '\u2028'] after
  | paragraphSeparator {after : Text} : LineEnd [lit '\u2029'] after

/-- What may stand after a backslash, and its value. -/
inductive EscapeSequence : (text after : Text) → (value : List UInt16) → Prop
  | single {c : CodePoint} {unit : UInt16} {after : Text} :
      (c, unit) ∈ singleEscapes → EscapeSequence [c] after [unit]
  | character {c : CodePoint} {after : Text} :
      ¬ IsEscapeCharacter c → c ∉ lineTerminators → EscapeSequence [c] after c.units
  | zero {after : Text} :
      (∀ c ∈ after.head?, ¬ IsDecimalDigit c) → EscapeSequence [lit '0'] after [0]
  | hex {digits after : Text} {v : Nat} :
      HexDigits digits v → digits.length = 2 → EscapeSequence (lit 'x' :: digits) after [UInt16.ofNat v]
  | unicode {digits after : Text} {v : Nat} :
      HexDigits digits v → digits.length = 4 → EscapeSequence (lit 'u' :: digits) after [UInt16.ofNat v]
  | braced {digits after : Text} {c : CodePoint} :
      HexDigits digits c.val →
        EscapeSequence (lit 'u' :: lit '\x7b' :: digits ++ [lit '\x7d']) after c.units

/-- What may stand between the quotes, and its value. -/
inductive Body (quote : Quote) : Text → List UInt16 → Prop
  | empty : Body quote [] []
  | character {c : CodePoint} {rest : Text} {value : List UInt16} :
      c ≠ quote.mark → c ≠ backslash → c ≠ lit '\n' → c ≠ lit '\r' →
        Body quote rest value → Body quote (c :: rest) (c.units ++ value)
  | escape {text rest : Text} {unit value : List UInt16} :
      EscapeSequence text rest unit → Body quote rest value →
        Body quote (backslash :: text ++ rest) (unit ++ value)
  | continuation {text rest : Text} {value : List UInt16} :
      LineEnd text rest → Body quote rest value → Body quote (backslash :: text ++ rest) value

lemma HexDigit.hexDigit? {c : CodePoint} {v : Nat} (h : HexDigit c v) : c.hexDigit? = some v := by
  unfold CodePoint.hexDigit?
  cases h with
  | decimal hv hc =>
    rw [if_pos (by omega)]
    congr 1
    omega
  | lower hv hc =>
    rw [if_neg (by omega), if_pos (by omega)]
    congr 1
    omega
  | upper hv hc =>
    rw [if_neg (by omega), if_neg (by omega), if_pos (by omega)]
    congr 1
    omega

lemma HexDigit.lt {c : CodePoint} {v : Nat} (h : HexDigit c v) : v < 16 := by
  cases h <;> omega

lemma HexDigits.lt {cs : Text} {v : Nat} (h : HexDigits cs v) : v < 16 ^ cs.length := by
  induction h with
  | one hd => simpa using hd.lt
  | more _ hd ih =>
    have := hd.lt
    rw [List.length_append, List.length_singleton, Nat.pow_succ]
    omega

lemma HexDigits.ne_nil {cs : Text} {v : Nat} (h : HexDigits cs v) : cs ≠ [] := by
  cases h with
  | one => exact List.cons_ne_nil _ _
  | more => simp

lemma HexDigits.isSome {cs : Text} {v : Nat} (h : HexDigits cs v) :
    ∀ c ∈ cs, c.hexDigit?.isSome = true := by
  induction h with
  | one hd =>
    intro c hc
    rw [List.mem_singleton.mp hc, hd.hexDigit?]
    rfl
  | more _ hd ih =>
    intro c hc
    rcases List.mem_append.mp hc with hc | hc
    · exact ih c hc
    · rw [List.mem_singleton.mp hc, hd.hexDigit?]
      rfl

lemma HexDigits.head_ne_brace {d : CodePoint} {digits : Text} {v : Nat} (h : HexDigits (d :: digits) v) :
    d ≠ lit '\x7b' := by
  rintro rfl
  exact absurd (h.isSome _ List.mem_cons_self) (by decide)

lemma hexValue?_append (acc : Nat) (cs ds : Text) :
    Escape.hexValue? acc (cs ++ ds) = (Escape.hexValue? acc cs).bind fun v => Escape.hexValue? v ds := by
  induction cs generalizing acc with
  | nil => rfl
  | cons c cs ih =>
    rw [List.cons_append, Escape.hexValue?, Escape.hexValue?]
    cases c.hexDigit? with
    | none => rfl
    | some d => exact ih _

lemma HexDigits.hexValue? {cs : Text} {v : Nat} (h : HexDigits cs v) :
    Escape.hexValue? 0 cs = some v := by
  induction h with
  | one hd => simp [Escape.hexValue?, hd.hexDigit?]
  | more _ hd ih => simp [hexValue?_append, ih, Escape.hexValue?, hd.hexDigit?]

lemma hexDigit_of_hexDigit? {c : CodePoint} {v : Nat} (h : c.hexDigit? = some v) : HexDigit c v := by
  unfold CodePoint.hexDigit? at h
  split at h
  · next hc =>
    cases h
    exact HexDigit.decimal (by omega) (by omega)
  · split at h
    · next hc =>
      obtain ⟨w, hw⟩ : ∃ w, c.val = 0x61 + w := ⟨c.val - 0x61, by omega⟩
      have hv : v = 10 + w := by
        have := Option.some.inj h
        omega
      rw [hv]
      exact HexDigit.lower (by omega) hw
    · split at h
      · next hc =>
        obtain ⟨w, hw⟩ : ∃ w, c.val = 0x41 + w := ⟨c.val - 0x41, by omega⟩
        have hv : v = 10 + w := by
          have := Option.some.inj h
          omega
        rw [hv]
        exact HexDigit.upper (by omega) hw
      · cases h

/-- The number of hexadecimal digits can be read from left to right. -/
lemma hexDigits_iff {cs : Text} {v : Nat} :
    HexDigits cs v ↔ cs ≠ [] ∧ Escape.hexValue? 0 cs = some v := by
  constructor
  · intro h
    exact ⟨h.ne_nil, h.hexValue?⟩
  · rintro ⟨hne, h⟩
    induction cs using List.reverseRecOn generalizing v with
    | nil => exact absurd rfl hne
    | append_singleton cs c ih =>
      rw [hexValue?_append] at h
      obtain ⟨w, hw, h⟩ := Option.bind_eq_some_iff.mp h
      obtain ⟨d, hd, h⟩ := Option.bind_eq_some_iff.mp h
      cases h
      have hd := hexDigit_of_hexDigit? hd
      cases cs with
      | nil =>
        cases hw
        rw [Nat.mul_zero, Nat.zero_add]
        exact HexDigits.one hd
      | cons b cs => exact HexDigits.more (ih (List.cons_ne_nil b cs) hw) hd

lemma HexDigits.hexRun? {cs : Text} {v : Nat} (h : HexDigits cs v) (after : Text) :
    Escape.hexRun? cs.length (cs ++ after) = some (v, after) := by
  have hlen : ¬ (cs ++ after).length < cs.length := by
    rw [List.length_append]
    omega
  rw [Escape.hexRun?, if_neg hlen, List.take_left, List.drop_left, h.hexValue?]
  rfl

lemma HexDigits.braced? {cs : Text} {v : Nat} (h : HexDigits cs v) (after : Text) :
    Escape.braced? (cs ++ lit '\x7d' :: after) = some (cs, v, after) := by
  have hclose : (lit '\x7d').hexDigit?.isSome = false := by decide
  have htake : (cs ++ lit '\x7d' :: after).takeWhile (fun c => c.hexDigit?.isSome) = cs := by
    rw [List.takeWhile_append_of_pos h.isSome, List.takeWhile_cons, hclose]
    exact List.append_nil cs
  have hdrop : (cs ++ lit '\x7d' :: after).dropWhile (fun c => c.hexDigit?.isSome) =
      lit '\x7d' :: after := by
    rw [List.dropWhile_append_of_pos h.isSome, List.dropWhile_cons, hclose]
    rfl
  simp only [Escape.braced?, htake, hdrop, h.hexValue?, h.ne_nil, ne_eq, not_false_eq_true, and_self,
    if_true, Option.map_some]

lemma named_units {v : Nat} (h : v < 0x10000) (escape : Text) :
    (Escape.named v escape).units = [UInt16.ofNat v] := by
  have hv : v < 0x110000 := by omega
  simp [Escape.named, CodePoint.ofNat?, hv, Text.units, CodePoint.units, h]

lemma named_val (c : CodePoint) (escape : Text) : Escape.named c.val escape = [c] := by
  simp [Escape.named, CodePoint.ofNat?, c.val_lt]

/-! ### One escape -/

lemma read_of_ne {c : CodePoint} (hu : c ≠ lit 'u') (hx : c ≠ lit 'x') (hr : c ≠ lit '\r')
    (rest : Text) : Escape.read c rest = (Escape.single c, rest) := by
  rw [Escape.read, if_neg hu, if_neg hx, if_neg fun h => hr h.1]

lemma single_of_not_escapeCharacter {c : CodePoint} (hc : ¬ IsEscapeCharacter c)
    (hl : c ∉ lineTerminators) : Escape.single c = [c] := by
  have hdigit : c ≠ lit '0' := by
    rintro rfl
    exact hc (Or.inr (Or.inl (by unfold IsDecimalDigit; decide)))
  have hsingle : ∀ d ∈ singleEscapes.map Prod.fst, c ≠ d := by
    rintro d hd rfl
    exact hc (Or.inl hd)
  simp only [singleEscapes, List.map_cons, List.map_nil, List.forall_mem_cons] at hsingle
  simp only [lineTerminators, List.mem_cons, List.not_mem_nil, or_false, not_or] at hl
  simp [Escape.single, hdigit, hsingle, hl]

lemma HexDigits.read_hex {digits : Text} {v : Nat} (h : HexDigits digits v) (hlength : digits.length = 2)
    (after : Text) : Escape.read (lit 'x') (digits ++ after) = (Escape.named v [], after) := by
  have hrun := h.hexRun? after
  rw [hlength] at hrun
  rw [Escape.read, if_neg (by decide), if_pos rfl, hrun]

lemma HexDigits.read_unicode {digits : Text} {v : Nat} (h : HexDigits digits v) (hlength : digits.length = 4)
    (after : Text) : Escape.read (lit 'u') (digits ++ after) = (Escape.named v [], after) := by
  have hrun := h.hexRun? after
  rw [hlength] at hrun
  rw [Escape.read, if_pos rfl, Escape.unicode.eq_def]
  cases digits with
  | nil => cases hlength
  | cons d digits =>
    simp only [List.cons_append] at hrun ⊢
    rw [if_neg h.head_ne_brace, hrun]

lemma HexDigits.read_braces {digits : Text} {v : Nat} (h : HexDigits digits v) (after : Text) :
    Escape.read (lit 'u') (lit '\x7b' :: digits ++ [lit '\x7d'] ++ after) =
      (Escape.named v (backslash :: lit 'u' :: lit '\x7b' :: digits ++ [lit '\x7d']), after) := by
  rw [Escape.read, if_pos rfl, Escape.unicode.eq_def]
  simp only [List.cons_append, List.append_assoc, List.nil_append, if_true, h.braced?]

lemma HexDigits.read_braced {digits : Text} {c : CodePoint} (h : HexDigits digits c.val) (after : Text) :
    Escape.read (lit 'u') (lit '\x7b' :: digits ++ [lit '\x7d'] ++ after) = ([c], after) := by
  rw [h.read_braces, named_val]

/-- Reading an escape takes it off the text and gives what it stands for. -/
lemma EscapeSequence.read {text after : Text} {value : List UInt16}
    (h : EscapeSequence text after value) :
    ∃ c rest shown, text = c :: rest ∧ Escape.read c (rest ++ after) = (shown, after) ∧
      shown.units = value := by
  cases h with
  | @single c unit _ hc =>
    have htable : ∀ p ∈ singleEscapes, p.1 ≠ lit 'u' ∧ p.1 ≠ lit 'x' ∧ p.1 ≠ lit '\r' ∧
        (Escape.single p.1).units = [p.2] := by decide
    obtain ⟨hu, hx, hr, hvalue⟩ := htable _ hc
    exact ⟨c, [], _, rfl, read_of_ne hu hx hr after, hvalue⟩
  | @character c _ hc hl =>
    have hu : c ≠ lit 'u' := fun h => hc (Or.inr (Or.inr (Or.inr h)))
    have hx : c ≠ lit 'x' := fun h => hc (Or.inr (Or.inr (Or.inl h)))
    have hr : c ≠ lit '\r' := by
      rintro rfl
      exact hl (by decide)
    refine ⟨c, [], [c], rfl, ?_, by simp [Text.units]⟩
    rw [List.nil_append, read_of_ne hu hx hr, single_of_not_escapeCharacter hc hl]
  | zero => exact ⟨_, [], [lit '\x00'], rfl, read_of_ne (by decide) (by decide) (by decide) after, by decide⟩
  | @hex digits _ v hd hlen =>
    have hv := hd.lt
    rw [hlen] at hv
    exact ⟨_, digits, Escape.named v [], rfl, hd.read_hex hlen after, named_units (by omega) _⟩
  | @unicode digits _ v hd hlen =>
    have hv := hd.lt
    rw [hlen] at hv
    exact ⟨_, digits, Escape.named v [], rfl, hd.read_unicode hlen after, named_units (by omega) _⟩
  | @braced digits _ c hd =>
    exact ⟨_, lit '\x7b' :: digits ++ [lit '\x7d'], [c], rfl, hd.read_braced after, by simp [Text.units]⟩

/-- The end of a line stands for nothing. -/
lemma LineEnd.read {text after : Text} (h : LineEnd text after) :
    ∃ c rest, text = c :: rest ∧ Escape.read c (rest ++ after) = ([], after) := by
  cases h with
  | lineFeed => exact ⟨_, [], rfl, read_of_ne (by decide) (by decide) (by decide) after⟩
  | carriageReturn h =>
    refine ⟨_, [], rfl, ?_⟩
    rw [List.nil_append, Escape.read, if_neg (by decide), if_neg (by decide), if_neg fun hc => h hc.2]
    rfl
  | both => exact ⟨_, [lit '\n'], rfl, rfl⟩
  | lineSeparator => exact ⟨_, [], rfl, read_of_ne (by decide) (by decide) (by decide) after⟩
  | paragraphSeparator => exact ⟨_, [], rfl, read_of_ne (by decide) (by decide) (by decide) after⟩

/-! ### The whole body -/

lemma cook_backslash (c : CodePoint) (rest : Text) :
    cook (backslash :: c :: rest) = (Escape.read c rest).1 ++ cook (Escape.read c rest).2 := by
  rw [cook.eq_def]
  simp only [if_true]

lemma cook_cons_of_ne {c : CodePoint} (hc : c ≠ backslash) (rest : Text) : cook (c :: rest) = c :: cook rest := by
  have hplain : ∀ d ∈ [c], d ≠ backslash := by simpa using hc
  exact cook_append_of_plain hplain rest

/-! A number in digits is read as its character, whatever follows. -/

lemma HexDigits.cook_hex {digits : Text} {c : CodePoint} (h : HexDigits digits c.val)
    (hlength : digits.length = 2) (after : Text) :
    cook (backslash :: lit 'x' :: digits ++ after) = c :: cook after := by
  rw [List.cons_append, List.cons_append, cook_backslash, h.read_hex hlength, named_val, List.singleton_append]

lemma HexDigits.cook_unicode {digits : Text} {c : CodePoint} (h : HexDigits digits c.val)
    (hlength : digits.length = 4) (after : Text) :
    cook (backslash :: lit 'u' :: digits ++ after) = c :: cook after := by
  rw [List.cons_append, List.cons_append, cook_backslash, h.read_unicode hlength, named_val, List.singleton_append]

lemma HexDigits.cook_braced {digits : Text} {c : CodePoint} (h : HexDigits digits c.val) (after : Text) :
    cook (backslash :: lit 'u' :: lit '\x7b' :: digits ++ [lit '\x7d'] ++ after) = c :: cook after := by
  rw [List.cons_append, List.cons_append, List.cons_append, List.cons_append, cook_backslash, h.read_braced,
    List.singleton_append]

/-- `cook` gives the value of each body that the grammar derives. -/
theorem units_cook {quote : Quote} {raw : Text} {value : List UInt16} (h : Body quote raw value) :
    (cook raw).units = value := by
  induction h with
  | empty =>
    rw [cook]
    rfl
  | @character c rest value _ hc _ _ _ ih =>
    have hplain : ∀ d ∈ [c], d ≠ backslash := by simpa using hc
    have hstep := cook_append_of_plain hplain rest
    rw [List.singleton_append] at hstep
    rw [hstep, ← ih]
    rfl
  | @escape text rest unit value hesc _ ih =>
    obtain ⟨c, tail, shown, rfl, hread, hunits⟩ := hesc.read
    rw [List.cons_append, List.cons_append, cook_backslash, hread, ← ih, ← hunits]
    exact List.flatMap_append
  | @continuation text rest value hend _ ih =>
    obtain ⟨c, tail, rfl, hread⟩ := hend.read
    rw [List.cons_append, List.cons_append, cook_backslash, hread, List.nil_append, ih]

/-- A picture by its number, half of one, a line that goes on after a carriage return and a line feed,
a zero before a letter, and an escape that changes nothing. -/
theorem units_cook_mixedEscapes :
    let raw := Text.ofString "\\u\x7b0001F600\x7d\\uD83D\\\r\n\\0a\\q"
    Body .single raw [0xD83D, 0xDE00, 0xD83D, 0x00, 0x61, 0x71] ∧
      (cook raw).units = [0xD83D, 0xDE00, 0xD83D, 0x00, 0x61, 0x71] := by
  intro raw
  have hplain : Body .single (backslash :: [lit 'q'] ++ []) ([0x71] ++ []) :=
    Body.escape (EscapeSequence.character (by decide) (by decide)) Body.empty
  have hletter : Body .single (lit 'a' :: _) ([0x61] ++ _) :=
    Body.character (by decide) (by decide) (by decide) (by decide) hplain
  have hzero : Body .single (backslash :: [lit '0'] ++ _) ([0x00] ++ _) :=
    Body.escape (EscapeSequence.zero (by decide)) hletter
  have hline : Body .single (backslash :: [lit '\r', lit '\n'] ++ _) _ :=
    Body.continuation LineEnd.both hzero
  have hhalf : Body .single (backslash :: (lit 'u' :: Text.ofString "D83D") ++ _) ([0xD83D] ++ _) :=
    Body.escape (EscapeSequence.unicode (hexDigits_iff.mpr (by decide)) rfl) hline
  have hpicture : Body .single
      (backslash :: (lit 'u' :: lit '\x7b' :: Text.ofString "0001F600" ++ [lit '\x7d']) ++ _)
      (CodePoint.units ⟨0x1F600, by decide⟩ ++ _) :=
    Body.escape (EscapeSequence.braced (hexDigits_iff.mpr (by decide))) hhalf
  have hraw : raw =
      backslash :: (lit 'u' :: lit '\x7b' :: Text.ofString "0001F600" ++ [lit '\x7d']) ++
        (backslash :: (lit 'u' :: Text.ofString "D83D") ++
          (backslash :: [lit '\r', lit '\n'] ++ (backslash :: [lit '0'] ++
            (lit 'a' :: (backslash :: [lit 'q'] ++ []))))) := by decide
  have hbody : Body .single raw [0xD83D, 0xDE00, 0xD83D, 0x00, 0x61, 0x71] := hraw ▸ hpicture
  exact ⟨hbody, units_cook hbody⟩

end StringLiteral

end AsyncActions
