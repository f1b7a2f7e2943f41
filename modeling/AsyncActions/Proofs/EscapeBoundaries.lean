import AsyncActions.Proofs.DirectiveSpelling
import Mathlib.Algebra.Group.Nat.Even

/-!
# Texts cut at escapes

A text can be cut before a backslash that starts an escape, and its parts cooked one by one, whatever they hold. For an
escape of several characters never has a backslash among them, and the escaped backslash is the only one that does not
start an escape. So an escape that is cut short, or names no code point, stays with itself.
-/

namespace AsyncActions

namespace StringLiteral

open Escape (lit backslash)

/-- How many backslashes the text ends in. -/
def trailing (t : Text) : Nat := (t.reverse.takeWhile (· = backslash)).length

/-- The text starts with an escape, if it is not empty. -/
def AtEscape (t : Text) : Prop := t = [] ∨ t.head? = some backslash

lemma trailing_append (s t : Text) :
    trailing (s ++ t) = if trailing t = t.length then t.length + trailing s else trailing t := by
  unfold trailing
  rw [List.reverse_append, List.takeWhile_append, List.length_reverse]
  split
  · rw [List.length_append, List.length_reverse]
  · rfl

lemma trailing_of_getLast? {t : Text} (h : t.getLast? ≠ some backslash) : trailing t = 0 := by
  rw [← List.head?_reverse] at h
  unfold trailing
  cases hr : t.reverse with
  | nil => rfl
  | cons c rest =>
    have hc : c ≠ backslash := fun hc => h (by rw [hr, hc]; rfl)
    rw [List.takeWhile_cons_of_neg (by simpa using hc)]
    rfl

lemma trailing_of_plain {t : Text} (h : ∀ c ∈ t, c ≠ backslash) : trailing t = 0 :=
  trailing_of_getLast? fun hlast => h _ (List.mem_of_getLast? hlast) rfl

lemma trailing_append_of_plain {t : Text} (hne : t ≠ []) (h : ∀ c ∈ t, c ≠ backslash) (s : Text) :
    trailing (s ++ t) = 0 := by
  refine trailing_of_getLast? fun hlast => ?_
  rw [List.getLast?_append_of_ne_nil s hne] at hlast
  exact h _ (List.mem_of_getLast? hlast) rfl

/-- A text with pairs of backslashes at its end does not change whether there are pairs at the end of what follows. -/
lemma even_trailing_append {s : Text} (hs : Even (trailing s)) (t : Text) :
    Even (trailing (s ++ t)) ↔ Even (trailing t) := by
  rw [trailing_append]
  split
  · next h => rw [h, Nat.even_add, iff_true_right hs]
  · rfl

/-- What may follow a backslash and a character as part of the same escape, and what the escape stands for. -/
inductive Compound : (c : CodePoint) → (text shown : Text) → Prop
  | hex {digits : Text} {v : Nat} :
      HexDigits digits v → digits.length = 2 → Compound (lit 'x') digits (Escape.named v [])
  | unicode {digits : Text} {v : Nat} :
      HexDigits digits v → digits.length = 4 → Compound (lit 'u') digits (Escape.named v [])
  | braced {digits : Text} {v : Nat} :
      HexDigits digits v → Compound (lit 'u') (lit '\x7b' :: digits ++ [lit '\x7d'])
        (Escape.named v (backslash :: lit 'u' :: lit '\x7b' :: digits ++ [lit '\x7d']))
  | lineEnd : Compound (lit '\r') [lit '\n'] []

lemma HexDigits.ne_backslash {digits : Text} {v : Nat} (h : HexDigits digits v) : ∀ c ∈ digits, c ≠ backslash := by
  rintro c hc rfl
  exact absurd (h.isSome _ hc) (by decide)

namespace Compound

variable {c : CodePoint} {text shown : Text}

lemma ne_backslash (h : Compound c text shown) : ∀ d ∈ c :: text, d ≠ backslash := by
  have hmarks : lit 'x' ≠ backslash ∧ lit 'u' ≠ backslash ∧ lit '\x7b' ≠ backslash ∧ lit '\x7d' ≠ backslash := by
    decide
  obtain ⟨hx, hu, hopen, hclose⟩ := hmarks
  cases h with
  | hex hdigits => exact List.forall_mem_cons.mpr ⟨hx, hdigits.ne_backslash⟩
  | unicode hdigits => exact List.forall_mem_cons.mpr ⟨hu, hdigits.ne_backslash⟩
  | braced hdigits =>
    have hend : ∀ c ∈ _ ++ [lit '\x7d'], c ≠ backslash :=
      List.forall_mem_append.mpr ⟨hdigits.ne_backslash, by simpa using hclose⟩
    exact List.forall_mem_cons.mpr ⟨hu, List.forall_mem_cons.mpr ⟨hopen, hend⟩⟩
  | lineEnd => decide

lemma read (h : Compound c text shown) (after : Text) : Escape.read c (text ++ after) = (shown, after) := by
  cases h with
  | hex hdigits hlength => exact hdigits.read_hex hlength after
  | unicode hdigits hlength => exact hdigits.read_unicode hlength after
  | braced hdigits => exact hdigits.read_braces after
  | lineEnd => rfl

end Compound

/-- Where none of these follows, an escape is one character. -/
lemma read_of_not_compound {c : CodePoint} {rest : Text}
    (h : ∀ text shown after, Compound c text shown → rest ≠ text ++ after) :
    Escape.read c rest = (Escape.single c, rest) := by
  unfold Escape.read
  split
  · next hu =>
    subst hu
    refine unicode_of_none (Option.eq_none_iff_forall_ne_some.mpr fun found hfound => ?_)
      fun more hmore => Option.eq_none_iff_forall_ne_some.mpr fun found hfound => ?_
    · obtain ⟨digits, hrest, hlength, hdigits⟩ := exists_hexDigits_of_hexRun? (by decide) hfound
      exact h _ _ _ (.unicode hdigits hlength) hrest
    · obtain ⟨hrest, hdigits⟩ := hexDigits_of_braced? hfound
      exact h _ _ found.2.2 (.braced hdigits) (by simp [hmore, hrest])
  · split
    · next hx =>
      subst hx
      split
      · next v after hrun =>
        obtain ⟨digits, hrest, hlength, hdigits⟩ := exists_hexDigits_of_hexRun? (by decide) hrun
        exact absurd hrest (h _ _ _ (.hex hdigits hlength))
      · rfl
    · split
      · next hcrlf =>
        obtain ⟨rfl, hn⟩ := hcrlf
        obtain ⟨after, rfl⟩ := List.head?_eq_some_iff.mp hn
        exact absurd rfl (h _ _ after .lineEnd)
      · rfl

lemma compound_or (c : CodePoint) (rest : Text) :
    (∃ text shown after, Compound c text shown ∧ rest = text ++ after) ∨
      ∀ text shown after, Compound c text shown → rest ≠ text ++ after := by
  by_cases h : ∃ text shown after, Compound c text shown ∧ rest = text ++ after
  · exact Or.inl h
  · exact Or.inr fun text shown after hcompound hsplit => h ⟨text, shown, after, hcompound, hsplit⟩

/-! ### Cuts -/

/-- A part without backslashes lies before the next escape. -/
lemma eq_append_of_plain {text after t b : Text} (hb : AtEscape b) (htext : ∀ c ∈ text, c ≠ backslash)
    (h : t ++ b = text ++ after) : ∃ rest, t = text ++ rest := by
  rcases List.append_eq_append_iff.mp h with ⟨more, rfl, hmore⟩ | ⟨rest, ht, -⟩
  · cases more with
    | nil => exact ⟨[], by simp⟩
    | cons d more =>
      have hd : d = backslash := by
        rcases hb with rfl | hhead
        · cases hmore
        · rw [hmore] at hhead
          exact Option.some.inj hhead
      exact absurd hd (htext d (List.mem_append_right _ List.mem_cons_self))
  · exact ⟨rest, ht⟩

/-- Reading an escape does not look beyond the start of the next. -/
lemma read_append {b : Text} (hb : AtEscape b) (c : CodePoint) (rest : Text) :
    Escape.read c (rest ++ b) = ((Escape.read c rest).1, (Escape.read c rest).2 ++ b) := by
  rcases compound_or c rest with ⟨text, shown, after, hcompound, rfl⟩ | hnone
  · rw [hcompound.read, List.append_assoc, hcompound.read]
  · -- what does not follow in the first part would need a backslash from the second
    have hnone' : ∀ text shown after, Compound c text shown → rest ++ b ≠ text ++ after := by
      intro text shown after hcompound hsplit
      obtain ⟨before, hrest⟩ := eq_append_of_plain hb (List.forall_mem_cons.mp hcompound.ne_backslash).2 hsplit
      exact hnone text shown before hcompound hrest
    rw [read_of_not_compound hnone, read_of_not_compound hnone']

/-- An escape takes either no backslash with it or one, as the escaped character, and that is all. -/
lemma exists_unit (c : CodePoint) (rest : Text) :
    ∃ text, rest = text ++ (Escape.read c rest).2 ∧ Even (trailing (backslash :: c :: text)) := by
  rcases compound_or c rest with ⟨text, shown, after, hcompound, rfl⟩ | hnone
  · refine ⟨text, by rw [hcompound.read], ?_⟩
    exact trailing_append_of_plain (List.cons_ne_nil c text) hcompound.ne_backslash [backslash] ▸ Even.zero
  · refine ⟨[], by rw [read_of_not_compound hnone]; rfl, ?_⟩
    by_cases hc : c = backslash
    · rw [hc]
      decide
    · have hplain : ∀ d ∈ [c], d ≠ backslash := by simpa using hc
      exact trailing_append_of_plain (List.cons_ne_nil c []) hplain [backslash] ▸ Even.zero

lemma cook_append {a b : Text} (ha : Even (trailing a)) (hb : AtEscape b) : cook (a ++ b) = cook a ++ cook b := by
  -- over the escapes of the first part: each is read there as before the second part, and leaves the parity as it was
  fun_induction cook a with
  | case1 => rfl
  | case2 => exact absurd ha (by decide)
  | case3 d rest ih =>
    obtain ⟨text, hsplit, hunit⟩ := exists_unit d rest
    have hrest : Even (trailing (Escape.read d rest).2) := by
      rw [hsplit] at ha
      exact (even_trailing_append hunit _).mp ha
    rw [List.cons_append, List.cons_append, cook_backslash, read_append hb, ih hrest, List.append_assoc]
  | case4 c rest hc ih =>
    have hplain : trailing [c] = 0 := trailing_of_plain (by simpa using hc)
    have hrest : Even (trailing rest) := (even_trailing_append (hplain ▸ Even.zero) rest).mp ha
    rw [List.cons_append, cook_cons_of_ne hc, ih hrest, List.cons_append]

lemma cook_replicate (n : Nat) : cook (List.replicate n backslash) = List.replicate ((n + 1) / 2) backslash := by
  have hpair (t : Text) : cook (backslash :: backslash :: t) = backslash :: cook t := by
    rw [cook_backslash, read_of_ne (by decide) (by decide) (by decide)]
    rfl
  induction n using Nat.twoStepInduction with
  | zero => simp [cook]
  | one => simp [cook]
  | more n ih _ =>
    have hhalf : (n + 2 + 1) / 2 = (n + 1) / 2 + 1 := by omega
    rw [List.replicate_succ, List.replicate_succ, hpair, ih, hhalf, List.replicate_succ]

def IsHexDigit (c : CodePoint) : Prop := ∃ v, HexDigit c v

/-- All hexadecimal digits that follow, and what stands after them. -/
structure DigitRun (digits after : Text) : Prop where
  digits : ∀ c ∈ digits, IsHexDigit c
  stops : ∀ c ∈ after.head?, ¬ IsHexDigit c

/-- An escape that names no character, what is shown for it, and what stands after it: a number with too few digits,
without its brace or beyond all code points, and a backslash at the end. -/
inductive Broken : (escape shown after : Text) → Prop
  | hex {digits after : Text} :
      DigitRun digits after → digits.length < 2 → Broken (backslash :: lit 'x' :: digits) (lit 'x' :: digits) after
  | unicode {digits after : Text} :
      DigitRun digits after → digits.length < 4 → (digits = [] → after.head? ≠ some (lit '\x7b')) →
        Broken (backslash :: lit 'u' :: digits) (lit 'u' :: digits) after
  | unclosed {digits after : Text} :
      DigitRun digits after → (digits ≠ [] → after.head? ≠ some (lit '\x7d')) →
        Broken (backslash :: lit 'u' :: lit '\x7b' :: digits) (lit 'u' :: lit '\x7b' :: digits) after
  | beyond {digits after : Text} {v : Nat} :
      HexDigits digits v → 0x10FFFF < v →
        Broken (backslash :: lit 'u' :: lit '\x7b' :: digits ++ [lit '\x7d'])
          (backslash :: lit 'u' :: lit '\x7b' :: digits ++ [lit '\x7d']) after
  | lone : Broken [backslash] [backslash] []

lemma isHexDigit_iff {c : CodePoint} : IsHexDigit c ↔ c.hexDigit?.isSome = true := by
  rw [Option.isSome_iff_exists]
  exact ⟨fun ⟨v, h⟩ => ⟨v, h.hexDigit?⟩, fun ⟨v, h⟩ => ⟨v, hexDigit_of_hexDigit? h⟩⟩

instance : DecidablePred IsHexDigit := fun _ => decidable_of_iff' _ isHexDigit_iff

namespace DigitRun

variable {digits after number rest : Text} {v : Nat}

lemma ne_backslash (h : DigitRun digits after) : ∀ c ∈ digits, c ≠ backslash := by
  rintro c hc rfl
  exact absurd (h.digits _ hc) (by decide)

lemma takeWhile (h : DigitRun digits after) :
    (digits ++ after).takeWhile (fun c => c.hexDigit?.isSome) = digits := by
  have hstops : after.takeWhile (fun c => c.hexDigit?.isSome) = [] := by
    cases after with
    | nil => rfl
    | cons c rest => exact List.takeWhile_cons_of_neg fun hc => h.stops c rfl (isHexDigit_iff.mpr hc)
  rw [List.takeWhile_append_of_pos fun c hc => isHexDigit_iff.mp (h.digits c hc), hstops, List.append_nil]

/-- A number that starts here has no other digits. -/
lemma length_le (h : DigitRun digits after) (hnumber : HexDigits number v)
    (hsplit : digits ++ after = number ++ rest) : number.length ≤ digits.length := by
  have hrun := h.takeWhile
  rw [hsplit, List.takeWhile_append_of_pos hnumber.isSome] at hrun
  rw [← hrun]
  exact (List.prefix_append _ _).length_le

lemma eq_of_closed (h : DigitRun digits after) (hnumber : HexDigits number v)
    (hsplit : digits ++ after = number ++ lit '\x7d' :: rest) :
    digits = number ∧ after.head? = some (lit '\x7d') := by
  have hclosed : DigitRun number (lit '\x7d' :: rest) := by
    refine ⟨fun c hc => isHexDigit_iff.mpr (hnumber.isSome c hc), ?_⟩
    rintro _ ⟨⟩
    decide
  have heq : digits = number := by rw [← h.takeWhile, hsplit, hclosed.takeWhile]
  rw [heq] at hsplit
  exact ⟨heq, by rw [List.append_cancel_left hsplit]; rfl⟩

end DigitRun

lemma cook_of_not_compound {c : CodePoint} {text after : Text} (hself : Escape.single c = [c])
    (htext : ∀ d ∈ text, d ≠ backslash)
    (hnone : ∀ more shown rest, Compound c more shown → text ++ after ≠ more ++ rest) :
    cook (backslash :: c :: text ++ after) = c :: text ++ cook after := by
  rw [List.cons_append, List.cons_append, cook_backslash, read_of_not_compound hnone, hself,
    cook_append_of_plain htext]
  rfl

/-- What is shown for a broken escape is all that it changes. -/
lemma Broken.cook {escape shown after : Text} (h : Broken escape shown after) :
    AsyncActions.cook (escape ++ after) = shown ++ AsyncActions.cook after := by
  cases h with
  | @hex digits _ hrun htwo =>
    refine cook_of_not_compound rfl hrun.ne_backslash ?_
    rintro _ _ rest (⟨hdigits, hlength⟩) hsplit
    have := hrun.length_le hdigits hsplit
    omega
  | @unicode digits _ hrun hfour hbrace =>
    refine cook_of_not_compound rfl hrun.ne_backslash ?_
    rintro _ _ rest hcompound hsplit
    cases hcompound with
    | unicode hdigits hlength =>
      have := hrun.length_le hdigits hsplit
      omega
    | braced hdigits =>
      cases digits with
      | nil => exact hbrace rfl (by rw [← List.nil_append after, hsplit]; rfl)
      | cons d digits =>
        obtain ⟨rfl, -⟩ := List.cons.inj hsplit
        exact absurd (hrun.digits _ List.mem_cons_self) (by decide)
  | @unclosed digits _ hrun hbrace =>
    have hplain : ∀ d ∈ lit '\x7b' :: digits, d ≠ backslash :=
      List.forall_mem_cons.mpr ⟨by decide, hrun.ne_backslash⟩
    refine cook_of_not_compound rfl hplain ?_
    rintro number _ rest hcompound hsplit
    cases hcompound with
    | unicode hdigits hlength =>
      cases number with
      | nil => cases hlength
      | cons d number => exact hdigits.head_ne_brace (List.cons.inj hsplit).1.symm
    | @braced number _ hdigits =>
      have hsplit : digits ++ after = number ++ lit '\x7d' :: rest := by simpa using hsplit
      obtain ⟨rfl, hhead⟩ := hrun.eq_of_closed hdigits hsplit
      exact hbrace hdigits.ne_nil hhead
  | @beyond digits _ v hdigits hv =>
    have hnamed (escape : Text) : Escape.named v escape = escape := by
      have hv : ¬ v < 0x110000 := by omega
      simp [Escape.named, CodePoint.ofNat?, hv]
    have hescape : backslash :: lit 'u' :: lit '\x7b' :: digits ++ [lit '\x7d'] ++ after =
        backslash :: lit 'u' :: (lit '\x7b' :: digits ++ [lit '\x7d'] ++ after) := rfl
    rw [hescape, cook_backslash, hdigits.read_braces, hnamed]
  | lone => simp [AsyncActions.cook]

lemma Broken.atEscape {escape shown after : Text} (h : Broken escape shown after) : AtEscape (escape ++ after) := by
  cases h with
  | hex | unicode | unclosed | beyond | lone => exact Or.inr rfl

/-! ### There are no others -/

lemma exists_digitRun (t : Text) : ∃ digits after, t = digits ++ after ∧ DigitRun digits after := by
  let p (c : CodePoint) : Bool := c.hexDigit?.isSome
  refine ⟨t.takeWhile p, t.dropWhile p, List.takeWhile_append_dropWhile.symm, fun c hc => ?_, fun c hc hdigit => ?_⟩
  · exact isHexDigit_iff.mpr (List.all_eq_true.mp List.all_takeWhile c hc)
  · have hstop := List.head?_dropWhile_not p t
    rw [hc] at hstop
    simp [p, isHexDigit_iff.mp hdigit] at hstop

lemma exists_hexDigits {digits : Text} (hne : digits ≠ []) (h : ∀ c ∈ digits, IsHexDigit c) :
    ∃ v, HexDigits digits v := by
  induction digits using List.reverseRecOn with
  | nil => exact absurd rfl hne
  | append_singleton digits c ih =>
    obtain ⟨hdigits, hc⟩ := List.forall_mem_append.mp h
    obtain ⟨w, hw⟩ := hc c List.mem_cons_self
    cases digits with
    | nil => exact ⟨w, .one hw⟩
    | cons d digits =>
      obtain ⟨v, hv⟩ := ih (List.cons_ne_nil d digits) hdigits
      exact ⟨_, .more hv hw⟩

/-- As many digits as a number takes, if there are so many. Four are not enough for a number beyond all code points. -/
lemma DigitRun.exists_number {digits after : Text} (h : DigitRun digits after) {n : Nat} (hn : n ≠ 0) (hfew : n ≤ 4)
    (hlength : n ≤ digits.length) :
    ∃ (number rest : Text) (c : CodePoint), digits = number ++ rest ∧ number.length = n ∧ HexDigits number c.val := by
  have htake : (digits.take n).length = n := by rw [List.length_take]; omega
  have hne : digits.take n ≠ [] := fun hnil => hn (by rw [← htake, hnil]; rfl)
  obtain ⟨v, hv⟩ := exists_hexDigits hne fun c hc => h.digits c (List.mem_of_mem_take hc)
  have hlt : v < 0x110000 := by
    have hpow : 16 ^ n ≤ 16 ^ 4 := Nat.pow_le_pow_right (by decide) hfew
    have := hv.lt
    rw [htake] at this
    omega
  exact ⟨_, digits.drop n, ⟨v, hlt⟩, (List.take_append_drop n digits).symm, htake, hv⟩

/-- After a backslash, `u` and an opening brace, there is a number of a character, or the escape is broken. -/
lemma braced_or_broken (more : Text) :
    (∃ text d after, lit '\x7b' :: more = text ++ after ∧ Compound (lit 'u') text [d]) ∨
      ∃ escape shown after, backslash :: lit 'u' :: lit '\x7b' :: more = escape ++ after ∧
        Broken escape shown after := by
  obtain ⟨digits, after, rfl, hrun⟩ := exists_digitRun more
  by_cases hclosed : digits ≠ [] ∧ after.head? = some (lit '\x7d')
  · obtain ⟨hne, hclose⟩ := hclosed
    obtain ⟨rest, rfl⟩ := List.head?_eq_some_iff.mp hclose
    obtain ⟨v, hv⟩ := exists_hexDigits hne hrun.digits
    by_cases hlt : v < 0x110000
    · let d : CodePoint := ⟨v, hlt⟩
      exact Or.inl ⟨lit '\x7b' :: digits ++ [lit '\x7d'], d, rest, by simp, named_val d _ ▸ .braced hv⟩
    · exact Or.inr ⟨_, _, rest, by simp, .beyond hv (by omega)⟩
  · exact Or.inr ⟨_, _, after, rfl, .unclosed hrun fun hne hclose => hclosed ⟨hne, hclose⟩⟩

/-- After a backslash, `x` and `u` name a character by its number, or the escape is broken. -/
lemma compound_or_broken {c : CodePoint} (hc : c = lit 'x' ∨ c = lit 'u') (rest : Text) :
    (∃ text d after, rest = text ++ after ∧ Compound c text [d]) ∨
      ∃ escape shown after, backslash :: c :: rest = escape ++ after ∧ Broken escape shown after := by
  obtain ⟨digits, after, rfl, hrun⟩ := exists_digitRun rest
  rcases hc with rfl | rfl
  · by_cases htwo : digits.length < 2
    · exact Or.inr ⟨_, _, after, rfl, .hex hrun htwo⟩
    · obtain ⟨number, more, d, rfl, hlength, hd⟩ :=
        hrun.exists_number (by decide) (by decide) (Nat.le_of_not_lt htwo)
      exact Or.inl ⟨number, d, more ++ after, List.append_assoc _ _ _, named_val d [] ▸ .hex hd hlength⟩
  · by_cases hfour : digits.length < 4
    · by_cases hbrace : digits = [] ∧ after.head? = some (lit '\x7b')
      · obtain ⟨rfl, hopen⟩ := hbrace
        obtain ⟨more, rfl⟩ := List.head?_eq_some_iff.mp hopen
        exact braced_or_broken more
      · exact Or.inr ⟨_, _, after, rfl, .unicode hrun hfour fun hnil hopen => hbrace ⟨hnil, hopen⟩⟩
    · obtain ⟨number, more, d, rfl, hlength, hd⟩ :=
        hrun.exists_number (by decide) (by decide) (Nat.le_of_not_lt hfour)
      exact Or.inl ⟨number, d, more ++ after, List.append_assoc _ _ _, named_val d [] ▸ .unicode hd hlength⟩

/-- A text is cooked part by part if it is cut before an escape, so not within a pair of backslashes, and text without
backslashes stays. This holds of all texts, well formed or not: a broken escape is shown as it is written, in most cases
without its backslash, and changes neither what stands before it nor what stands after it. At the end of a text
every two backslashes make one, and so does one that is left over. -/
theorem cook_at_escapes :
    (∀ a b : Text, Even (trailing a) → (b = [] ∨ b.head? = some backslash) → cook (a ++ b) = cook a ++ cook b) ∧
    (∀ p b : Text, (∀ c ∈ p, c ≠ backslash) → cook (p ++ b) = p ++ cook b) ∧
    (∀ a escape shown after : Text, Even (trailing a) → Broken escape shown after →
      cook (a ++ escape ++ after) = cook a ++ shown ++ cook after) ∧
    (∀ (c : CodePoint) (rest : Text), c = lit 'x' ∨ c = lit 'u' →
      (∃ text d after, rest = text ++ after ∧ Compound c text [d]) ∨
        ∃ escape shown after, backslash :: c :: rest = escape ++ after ∧ Broken escape shown after) ∧
    ∀ (a : Text) (n : Nat), a.getLast? ≠ some backslash →
      cook (a ++ List.replicate n backslash) = cook a ++ List.replicate ((n + 1) / 2) backslash := by
  refine ⟨fun a b => cook_append, fun p b hp => cook_append_of_plain hp b,
    fun a escape shown after ha hbroken => ?_, fun c rest hc => compound_or_broken hc rest, fun a n ha => ?_⟩
  · rw [List.append_assoc, cook_append ha hbroken.atEscape, hbroken.cook, List.append_assoc]
  · have hrun : AtEscape (List.replicate n backslash) := by
      cases n with
      | zero => exact Or.inl rfl
      | succ n => exact Or.inr rfl
    rw [cook_append (trailing_of_getLast? ha ▸ Even.zero) hrun, cook_replicate]

/-- A number without its brace between a broken escape with an escaped backslash and escapes of a letter and of a
number beyond all code points; and three backslashes at the end. -/
theorem cook_at_escapes_brokenText :
    let before := Text.ofString "\\u12\\\\"
    let escape := Text.ofString "\\u\x7b34"
    let shown := Text.ofString "u\x7b34"
    let after := Text.ofString "\\x41\\u\x7b110000\x7d"
    (Even (trailing before) ∧ after.head? = some backslash ∧ (∀ c ∈ shown, c ≠ backslash) ∧
        Broken escape shown after ∧ shown.getLast? ≠ some backslash) ∧
      cook (before ++ after) = Text.ofString "u12\\A\\u\x7b110000\x7d" ∧
      cook (shown ++ after) = Text.ofString "u\x7b34A\\u\x7b110000\x7d" ∧
      cook (before ++ escape ++ after) = Text.ofString "u12\\u\x7b34A\\u\x7b110000\x7d" ∧
      cook (shown ++ List.replicate 3 backslash) = Text.ofString "u\x7b34\\\\" := by
  intro before escape shown after
  have hbefore : Even (trailing before) := ⟨1, by decide⟩
  have hplain : ∀ c ∈ shown, c ≠ backslash := by decide
  have hbroken : Broken escape shown after := .unclosed ⟨by decide, by decide⟩ fun _ => by decide
  have hlast : shown.getLast? ≠ some backslash := by decide
  have hcooked : cook before = Text.ofString "u12\\" ∧ cook shown = shown ∧
      cook after = Text.ofString "A\\u\x7b110000\x7d" := by decide +kernel
  obtain ⟨hcookBefore, hcookShown, hcookAfter⟩ := hcooked
  obtain ⟨hcut, hkept, hescape, -, hrun⟩ := cook_at_escapes
  refine ⟨⟨hbefore, rfl, hplain, hbroken, hlast⟩, ?_, ?_, ?_, ?_⟩
  · rw [hcut before after hbefore (Or.inr rfl), hcookBefore, hcookAfter]
    rfl
  · rw [hkept shown after hplain, hcookAfter]
    rfl
  · rw [hescape before escape shown after hbefore hbroken, hcookBefore, hcookAfter]
    rfl
  · rw [hrun shown 3 hlast, hcookShown]
    rfl

end StringLiteral

end AsyncActions
