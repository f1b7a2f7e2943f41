import AsyncActions.Proofs.Splice
import Mathlib.Data.List.Sort

/-!
# What of a list of findings matters

Applying findings looks at the first suggestion of each, and of those at one offset at the one that is
listed first. So findings in another order have the same outcome, errors included, if at each offset the same
one still comes first, and what else a finding says makes no difference.
-/

namespace AsyncActions

/-- The first of the findings whose first suggestion goes in at that offset. -/
def firstAt? (findings : List Finding) (offset : Nat) : Option Finding :=
  findings.find? fun x => x.fix?.any (·.offset = offset)

/-- The first suggestions of the findings make the same fixes one after the other. What else a finding says
may differ, and findings without suggestions may stand anywhere. -/
inductive SameFixes : List Finding → List Finding → Prop
  | nil : SameFixes [] []
  | skipLeft {x : Finding} {xs ys : List Finding} :
      x.suggestions = [] → SameFixes xs ys → SameFixes (x :: xs) ys
  | skipRight {y : Finding} {xs ys : List Finding} :
      y.suggestions = [] → SameFixes xs ys → SameFixes xs (y :: ys)
  | cons {x y : Finding} {s t : Suggestion} {more others : List Suggestion} {xs ys : List Finding} :
      x.suggestions = s :: more → y.suggestions = t :: others → s.fix = t.fix → SameFixes xs ys →
        SameFixes (x :: xs) (y :: ys)

namespace Fix

/-- Which fixes are applied is decided at each offset on its own. -/
lemma applied_congr {fixes others : List Fix}
    (h : ∀ offset, fixes.find? (·.offset = offset) = others.find? (·.offset = offset)) :
    applied fixes = applied others := by
  have : Std.Irrefl fun f g : Fix => f.offset < g.offset := ⟨fun f => Nat.lt_irrefl f.offset⟩
  have : Std.Antisymm fun f g : Fix => f.offset < g.offset :=
    ⟨fun f g hfg hgf => absurd hgf (Nat.lt_asymm hfg)⟩
  refine (applied_pairwise fixes).eq_of_mem_iff (applied_pairwise others) fun f => ?_
  rw [mem_applied, mem_applied, h]

/-- The outcome is decided at each offset on its own, also where it is an error. -/
lemma applyAll_congr (source : Bytes) {fixes others : List Fix}
    (h : ∀ offset, fixes.find? (·.offset = offset) = others.find? (·.offset = offset)) :
    applyAll source fixes = applyAll source others := by
  have hsame : sorted (firsts fixes) = sorted (firsts others) := applied_congr h
  rw [applyAll, applyAll, hsame]

end Fix

/-- At each offset the fix that counts is that of the first finding there. -/
lemma find?_chosenFixes (findings : List Finding) (offset : Nat) :
    (chosenFixes findings).find? (·.offset = offset) = (firstAt? findings offset).bind Finding.fix? := by
  rw [chosenFixes, List.find?_filterMap]
  rfl

lemma SameFixes.chosenFixes_eq {xs ys : List Finding} (h : SameFixes xs ys) :
    chosenFixes xs = chosenFixes ys := by
  have hnone {x : Finding} (hx : x.suggestions = []) : x.fix? = none := by rw [Finding.fix?, hx]; rfl
  induction h with
  | nil => rfl
  | skipLeft hx _ ih => rw [← ih, chosenFixes, List.filterMap_cons_none (hnone hx), chosenFixes]
  | skipRight hy _ ih => rw [ih, chosenFixes, chosenFixes, List.filterMap_cons_none (hnone hy)]
  | @cons x y s t _ _ xs ys hx hy hfix _ ih =>
    have hxfix : x.fix? = some s.fix := by rw [Finding.fix?, hx]; rfl
    have hyfix : y.fix? = some s.fix := by rw [Finding.fix?, hy, hfix]; rfl
    rw [chosenFixes, chosenFixes, List.filterMap_cons_some hxfix, List.filterMap_cons_some hyfix]
    exact congrArg _ ih

/-- Findings in whatever order have the same outcome, as long as for each offset the same finding comes first
there, and nothing of a finding counts but the fix of its first suggestion. The outcome is the new source with
the fixes that were applied, or the error. -/
theorem applySuggestions_congr (source : Bytes) (xs ys : List Finding) :
    ((∀ offset, firstAt? xs offset = firstAt? ys offset) →
        applySuggestions source xs = applySuggestions source ys) ∧
      (SameFixes xs ys → applySuggestions source xs = applySuggestions source ys) := by
  constructor
  · intro h
    refine Fix.applyAll_congr source fun offset => ?_
    rw [find?_chosenFixes, find?_chosenFixes, h]
  · intro h
    rw [applySuggestions, applySuggestions, h.chosenFixes_eq]

/-- Three findings, of which two are at one offset, in another order, and with a finding without suggestions
and another severity and suggestion. They have the same outcome on a source that holds all their offsets, and
the same error on one that does not. -/
theorem applySuggestions_congr_swapped :
    let suggest (offset : Nat) (text : String) : Suggestion :=
      ⟨"insert", "Insert text", offset, text, .after 0, .after offset⟩
    let finding (severity : String) (suggestions : List Suggestion) : Finding :=
      ⟨"rule", "Message", ⟨⟨.relative, ["a.js"]⟩, .after 0, .after 0, none, none, none⟩, none, severity,
        suggestions⟩
    let x := finding "error" [suggest 2 "c", suggest 1 "b"]
    let y := finding "error" [suggest 0 "é"]
    let z := finding "error" [suggest 2 "d"]
    let xs := [x, y, z]
    let ys := [y, x, z]
    let zs := [finding "info" [], finding "info" [suggest 2 "c"], y, z]
    (xs.Perm ys ∧ (∀ offset, firstAt? xs offset = firstAt? ys offset) ∧ SameFixes xs zs) ∧
      ∀ source, applySuggestions source ys = applySuggestions source zs := by
  intro suggest finding x y z xs ys zs
  have hfirst : ∀ offset, firstAt? xs offset = firstAt? ys offset := by
    intro offset
    by_cases h0 : 0 = offset
    · subst h0
      decide
    · by_cases h2 : 2 = offset
      · subst h2
        decide
      · simp [firstAt?, xs, ys, x, y, z, finding, suggest, Finding.fix?, h0, h2]
  have hsame : SameFixes xs zs :=
    .skipRight rfl (.cons rfl rfl rfl (.cons rfl rfl rfl (.cons rfl rfl rfl .nil)))
  refine ⟨⟨List.Perm.swap y x [z], hfirst, hsame⟩, fun source => ?_⟩
  rw [← (applySuggestions_congr source xs ys).1 hfirst, (applySuggestions_congr source xs zs).2 hsame]

end AsyncActions
