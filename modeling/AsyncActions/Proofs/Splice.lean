import AsyncActions.Edit
import Mathlib.Algebra.GroupWithZero.Nat
import Mathlib.Data.List.Basic
import Mathlib.Tactic.Common

/-!
# Fixes as one splice

Fixes are applied one after the other to a buffer that grows. `splice` is what that amounts to:
one walk over the source as it was, with the text of the first fix of each offset put before the
byte there. This file shows that the two agree, and says where each text stands in the result.
-/

namespace AsyncActions.Fix

/-- The text of the first fix of the list at that offset. -/
def textAt (fixes : List Fix) (offset : Nat) : Bytes :=
  match fixes.find? (·.offset = offset) with
  | some f => f.bytes
  | none => []

/-- One walk over bytes that start at offset `pos`: before each byte, and at the end, the text that
belongs there. -/
def spliceFrom (fixes : List Fix) : Nat → Bytes → Bytes
  | pos, [] => textAt fixes pos
  | pos, b :: rest => textAt fixes pos ++ b :: spliceFrom fixes (pos + 1) rest

/-- All texts put into the source at once, each at its offset in that source. -/
def splice (fixes : List Fix) (source : Bytes) : Bytes := spliceFrom fixes 0 source

/-- The walk without what stands at its end. -/
def weave (fixes : List Fix) : Nat → Bytes → Bytes
  | _, [] => []
  | pos, b :: rest => textAt fixes pos ++ b :: weave fixes (pos + 1) rest

/-- The fixes that count, by offset. -/
def applied (fixes : List Fix) : List Fix := sorted (firsts fixes)

/-- How many bytes the fixes put in before that offset. -/
def insertedBefore (fixes : List Fix) (offset : Nat) : Nat :=
  ((fixes.filter (·.offset < offset)).map (·.bytes.length)).sum

/-- Where the text of a fix at that offset starts in the result. -/
def place (fixes : List Fix) (offset : Nat) : Nat := offset + insertedBefore fixes offset

lemma textAt_cons (f : Fix) (fixes : List Fix) (pos : Nat) :
    textAt (f :: fixes) pos = if f.offset = pos then f.bytes else textAt fixes pos := by
  unfold textAt
  by_cases h : f.offset = pos
  · rw [List.find?_cons_of_pos (by simpa using h), if_pos h]
  · rw [List.find?_cons_of_neg (by simpa using h), if_neg h]

lemma textAt_eq_nil {fixes : List Fix} {pos : Nat} (h : ∀ f ∈ fixes, f.offset ≠ pos) :
    textAt fixes pos = [] := by
  have hnone : fixes.find? (·.offset = pos) = none :=
    List.find?_eq_none.mpr fun f hf => by simpa using h f hf
  rw [textAt, hnone]

/-- Among fixes at distinct offsets, each gives the text at its own. -/
lemma textAt_offset {fixes : List Fix} (hd : fixes.Pairwise (·.offset ≠ ·.offset)) {f : Fix}
    (hf : f ∈ fixes) : textAt fixes f.offset = f.bytes := by
  induction fixes with
  | nil => cases hf
  | cons g fixes ih =>
    obtain ⟨hg, hd⟩ := List.pairwise_cons.mp hd
    rw [textAt_cons]
    rcases List.mem_cons.mp hf with rfl | hf
    · rw [if_pos rfl]
    · rw [if_neg (hg f hf), ih hd hf]

lemma spliceFrom_append (fixes : List Fix) (xs ys : Bytes) (pos : Nat) :
    spliceFrom fixes pos (xs ++ ys) =
      weave fixes pos xs ++ spliceFrom fixes (pos + xs.length) ys := by
  induction xs generalizing pos with
  | nil => rfl
  | cons b xs ih =>
    rw [List.cons_append, spliceFrom, weave, ih (pos + 1)]
    simp only [List.length_cons, List.append_assoc, List.cons_append]
    rw [Nat.add_right_comm, Nat.add_assoc]

/-- Where no fix has its offset the walk copies. -/
lemma weave_of_clear {fixes : List Fix} {xs : Bytes} {pos : Nat}
    (h : ∀ f ∈ fixes, f.offset < pos ∨ pos + xs.length ≤ f.offset) : weave fixes pos xs = xs := by
  induction xs generalizing pos with
  | nil => rfl
  | cons b xs ih =>
    have hb : textAt fixes pos = [] := by
      refine textAt_eq_nil fun f hf he => ?_
      have := h f hf
      simp only [List.length_cons] at this
      omega
    rw [weave, hb, List.nil_append, ih]
    intro f hf
    have := h f hf
    simp only [List.length_cons] at this
    omega

lemma spliceFrom_congr {fixes fixes' : List Fix} (xs : Bytes) {pos : Nat}
    (h : ∀ i, pos ≤ i → textAt fixes i = textAt fixes' i) :
    spliceFrom fixes pos xs = spliceFrom fixes' pos xs := by
  induction xs generalizing pos with
  | nil => exact h pos (Nat.le_refl _)
  | cons b xs ih =>
    rw [spliceFrom, spliceFrom, h pos (Nat.le_refl _), ih fun i hi => h i (by omega)]

lemma splice_cut (fixes : List Fix) (source : Bytes) {cut : Nat} (hc : cut ≤ source.length) :
    splice fixes source =
      weave fixes 0 (source.take cut) ++ spliceFrom fixes cut (source.drop cut) := by
  have hl : (source.take cut).length = cut := by rw [List.length_take, Nat.min_eq_left hc]
  conv_lhs => rw [splice, ← List.take_append_drop cut source, spliceFrom_append, hl, Nat.zero_add]

lemma splice_nil (source : Bytes) : splice [] source = source := by
  rw [splice_cut [] source (Nat.le_refl _), List.take_length, List.drop_length,
    weave_of_clear (by simp), spliceFrom, textAt_eq_nil (by simp), List.append_nil]

/-- One more fix below all others: the part of the buffer before its offset is still that of the
source, and the rest moves on unchanged. -/
lemma insertInto_splice {source : Bytes} {fixes : List Fix} {f : Fix}
    (hb : f.offset ≤ source.length) (hf : ∀ g ∈ fixes, f.offset < g.offset) :
    insertInto (splice fixes source) f = .ok (splice (f :: fixes) source) := by
  have hl : (source.take f.offset).length = f.offset := by rw [List.length_take, Nat.min_eq_left hb]
  have hcopy : weave fixes 0 (source.take f.offset) = source.take f.offset :=
    weave_of_clear fun g hg => by have := hf g hg; omega
  have hcopy' : weave (f :: fixes) 0 (source.take f.offset) = source.take f.offset := by
    refine weave_of_clear fun g hg => ?_
    rcases List.mem_cons.mp hg with rfl | hg
    · omega
    · have := hf g hg
      omega
  have hnone : textAt fixes f.offset = [] := textAt_eq_nil fun g hg => Nat.ne_of_gt (hf g hg)
  have hrest : spliceFrom (f :: fixes) f.offset (source.drop f.offset) =
      f.bytes ++ spliceFrom fixes f.offset (source.drop f.offset) := by
    cases source.drop f.offset with
    | nil => rw [spliceFrom, spliceFrom, hnone, textAt_cons, if_pos rfl, List.append_nil]
    | cons b rest =>
      have hsame : spliceFrom (f :: fixes) (f.offset + 1) rest = spliceFrom fixes (f.offset + 1) rest :=
        spliceFrom_congr rest fun i hi => by rw [textAt_cons, if_neg (by omega)]
      rw [spliceFrom, spliceFrom, hnone, textAt_cons, if_pos rfl, List.nil_append, hsame]
  have hs := splice_cut fixes source hb
  rw [hcopy] at hs
  have hlen : ¬ (splice fixes source).length < f.offset := by
    rw [hs, List.length_append, hl]
    omega
  rw [insertInto, if_neg hlen, splice_cut (f :: fixes) source hb, hcopy', hrest, hs,
    List.take_left' hl, List.drop_left' hl, List.append_assoc]

/-- Applying fixes in falling order of their offsets gives the splice. -/
lemma foldlM_insertInto {source : Bytes} {fixes : List Fix}
    (hs : fixes.Pairwise (·.offset < ·.offset)) (hb : ∀ f ∈ fixes, f.offset ≤ source.length) :
    fixes.reverse.foldlM insertInto source = .ok (splice fixes source) := by
  induction fixes with
  | nil =>
    rw [splice_nil]
    rfl
  | cons f fixes ih =>
    obtain ⟨hf, hs⟩ := List.pairwise_cons.mp hs
    rw [List.reverse_cons, List.foldlM_append, ih hs fun g hg => hb g (List.mem_cons_of_mem _ hg)]
    have hstep := insertInto_splice (hb f List.mem_cons_self) hf
    simp only [List.foldlM_cons, List.foldlM_nil, bind, Except.bind, hstep, pure, Except.pure]

/-! ### The fixes that count -/

lemma mem_firsts {fixes : List Fix} {f : Fix} :
    f ∈ firsts fixes ↔ fixes.find? (·.offset = f.offset) = some f := by
  induction fixes with
  | nil => simp [firsts]
  | cons g fixes ih =>
    rw [firsts, List.mem_cons, List.mem_filter, ih]
    by_cases h : g.offset = f.offset
    · rw [List.find?_cons_of_pos (by simpa using h), Option.some.injEq]
      simp only [h, ne_eq, not_true_eq_false, decide_false, Bool.false_eq_true, and_false, or_false]
      exact eq_comm
    · have hne : f ≠ g := fun he => h (congrArg Fix.offset he.symm)
      have hne' : f.offset ≠ g.offset := fun he => h he.symm
      rw [List.find?_cons_of_neg (by simpa using h)]
      simp only [hne, hne', ne_eq, not_false_eq_true, decide_true, and_true, false_or]

lemma firsts_pairwise (fixes : List Fix) : (firsts fixes).Pairwise (·.offset ≠ ·.offset) := by
  induction fixes with
  | nil => exact List.Pairwise.nil
  | cons f fixes ih =>
    refine List.pairwise_cons.mpr ⟨fun g hg => ?_, ih.filter _⟩
    have h := (List.mem_filter.mp hg).2
    exact fun he => by simp [he] at h

lemma mem_applied {fixes : List Fix} {f : Fix} :
    f ∈ applied fixes ↔ fixes.find? (·.offset = f.offset) = some f := by
  rw [applied, sorted, List.mem_mergeSort, mem_firsts]

/-- The fixes that count are in strictly rising order of their offsets. -/
lemma applied_pairwise (fixes : List Fix) : (applied fixes).Pairwise (·.offset < ·.offset) := by
  have hle : (applied fixes).Pairwise fun f g => decide (f.offset ≤ g.offset) = true :=
    List.pairwise_mergeSort (fun f g k hf hg => by simp at *; omega) (fun f g => by simp; omega) _
  have hne : (applied fixes).Pairwise (·.offset ≠ ·.offset) :=
    (List.mergeSort_perm _ _).symm.pairwise (firsts_pairwise fixes) Ne.symm
  refine (hle.and hne).imp fun h => ?_
  have := of_decide_eq_true h.1
  omega

lemma applied_distinct (fixes : List Fix) : (applied fixes).Pairwise (·.offset ≠ ·.offset) :=
  (applied_pairwise fixes).imp fun h => Nat.ne_of_lt h

lemma mem_of_mem_applied {fixes : List Fix} {f : Fix} (h : f ∈ applied fixes) : f ∈ fixes :=
  List.mem_of_find?_eq_some (mem_applied.mp h)

lemma textAt_applied (fixes : List Fix) (pos : Nat) : textAt (applied fixes) pos = textAt fixes pos := by
  cases h : fixes.find? (·.offset = pos) with
  | none =>
    have hp := List.find?_eq_none.mp h
    rw [textAt_eq_nil fun f hf => by simpa using hp f (mem_of_mem_applied hf), textAt, h]
  | some f =>
    have hf : f.offset = pos := by simpa using List.find?_some h
    subst hf
    rw [textAt_offset (applied_distinct fixes) (mem_applied.mpr h), textAt, h]

/-- Applying fixes gives the splice, if none lies past the end. -/
lemma applyAll_eq {source : Bytes} {fixes : List Fix} (hb : ∀ f ∈ fixes, f.offset ≤ source.length) :
    applyAll source fixes = .ok ⟨splice fixes source, applied fixes⟩ := by
  have hfold : (applied fixes).reverse.foldlM insertInto source = .ok (splice (applied fixes) source) :=
    foldlM_insertInto (applied_pairwise fixes) fun f hf => hb f (mem_of_mem_applied hf)
  have hsame : splice (applied fixes) source = splice fixes source :=
    spliceFrom_congr source fun i _ => textAt_applied fixes i
  rw [hsame] at hfold
  exact congrArg (Except.map fun result => Edited.mk result (applied fixes)) hfold

/-- Each fix is applied or passed over, never both. -/
lemma length_repeats (seen : List Nat) (fixes : List Fix) :
    (repeats seen fixes).length +
      ((firsts fixes).filter fun f => !seen.contains f.offset).length = fixes.length := by
  induction fixes generalizing seen with
  | nil => rfl
  | cons f fixes ih =>
    rw [repeats, firsts]
    by_cases hf : seen.contains f.offset
    · -- an offset already taken takes nothing more
      have hsame : ((firsts fixes).filter (·.offset ≠ f.offset)).filter
          (fun g => !seen.contains g.offset) =
          (firsts fixes).filter fun g => !seen.contains g.offset := by
        rw [List.filter_filter]
        refine List.filter_congr fun g _ => ?_
        by_cases hg : g.offset = f.offset
        · rw [hg, hf]
          rfl
        · simp [hg]
      rw [if_pos hf, List.filter_cons_of_neg (by simp only [hf]; simp), hsame]
      have := ih seen
      simp only [List.length_cons]
      omega
    · have hsame : ((firsts fixes).filter (·.offset ≠ f.offset)).filter
          (fun g => !seen.contains g.offset) =
          (firsts fixes).filter fun g => !(f.offset :: seen).contains g.offset := by
        rw [List.filter_filter]
        refine List.filter_congr fun g _ => ?_
        by_cases hg : g.offset = f.offset <;> simp [hg]
      rw [if_neg hf, List.filter_cons_of_pos (by simp only [hf]; simp), hsame]
      have := ih (f.offset :: seen)
      simp only [List.length_cons]
      omega

lemma length_applyLog (fixes : List Fix) :
    (applyLog fixes).length + (applied fixes).length = fixes.length := by
  have h := length_repeats [] fixes
  have hall : (firsts fixes).filter (fun f => !([] : List Nat).contains f.offset) = firsts fixes :=
    List.filter_eq_self.mpr fun f _ => rfl
  rw [hall] at h
  rw [applyLog, List.length_map, applied, sorted, List.length_mergeSort]
  exact h

/-! ### Where the texts stand -/

lemma insertedBefore_cons (f : Fix) (fixes : List Fix) (pos : Nat) :
    insertedBefore (f :: fixes) pos =
      (if f.offset < pos then f.bytes.length else 0) + insertedBefore fixes pos := by
  unfold insertedBefore
  by_cases h : f.offset < pos
  · rw [List.filter_cons_of_pos (by simpa using h), if_pos h, List.map_cons, List.sum_cons]
  · rw [List.filter_cons_of_neg (by simpa using h), if_neg h, Nat.zero_add]

lemma insertedBefore_mono (fixes : List Fix) {i j : Nat} (h : i ≤ j) :
    insertedBefore fixes i ≤ insertedBefore fixes j := by
  induction fixes with
  | nil => exact Nat.le_refl _
  | cons f fixes ih =>
    rw [insertedBefore_cons, insertedBefore_cons]
    by_cases hi : f.offset < i
    · rw [if_pos hi, if_pos (by omega)]
      omega
    · rw [if_neg hi]
      omega

/-- Past one more offset, the text at that offset is in too. -/
lemma insertedBefore_succ {fixes : List Fix} (hd : fixes.Pairwise (·.offset ≠ ·.offset)) (pos : Nat) :
    insertedBefore fixes (pos + 1) = insertedBefore fixes pos + (textAt fixes pos).length := by
  induction fixes with
  | nil => rfl
  | cons f fixes ih =>
    obtain ⟨hf, hd⟩ := List.pairwise_cons.mp hd
    have ih := ih hd
    rw [insertedBefore_cons, insertedBefore_cons, textAt_cons]
    by_cases he : f.offset = pos
    · have hnone : textAt fixes pos = [] := textAt_eq_nil fun g hg hp => hf g hg (he.trans hp.symm)
      rw [hnone, List.length_nil] at ih
      rw [if_pos he, if_pos (by omega), if_neg (by omega)]
      omega
    · rw [if_neg he]
      by_cases hlt : f.offset < pos
      · rw [if_pos hlt, if_pos (by omega)]
        omega
      · rw [if_neg hlt, if_neg (by omega)]
        omega

lemma insertedBefore_zero (fixes : List Fix) : insertedBefore fixes 0 = 0 := by
  simp [insertedBefore]

lemma length_weave {fixes : List Fix} (hd : fixes.Pairwise (·.offset ≠ ·.offset)) (xs : Bytes)
    (pos : Nat) :
    place fixes pos + (weave fixes pos xs).length = place fixes (pos + xs.length) := by
  induction xs generalizing pos with
  | nil => rfl
  | cons b xs ih =>
    have h := ih (pos + 1)
    have hs := insertedBefore_succ hd pos
    rw [weave]
    simp only [place, List.length_append, List.length_cons, ← Nat.add_assoc,
      Nat.add_right_comm] at h ⊢
    omega

lemma length_spliceFrom {fixes : List Fix} (hd : fixes.Pairwise (·.offset ≠ ·.offset)) (xs : Bytes)
    (pos : Nat) :
    place fixes pos + (spliceFrom fixes pos xs).length + 1 = place fixes (pos + xs.length + 1) := by
  have h := length_weave hd xs pos
  have hs := insertedBefore_succ hd (pos + xs.length)
  have ha := congrArg List.length (spliceFrom_append fixes xs [] pos)
  rw [List.append_nil, spliceFrom, List.length_append] at ha
  simp only [place] at h ⊢
  omega

lemma length_weave_take {fixes : List Fix} (hd : fixes.Pairwise (·.offset ≠ ·.offset))
    {source : Bytes} {cut : Nat} (hc : cut ≤ source.length) :
    (weave fixes 0 (source.take cut)).length = place fixes cut := by
  have h := length_weave hd (source.take cut) 0
  rw [List.length_take, Nat.min_eq_left hc, Nat.zero_add] at h
  rw [← h, place, insertedBefore_zero]
  omega

lemma drop_place {fixes : List Fix} (hd : fixes.Pairwise (·.offset ≠ ·.offset))
    {source : Bytes} {cut : Nat} (hc : cut ≤ source.length) :
    (splice fixes source).drop (place fixes cut) = spliceFrom fixes cut (source.drop cut) := by
  rw [splice_cut fixes source hc, List.drop_left' (length_weave_take hd hc)]

lemma textAt_prefix_spliceFrom (fixes : List Fix) (pos : Nat) (xs : Bytes) :
    textAt fixes pos <+: spliceFrom fixes pos xs := by
  cases xs with
  | nil => exact List.prefix_refl _
  | cons b xs => exact List.prefix_append _ _

/-- The stretches of the result that the texts take up, each as its start and its length. -/
def stretches (fixes : List Fix) : List (Nat × Nat) :=
  fixes.map fun f => (place fixes f.offset, f.bytes.length)

end AsyncActions.Fix

namespace AsyncActions

/-- The position lies in one of the stretches. -/
def covered (stretches : List (Nat × Nat)) (i : Nat) : Bool :=
  stretches.any fun s => s.1 ≤ i && i < s.1 + s.2

/-- The bytes that lie in none of the stretches, if the first byte has position `pos`. -/
def Bytes.without (stretches : List (Nat × Nat)) (bs : Bytes) (pos : Nat) : Bytes :=
  ((bs.zipIdx pos).filter fun p => !covered stretches p.2).map (·.1)

namespace Bytes

lemma without_append (stretches : List (Nat × Nat)) (xs ys : Bytes) (pos : Nat) :
    (xs ++ ys).without stretches pos =
      xs.without stretches pos ++ ys.without stretches (pos + xs.length) := by
  rw [without, List.zipIdx_append, List.filter_append, List.map_append]
  rfl

lemma without_cons (stretches : List (Nat × Nat)) (b : UInt8) (xs : Bytes) (pos : Nat) :
    without stretches (b :: xs) pos =
      (if covered stretches pos then [] else [b]) ++ xs.without stretches (pos + 1) := by
  rw [without, List.zipIdx_cons]
  by_cases h : covered stretches pos
  · rw [List.filter_cons_of_neg (by simpa using h), if_pos h]
    rfl
  · rw [List.filter_cons_of_pos (by simpa using h), if_neg h]
    rfl

lemma without_of_covered {stretches : List (Nat × Nat)} {xs : Bytes} {pos : Nat}
    (h : ∀ i, pos ≤ i → i < pos + xs.length → covered stretches i = true) :
    xs.without stretches pos = [] := by
  induction xs generalizing pos with
  | nil => rfl
  | cons b xs ih =>
    simp only [List.length_cons] at h
    rw [without_cons, if_pos (h pos (Nat.le_refl _) (by omega)), List.nil_append]
    exact ih fun i hi hl => h i (by omega) (by omega)

end Bytes

namespace Fix

lemma covered_text {fixes : List Fix} (hd : fixes.Pairwise (·.offset ≠ ·.offset)) {pos i : Nat}
    (hi : place fixes pos ≤ i) (hl : i < place fixes pos + (textAt fixes pos).length) :
    covered (stretches fixes) i = true := by
  cases h : fixes.find? (·.offset = pos) with
  | none =>
    simp only [textAt, h, List.length_nil] at hl
    omega
  | some f =>
    have hf : f.offset = pos := by simpa using List.find?_some h
    have hmem := List.mem_of_find?_eq_some h
    subst hf
    rw [textAt_offset hd hmem] at hl
    refine List.any_eq_true.mpr ⟨_, List.mem_map_of_mem hmem, ?_⟩
    simp [hi, hl]

/-- A byte of the source is in no stretch: the texts at smaller offsets end before it, and those at
larger ones start after it. -/
lemma not_covered_byte {fixes : List Fix} (hd : fixes.Pairwise (·.offset ≠ ·.offset)) (pos : Nat) :
    covered (stretches fixes) (place fixes pos + (textAt fixes pos).length) = false := by
  have hs := insertedBefore_succ hd pos
  refine List.any_eq_false.mpr fun s hmem => ?_
  obtain ⟨f, hf, rfl⟩ := List.mem_map.mp hmem
  have hsf := insertedBefore_succ hd f.offset
  rw [textAt_offset hd hf] at hsf
  intro h
  obtain ⟨hstart, hend⟩ := (Bool.and_eq_true _ _).mp h
  have hstart := of_decide_eq_true hstart
  have hend := of_decide_eq_true hend
  simp only [place] at hstart hend
  by_cases hle : f.offset ≤ pos
  · have := insertedBefore_mono fixes (show f.offset + 1 ≤ pos + 1 by omega)
    omega
  · have := insertedBefore_mono fixes (show pos + 1 ≤ f.offset by omega)
    omega

lemma without_spliceFrom {fixes : List Fix} (hd : fixes.Pairwise (·.offset ≠ ·.offset)) (xs : Bytes)
    (pos : Nat) :
    (spliceFrom fixes pos xs).without (stretches fixes) (place fixes pos) = xs := by
  have htext (pos : Nat) : (textAt fixes pos).without (stretches fixes) (place fixes pos) = [] :=
    Bytes.without_of_covered fun i hi hl => covered_text hd hi hl
  induction xs generalizing pos with
  | nil => exact htext pos
  | cons b xs ih =>
    have hs := insertedBefore_succ hd pos
    have hnext : place fixes pos + (textAt fixes pos).length + 1 = place fixes (pos + 1) := by
      simp only [place]
      omega
    rw [spliceFrom, Bytes.without_append, htext, List.nil_append, Bytes.without_cons,
      not_covered_byte hd, if_neg Bool.false_ne_true, hnext, ih (pos + 1)]
    rfl

/-- Applying fixes is putting all texts in at once, each at its offset in the source as it was. At
each offset the first fix of the list counts, and only it; its text stands after all texts of
smaller offsets; without the texts the source is back; and each fix that does not count leaves one
record. -/
theorem applyAll_eq_splice (source : Bytes) (fixes : List Fix)
    (hb : ∀ f ∈ fixes, f.offset ≤ source.length) :
    ∃ edited, applyAll source fixes = .ok edited ∧ edited.source = splice fixes source ∧
      (∀ f, f ∈ edited.applied ↔ fixes.find? (·.offset = f.offset) = some f) ∧
      edited.applied.Pairwise (·.offset < ·.offset) ∧
      (∀ f ∈ edited.applied, f.bytes <+: edited.source.drop (place edited.applied f.offset)) ∧
      edited.source.without (stretches edited.applied) 0 = source ∧
      (applyLog fixes).length = fixes.length - edited.applied.length ∧
      edited.applied.length ≤ fixes.length := by
  have hd := applied_distinct fixes
  have hsame : splice fixes source = splice (applied fixes) source :=
    spliceFrom_congr source fun i _ => (textAt_applied fixes i).symm
  have hcount := length_applyLog fixes
  refine ⟨_, applyAll_eq hb, rfl, fun f => mem_applied, applied_pairwise fixes, ?_, ?_,
    by dsimp only; omega, by dsimp only; omega⟩
  · intro f hf
    have h := textAt_prefix_spliceFrom (applied fixes) f.offset (source.drop f.offset)
    rw [textAt_offset hd hf, ← drop_place hd (hb f (mem_of_mem_applied hf)), ← hsame] at h
    exact h
  · have h := without_spliceFrom hd source 0
    rw [place, insertedBefore_zero] at h
    exact hsame ▸ h

/-- Three fixes out of order, two of them at the end of the source. -/
theorem applyAll_eq_splice_repeated :
    let fix (offset : Nat) (text : String) : Fix := ⟨offset, text, .after 0, .after offset⟩
    let fixes := [fix 2 "c", fix 0 "é", fix 2 "d"]
    (∀ f ∈ fixes, f.offset ≤ [97, 98].length) ∧
      ∃ edited, applyAll [97, 98] fixes = .ok edited ∧
        edited.source = [0xC3, 0xA9, 97, 98, 99] ∧ (applyLog fixes).length = 3 - 2 := by
  intro fix fixes
  have hb : ∀ f ∈ fixes, f.offset ≤ [97, 98].length := by decide
  obtain ⟨edited, hok, hsource, -⟩ := applyAll_eq_splice [97, 98] fixes hb
  refine ⟨hb, edited, hok, ?_, by decide⟩
  rw [hsource]
  decide

end Fix

end AsyncActions
