import AsyncActions.Proofs.SplicedSource

/-!
# Fixes applied in turn

Fixes that are applied move the places of those that are still to come. If these are corrected by the bytes
that went in before them, it makes no difference in which batches the fixes are applied: the result is that of
applying all at once.
-/

namespace AsyncActions.Fix

/-- The fix as it stands once others were applied: the bytes that they put in before it move it on. -/
def after (done : List Fix) (f : Fix) : Fix := { f with offset := f.offset + insertedBefore done f.offset }

/-- Apply fixes batch after batch. Each batch moves the fixes that are still to come. -/
def applyInTurn (source : Bytes) : List (List Fix) → Except EditError Bytes
  | [] => .ok source
  | batch :: rest => do
    let edited ← applyAll source batch
    applyInTurn edited.source (rest.map (·.map (after batch)))
termination_by batches => batches.length

/-! ### One batch -/

section

variable {fixes others : List Fix} {source : Bytes}

lemma rebased_after (fixes : List Fix) (f : Fix) : Rebased fixes f (after fixes f) := ⟨rfl, rfl⟩

/-- Fixes that are moved on stay apart. -/
lemma distinct_after (hd : fixes.Pairwise (·.offset ≠ ·.offset))
    (ho : others.Pairwise (·.offset ≠ ·.offset)) :
    (others.map (after fixes)).Pairwise (·.offset ≠ ·.offset) := by
  refine List.pairwise_map.mpr (ho.imp fun {f g} hne he => ?_)
  have he : place fixes f.offset = place fixes g.offset := he
  have hle := place_le_stand fixes g.offset
  rcases place_cases hd f.offset g.offset with hlt | heq | hgt
  · omega
  · exact hne heq
  · omega

lemma after_le_length (hd : fixes.Pairwise (·.offset ≠ ·.offset))
    (hb : ∀ f ∈ others, f.offset ≤ source.length) :
    ∀ f ∈ others.map (after fixes), f.offset ≤ (splice fixes source).length :=
  List.forall_mem_map.mpr fun f hf => place_le_length hd (hb f hf)

/-- What moved is applied to the new source as if all had been applied to the old one. -/
lemma splice_map_after (hd : (fixes ++ others).Pairwise (·.offset ≠ ·.offset)) (source : Bytes) :
    splice (others.map (after fixes)) (splice fixes source) = splice (fixes ++ others) source := by
  refine splice_splice hd ?_ source
  exact List.forall₂_map_right_iff.mpr (List.forall₂_same.mpr fun f _ => rebased_after fixes f)

/-- The order of fixes at distinct offsets makes no difference. -/
lemma splice_perm (h : fixes.Perm others) (hd : fixes.Pairwise (·.offset ≠ ·.offset)) (source : Bytes) :
    splice fixes source = splice others source := by
  have ho : others.Pairwise (·.offset ≠ ·.offset) := h.pairwise hd Ne.symm
  exact spliceFrom_congr source fun i _ => textAt_congr hd ho (fun _ => h.mem_iff) i

end

/-! ### All batches -/

lemma applyInTurn_eq {source : Bytes} {batches : List (List Fix)}
    (hd : batches.flatten.Pairwise (·.offset ≠ ·.offset))
    (hb : ∀ f ∈ batches.flatten, f.offset ≤ source.length) :
    applyInTurn source batches = .ok (splice batches.flatten source) := by
  -- the batches to come are not a part of the list but a list that was moved, so the induction is on how many
  induction hn : batches.length generalizing source batches with
  | zero => rw [List.eq_nil_of_length_eq_zero hn, applyInTurn, List.flatten_nil, splice_nil]
  | succ n ih =>
    obtain ⟨batch, rest, rfl⟩ := List.exists_cons_of_length_eq_add_one hn
    rw [List.flatten_cons] at hd hb ⊢
    obtain ⟨hbatch, hrest, -⟩ := List.pairwise_append.mp hd
    obtain ⟨hinBatch, hinRest⟩ := List.forall_mem_append.mp hb
    have hmoved : (rest.map (·.map (after batch))).flatten = rest.flatten.map (after batch) :=
      List.map_flatten.symm
    have hlength : (rest.map (·.map (after batch))).length = n := by
      rw [List.length_map]
      exact Nat.succ.inj hn
    have hnext := ih (hmoved ▸ distinct_after hbatch hrest) (hmoved ▸ after_le_length hbatch hinRest) hlength
    rw [hmoved, splice_map_after hd] at hnext
    rw [applyInTurn, applyAll_eq hinBatch]
    exact hnext

/-- Fixes at distinct offsets may be applied in any batches and in any order, if each batch moves the fixes that
are still to come by the bytes that it put in before them. The result is that of applying all at once. So it is
with two batches, and with as many batches as there are fixes. -/
theorem applyAll_in_turn (source : Bytes) (fixes : List Fix) (hd : fixes.Pairwise (·.offset ≠ ·.offset))
    (hb : ∀ f ∈ fixes, f.offset ≤ source.length) :
    ∃ edited, applyAll source fixes = .ok edited ∧
      (∀ early late, (early ++ late).Perm fixes → ∃ both once twice,
        applyAll source (early ++ late) = .ok both ∧ both.source = edited.source ∧
        applyAll source early = .ok once ∧
        applyAll once.source (late.map (after early)) = .ok twice ∧ twice.source = edited.source) ∧
      ∀ batches, batches.flatten.Perm fixes → applyInTurn source batches = .ok edited.source := by
  have hdistinct {others : List Fix} (h : others.Perm fixes) : others.Pairwise (·.offset ≠ ·.offset) :=
    h.symm.pairwise hd Ne.symm
  have hin {others : List Fix} (h : others.Perm fixes) : ∀ f ∈ others, f.offset ≤ source.length :=
    fun f hf => hb f (h.mem_iff.mp hf)
  refine ⟨_, applyAll_eq hb, fun early late h => ?_, fun batches h => ?_⟩
  · obtain ⟨hearly, -, -⟩ := List.pairwise_append.mp (hdistinct h)
    obtain ⟨hinEarly, hinLate⟩ := List.forall_mem_append.mp (hin h)
    refine ⟨_, _, _, applyAll_eq (hin h), splice_perm h (hdistinct h) source, applyAll_eq hinEarly,
      applyAll_eq (after_le_length hearly hinLate), ?_⟩
    exact (splice_map_after (hdistinct h) source).trans (splice_perm h (hdistinct h) source)
  · rw [applyInTurn_eq (hdistinct h) (hin h), splice_perm h (hdistinct h)]

/-- Three fixes one by one. The second puts two bytes before the other two, and the last puts in none. -/
theorem applyAll_in_turn_one_by_one :
    let fix (offset : Nat) (text : String) : Fix := ⟨offset, text, .after 0, .after offset⟩
    let fixes := [fix 0 "é", fix 1 "", fix 2 "c"]
    (fixes.Pairwise (·.offset ≠ ·.offset) ∧ ∀ f ∈ fixes, f.offset ≤ [97, 98].length) ∧
      applyInTurn [97, 98] [[fix 2 "c"], [fix 0 "é"], [fix 1 ""]] = .ok [0xC3, 0xA9, 97, 98, 99] := by
  intro fix fixes
  have hd : fixes.Pairwise (·.offset ≠ ·.offset) := by decide
  have hb : ∀ f ∈ fixes, f.offset ≤ [97, 98].length := by decide
  obtain ⟨edited, hall, -, hturn⟩ := applyAll_in_turn [97, 98] fixes hd hb
  have hsource : edited.source = [0xC3, 0xA9, 97, 98, 99] := by
    rw [applyAll_eq hb] at hall
    rw [← Except.ok.inj hall]
    decide
  refine ⟨⟨hd, hb⟩, ?_⟩
  rw [hturn _ (by decide), hsource]

end AsyncActions.Fix
