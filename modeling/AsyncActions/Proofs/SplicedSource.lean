import AsyncActions.Proofs.Splice
import Mathlib.Data.List.Forall2

/-!
# Reading a spliced source, and splicing it again

A stretch of the source into which no text goes is found again in the result, moved on by what was
put in before it. So fixes that were meant for the source can still be applied to the result, if they
are moved on in the same way.
-/

namespace AsyncActions

lemma Bytes.slice_of_le {bs : Bytes} {a b : Nat} (ha : a ≤ b) (hb : b ≤ bs.length) :
    bs.slice a b = (bs.take b).drop a := by
  have hclip (i : Nat) (hi : i ≤ bs.length) :
      (min (if (i : Int) < 0 then max ((i : Int) + bs.length) 0 else (i : Int)) bs.length).toNat = i := by
    rw [if_neg (by omega)]
    omega
  simp only [Bytes.slice, hclip a (by omega), hclip b hb]

lemma Bytes.slice_self {bs : Bytes} {a : Int} : bs.slice a a = [] := by
  simp only [Bytes.slice, List.drop_eq_nil_iff, List.length_take]
  omega

namespace Fix

/-- Where the byte at that offset stands in the result: after the text that goes before it. -/
def stand (fixes : List Fix) (offset : Nat) : Nat := place fixes offset + (textAt fixes offset).length

/-- The fix has the same text, and its offset is where the other's text stands in the result. -/
def Rebased (fixes : List Fix) (g g' : Fix) : Prop :=
  g'.offset = place fixes g.offset ∧ g'.text = g.text

lemma place_succ {fixes : List Fix} (hd : fixes.Pairwise (·.offset ≠ ·.offset)) (pos : Nat) :
    place fixes (pos + 1) = stand fixes pos + 1 := by
  have hs := insertedBefore_succ hd pos
  simp only [place, stand]
  omega

lemma place_mono (fixes : List Fix) {i j : Nat} (h : i ≤ j) : place fixes i ≤ place fixes j := by
  have := insertedBefore_mono fixes h
  simp only [place]
  omega

lemma place_le_stand (fixes : List Fix) (pos : Nat) : place fixes pos ≤ stand fixes pos :=
  Nat.le_add_right _ _

lemma stand_lt_place {fixes : List Fix} (hd : fixes.Pairwise (·.offset ≠ ·.offset)) {i j : Nat}
    (h : i < j) : stand fixes i < place fixes j := by
  have := place_mono fixes (show i + 1 ≤ j from h)
  rw [place_succ hd] at this
  exact this

lemma stand_eq_place {fixes : List Fix} {pos : Nat} (h : ∀ f ∈ fixes, f.offset ≠ pos) :
    stand fixes pos = place fixes pos := by
  rw [stand, textAt_eq_nil h, List.length_nil, Nat.add_zero]

lemma place_nil (pos : Nat) : place [] pos = pos := rfl

lemma weave_append (fixes : List Fix) (xs ys : Bytes) (pos : Nat) :
    weave fixes pos (xs ++ ys) = weave fixes pos xs ++ weave fixes (pos + xs.length) ys := by
  induction xs generalizing pos with
  | nil => rfl
  | cons b xs ih =>
    rw [List.cons_append, weave, weave, ih (pos + 1)]
    simp only [List.length_cons, List.append_assoc, List.cons_append]
    rw [Nat.add_right_comm, Nat.add_assoc]

lemma take_place {fixes : List Fix} (hd : fixes.Pairwise (·.offset ≠ ·.offset)) {source : Bytes}
    {cut : Nat} (hc : cut ≤ source.length) :
    (splice fixes source).take (place fixes cut) = weave fixes 0 (source.take cut) := by
  rw [splice_cut fixes source hc, List.take_left' (length_weave_take hd hc)]

lemma place_le_length {fixes : List Fix} (hd : fixes.Pairwise (·.offset ≠ ·.offset)) {source : Bytes}
    {cut : Nat} (hc : cut ≤ source.length) : place fixes cut ≤ (splice fixes source).length := by
  rw [splice_cut fixes source hc, List.length_append, length_weave_take hd hc]
  exact Nat.le_add_right _ _

/-- Bytes between which no text goes stand together in the result. -/
lemma slice_splice {fixes : List Fix} (hd : fixes.Pairwise (·.offset ≠ ·.offset)) {source : Bytes}
    {s e : Nat} (hse : s < e) (he : e ≤ source.length)
    (hclear : ∀ f ∈ fixes, f.offset ≤ s ∨ e ≤ f.offset) :
    (splice fixes source).slice (stand fixes s) (place fixes e) = source.slice s e := by
  have hl : (source.take s).length = s := by rw [List.length_take, Nat.min_eq_left (by omega)]
  have hcut : source.take e = source.take s ++ (source.take e).drop s := by
    rw [← List.take_append_drop s (source.take e), List.take_take, Nat.min_eq_left (by omega),
      List.drop_left' hl]
  have hlen : ((source.take e).drop s).length = e - s := by
    rw [List.length_drop, List.length_take, Nat.min_eq_left he]
  rw [Bytes.slice_of_le (Nat.le_of_lt (stand_lt_place hd hse)) (place_le_length hd he),
    Bytes.slice_of_le (Nat.le_of_lt hse) he, take_place hd he, hcut, weave_append, hl, Nat.zero_add,
    ← hcut, stand, ← List.drop_drop, List.drop_left' (length_weave_take hd (by omega))]
  cases hxs : (source.take e).drop s with
  | nil =>
    rw [hxs, List.length_nil] at hlen
    omega
  | cons b xs =>
    rw [hxs, List.length_cons] at hlen
    have hcopy : weave fixes (s + 1) xs = xs :=
      weave_of_clear fun f hf => by have := hclear f hf; omega
    rw [weave, hcopy, List.drop_left]

/-! ### Splicing again -/

lemma textAt_append {fixes others : List Fix} (hd : (fixes ++ others).Pairwise (·.offset ≠ ·.offset))
    (pos : Nat) : textAt (fixes ++ others) pos = textAt fixes pos ++ textAt others pos := by
  induction fixes with
  | nil => rfl
  | cons f fixes ih =>
    obtain ⟨hf, hd⟩ := List.pairwise_cons.mp hd
    rw [List.cons_append, textAt_cons, textAt_cons]
    by_cases h : f.offset = pos
    · have hnone : textAt others pos = [] :=
        textAt_eq_nil fun g hg he => hf g (List.mem_append_right _ hg) (h.trans he.symm)
      rw [if_pos h, if_pos h, hnone, List.append_nil]
    · rw [if_neg h, if_neg h, ih hd]

/-- Fixes at distinct offsets give the same texts in every order. -/
lemma textAt_congr {fixes others : List Fix} (hd : fixes.Pairwise (·.offset ≠ ·.offset))
    (hd' : others.Pairwise (·.offset ≠ ·.offset)) (h : ∀ f, f ∈ fixes ↔ f ∈ others) (pos : Nat) :
    textAt fixes pos = textAt others pos := by
  by_cases hex : ∃ f ∈ fixes, f.offset = pos
  · obtain ⟨f, hf, rfl⟩ := hex
    rw [textAt_offset hd hf, textAt_offset hd' ((h f).mp hf)]
  · have hnone : ∀ f ∈ fixes, f.offset ≠ pos := fun f hf he => hex ⟨f, hf, he⟩
    rw [textAt_eq_nil hnone, textAt_eq_nil fun f hf => hnone f ((h f).mpr hf)]

lemma place_cases {fixes : List Fix} (hd : fixes.Pairwise (·.offset ≠ ·.offset)) (i pos : Nat) :
    place fixes i < place fixes pos ∨ i = pos ∨ stand fixes pos < place fixes i := by
  rcases Nat.lt_trichotomy i pos with h | h | h
  · exact Or.inl (Nat.lt_of_le_of_lt (place_le_stand fixes i) (stand_lt_place hd h))
  · exact Or.inr (Or.inl h)
  · exact Or.inr (Or.inr (stand_lt_place hd h))

lemma textAt_rebased {fixes others others' : List Fix} (hd : fixes.Pairwise (·.offset ≠ ·.offset))
    (hapart : ∀ g ∈ others, ∀ f ∈ fixes, f.offset ≠ g.offset)
    (h : List.Forall₂ (Rebased fixes) others others') (pos : Nat) :
    textAt others' (stand fixes pos) = textAt others pos := by
  induction h with
  | nil => rfl
  | @cons g g' others others' hg _ ih =>
    have hbytes : g'.bytes = g.bytes := congrArg Utf8.encodeString hg.2
    have hiff : g'.offset = stand fixes pos ↔ g.offset = pos := by
      rw [hg.1]
      have hle := place_le_stand fixes pos
      constructor
      · intro he
        rcases place_cases hd g.offset pos with hlt | heq | hgt
        · omega
        · exact heq
        · omega
      · rintro rfl
        exact (stand_eq_place (hapart g List.mem_cons_self)).symm
    rw [textAt_cons, textAt_cons, hbytes, ih fun k hk => hapart k (List.mem_cons_of_mem _ hk)]
    simp only [hiff]

lemma spliceFrom_spliceFrom {fixes others others' : List Fix}
    (hd : (fixes ++ others).Pairwise (·.offset ≠ ·.offset))
    (h : List.Forall₂ (Rebased fixes) others others') (xs : Bytes) (pos : Nat) :
    spliceFrom others' (place fixes pos) (spliceFrom fixes pos xs) =
      spliceFrom (fixes ++ others) pos xs := by
  obtain ⟨hdf, -, hcross⟩ := List.pairwise_append.mp hd
  have hapart : ∀ g ∈ others, ∀ f ∈ fixes, f.offset ≠ g.offset := fun g hg f hf => hcross f hf g hg
  -- no rebased fix goes into a text that is already there
  have hcopy (pos : Nat) : weave others' (place fixes pos) (textAt fixes pos) = textAt fixes pos := by
    refine weave_of_clear fun g' hg' => ?_
    obtain ⟨g, hg, hrebased⟩ : ∃ g ∈ others, Rebased fixes g g' := by
      obtain ⟨i, hi, rfl⟩ := List.getElem_of_mem hg'
      obtain ⟨hlen, hall⟩ := List.forall₂_iff_get.mp h
      exact ⟨_, List.get_mem others ⟨i, hlen ▸ hi⟩, hall i (hlen ▸ hi) hi⟩
    rw [hrebased.1]
    rcases place_cases hdf g.offset pos with hlt | heq | hgt
    · exact Or.inl hlt
    · subst heq
      have hnone := textAt_eq_nil (hapart g hg)
      rw [hnone, List.length_nil]
      exact Or.inr (Nat.le_refl _)
    · exact Or.inr (Nat.le_of_lt hgt)
  induction xs generalizing pos with
  | nil =>
    have hsplit := spliceFrom_append others' (textAt fixes pos) [] (place fixes pos)
    rw [List.append_nil] at hsplit
    rw [spliceFrom, spliceFrom, hsplit, hcopy, spliceFrom, ← stand, textAt_rebased hdf hapart h,
      textAt_append hd]
  | cons b xs ih =>
    rw [spliceFrom, spliceFrom, spliceFrom_append, hcopy, ← stand, spliceFrom,
      textAt_rebased hdf hapart h, ← place_succ hdf, ih, textAt_append hd, List.append_assoc]

/-- Splicing again is splicing once with all fixes, if those that come later were rebased. -/
lemma splice_splice {fixes others others' : List Fix}
    (hd : (fixes ++ others).Pairwise (·.offset ≠ ·.offset))
    (h : List.Forall₂ (Rebased fixes) others others') (source : Bytes) :
    splice others' (splice fixes source) = splice (fixes ++ others) source := by
  have hzero : place fixes 0 = 0 := by rw [place, insertedBefore_zero]
  have hall := spliceFrom_spliceFrom hd h source 0
  rw [hzero] at hall
  exact hall

end Fix

end AsyncActions
