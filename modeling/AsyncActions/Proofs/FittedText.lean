import AsyncActions.Terminal.Line
import Mathlib.Algebra.BigOperators.Group.List.Basic
import Mathlib.Algebra.GroupWithZero.Nat
import Mathlib.Data.List.Basic
import Mathlib.Tactic.Common

/-!
# Text that is fitted to a width

A line that is fitted to a width is itself with blanks after it, or a beginning of itself. Which of them
it is depends on its cells. Of steady text each sign takes its own cells, so that they can be counted
piece by piece.
-/

namespace AsyncActions.Terminal

/-- The line is a beginning of what is to be shown, with blanks after it. -/
def Begins (whole line : List Char) : Prop := ∃ start gap, start <+: whole ∧ line = start ++ List.replicate gap ' '

/-- Text without the signs that change how many cells their neighbours take. -/
def Steady (cs : List Char) : Prop := joiner ∉ cs ∧ pictureSelector ∉ cs

instance (cs : List Char) : Decidable (Steady cs) := inferInstanceAs (Decidable (_ ∧ _))

section

variable {cs ds whole line : List Char}

lemma begins_of_isPrefix (h : line <+: whole) : Begins whole line := ⟨line, 0, h, by simp⟩

lemma begins_append_blanks (cs : List Char) (n : Nat) : Begins cs (cs ++ List.replicate n ' ') :=
  ⟨cs, n, List.prefix_refl _, rfl⟩

lemma Steady.of_subset (h : Steady cs) (hsub : ds ⊆ cs) : Steady ds :=
  ⟨fun hd => h.1 (hsub hd), fun hd => h.2 (hsub hd)⟩

lemma steady_append : Steady (cs ++ ds) ↔ Steady cs ∧ Steady ds := by
  unfold Steady
  simp only [List.mem_append]
  tauto

lemma steady_replicate {c : Char} (h : Steady [c]) (n : Nat) : Steady (List.replicate n c) :=
  h.of_subset fun d hd => by rw [List.eq_of_mem_replicate hd]; exact List.mem_singleton_self c

lemma Steady.begins (h : Steady whole) (hline : Begins whole line) : Steady line := by
  obtain ⟨start, gap, hstart, rfl⟩ := hline
  exact steady_append.mpr ⟨h.of_subset hstart.subset, steady_replicate (by decide) gap⟩

/-! ### Cells -/

lemma cellWidth_of_isPlain {c : Char} (h : isPlain c = true) : cellWidth c = 1 := by
  rw [cellWidth, if_pos h]

lemma Steady.cellsAfter (h : Steady cs) (last : Option Char) :
    Terminal.cellsAfter last false cs = (cs.map cellWidth).sum := by
  induction cs generalizing last with
  | nil => rfl
  | cons c cs ih =>
    have hrest := h.of_subset (List.subset_cons_self c cs)
    have hjoiner : c ≠ joiner := fun he => h.1 (he ▸ List.mem_cons_self)
    have hselector : c ≠ pictureSelector := fun he => h.2 (he ▸ List.mem_cons_self)
    rw [Terminal.cellsAfter, if_neg (by decide), if_neg hjoiner, if_neg hselector, List.map_cons, List.sum_cons]
    split
    · next hzero => rw [ih hrest, hzero, Nat.zero_add]
    · rw [ih hrest]

/-- The cells of steady text are those of its signs. -/
lemma Steady.cells (h : Steady cs) : Terminal.cells cs = (cs.map cellWidth).sum := by
  unfold Terminal.cells
  split
  · next hplain =>
    have hone : cs.map cellWidth = List.replicate cs.length 1 :=
      List.map_eq_replicate_iff.mpr fun c hc => cellWidth_of_isPlain (List.all_eq_true.mp hplain c hc)
    rw [hone, List.sum_replicate_nat, Nat.mul_one]
  · exact h.cellsAfter none

lemma cells_append (h : Steady (cs ++ ds)) : cells (cs ++ ds) = cells cs + cells ds := by
  obtain ⟨hcs, hds⟩ := steady_append.mp h
  rw [h.cells, hcs.cells, hds.cells, List.map_append, List.sum_append]

lemma cells_replicate {c : Char} (hsteady : Steady [c]) (hone : cellWidth c = 1) (n : Nat) :
    cells (List.replicate n c) = n := by
  rw [(steady_replicate hsteady n).cells, List.map_replicate, hone, List.sum_replicate_nat, Nat.mul_one]

lemma cells_blanks (n : Nat) : cells (List.replicate n ' ') = n := cells_replicate (by decide) (by decide) n

lemma Steady.cells_le_of_isPrefix (h : Steady cs) (hds : ds <+: cs) : Terminal.cells ds ≤ Terminal.cells cs := by
  obtain ⟨rest, rfl⟩ := hds
  rw [cells_append h]
  exact Nat.le_add_right _ _

namespace Cluster

/-- The clusters of a text are pieces of it. -/
lemma flatMap_after (known : List Cluster) (last : Option Char) (joined : Bool) (cs : List Char) :
    (after known last joined cs).flatMap text = known.reverse.flatMap text ++ cs := by
  induction cs generalizing known last joined with
  | nil => simp [after]
  | cons c cs ih =>
    cases known with
    | nil =>
      rw [after]
      split <;> simp [ih, single]
    | cons k ks =>
      rw [after]
      repeat' split
      all_goals simp [ih, single, add]

/-- Of steady text each cluster takes the cells of its signs. -/
lemma cells_of_mem_after {known : List Cluster} {last : Option Char} (h : Steady cs)
    (hknown : ∀ k ∈ known, k.cells = (k.text.map cellWidth).sum) :
    ∀ k ∈ after known last false cs, k.cells = (k.text.map cellWidth).sum := by
  induction cs generalizing known last with
  | nil => simpa [after] using hknown
  | cons c cs ih =>
    have hrest := h.of_subset (List.subset_cons_self c cs)
    have hjoiner : c ≠ joiner := fun he => h.1 (he ▸ List.mem_cons_self)
    have hselector : c ≠ pictureSelector := fun he => h.2 (he ▸ List.mem_cons_self)
    have hsingle : (single c).cells = ((single c).text.map cellWidth).sum := by simp [single]
    cases known with
    | nil =>
      rw [after, if_neg (by simp [hjoiner, hselector])]
      exact ih hrest (List.forall_mem_singleton.mpr hsingle)
    | cons k ks =>
      obtain ⟨hk, hks⟩ := List.forall_mem_cons.mp hknown
      rw [after, if_neg (by decide), if_neg hjoiner, if_neg hselector]
      split
      · next hzero => exact ih hrest (List.forall_mem_cons.mpr ⟨by simp [add, hk, hzero], hks⟩)
      · exact ih hrest (List.forall_mem_cons.mpr ⟨hsingle, hknown⟩)

end Cluster

lemma flatMap_clusters (cs : List Char) : (clusters cs).flatMap Cluster.text = cs :=
  Cluster.flatMap_after [] none false cs

/-! ### Cuts -/

lemma begins_takeCells (n : Nat) (ks : List Cluster) : Begins (ks.flatMap Cluster.text) (takeCells n ks) := by
  induction ks generalizing n with
  | nil => exact begins_of_isPrefix (List.prefix_refl _)
  | cons k ks ih =>
    rw [takeCells, List.flatMap_cons]
    split
    · exact begins_of_isPrefix List.nil_prefix
    · split
      · obtain ⟨start, gap, hstart, hline⟩ := ih (n - k.cells)
        exact ⟨k.text ++ start, gap, List.prefix_append_right_inj _ |>.mpr hstart, by rw [hline, List.append_assoc]⟩
      · exact ⟨[], 1, List.nil_prefix, rfl⟩

lemma sum_takeCells_le {n : Nat} {ks : List Cluster} (h : ∀ k ∈ ks, k.cells = (k.text.map cellWidth).sum) :
    ((takeCells n ks).map cellWidth).sum ≤ n := by
  induction ks generalizing n with
  | nil => simp [takeCells]
  | cons k ks ih =>
    obtain ⟨hk, hks⟩ := List.forall_mem_cons.mp h
    rw [takeCells]
    split
    · simp
    · split
      · have hrest := ih (n := n - k.cells) hks
        rw [List.map_append, List.sum_append, ← hk]
        omega
      · have hblank : cellWidth ' ' = 1 := by decide
        simp [hblank]
        omega

lemma begins_fitCells (n : Nat) (cs : List Char) : Begins cs (fitCells n cs) := by
  unfold fitCells
  dsimp only
  split
  · exact begins_append_blanks cs _
  · split
    · exact begins_of_isPrefix (List.take_prefix n cs)
    · have hclusters := begins_takeCells n (clusters cs)
      rwa [flatMap_clusters] at hclusters

lemma Steady.cells_fitCells_le (h : Steady cs) (n : Nat) : Terminal.cells (fitCells n cs) ≤ n := by
  have hfit := h.begins (begins_fitCells n cs)
  unfold fitCells at hfit ⊢
  dsimp only at hfit ⊢
  split
  · next hsize =>
    rw [if_pos hsize] at hfit
    rw [cells_append hfit, cells_blanks]
    omega
  · next hsize =>
    rw [if_neg hsize] at hfit
    split
    · next hplain =>
      have hplain' : (cs.take n).all isPlain = true :=
        List.all_eq_true.mpr fun c hc => List.all_eq_true.mp hplain c (List.mem_of_mem_take hc)
      rw [Terminal.cells, if_pos hplain']
      exact List.length_take_le n cs
    · next hplain =>
      rw [if_neg hplain] at hfit
      rw [hfit.cells]
      exact sum_takeCells_le (Cluster.cells_of_mem_after h nofun)

end

lemma total_eq_sum (ns : List Nat) : total ns = ns.sum := List.sum_eq_foldl.symm

namespace Line

/-- What a line says. -/
def chars (l : Line) : List Char := l.flatMap Segment.text

@[simp] lemma chars_nil : chars [] = [] := rfl

@[simp] lemma chars_cons (s : Segment) (l : Line) : chars (s :: l) = s.text ++ l.chars := rfl

@[simp] lemma chars_append (l m : Line) : chars (l ++ m) = l.chars ++ m.chars := List.flatMap_append

@[simp] lemma width_nil : width [] = 0 := rfl

lemma width_append (l m : Line) : width (l ++ m) = l.width + m.width := by
  simp only [width, total_eq_sum, List.map_append, List.sum_append]

lemma width_cons (s : Segment) (l : Line) : width (s :: l) = s.width + l.width := by
  simp only [width, total_eq_sum, List.map_cons, List.sum_cons]

@[simp] lemma chars_onto (style : Style) (l : Line) : (l.onto style).chars = l.chars := by
  simp only [chars, onto, List.flatMap_map]

@[simp] lemma width_onto (style : Style) (l : Line) : (l.onto style).width = l.width := by
  rw [width, width, onto, List.map_map]
  rfl

/-- A line of steady text is as wide as its text. -/
lemma width_of_steady {l : Line} (h : Steady l.chars) : l.width = cells l.chars := by
  induction l with
  | nil => rfl
  | cons s l ih =>
    rw [chars_cons] at h ⊢
    rw [width_cons, cells_append h, ih (steady_append.mp h).2]
    rfl

lemma begins_crop (n : Nat) (l : Line) : Begins l.chars (l.crop n).chars := by
  induction l generalizing n with
  | nil => exact begins_of_isPrefix (List.prefix_refl _)
  | cons s l ih =>
    rw [crop]
    split
    · obtain ⟨start, gap, hstart, hline⟩ := ih (n - s.width)
      refine ⟨s.text ++ start, gap, List.prefix_append_right_inj _ |>.mpr hstart, ?_⟩
      rw [chars_cons, hline, List.append_assoc]
    · obtain ⟨start, gap, hstart, hline⟩ := begins_fitCells n s.text
      refine ⟨start, gap, hstart.trans (List.prefix_append _ _), ?_⟩
      rw [chars_cons, chars_nil, List.append_nil, hline]

lemma begins_cut (n : Nat) (l : Line) : Begins l.chars (l.cut n).chars := by
  unfold cut
  split
  · exact begins_crop n l
  · exact begins_of_isPrefix (List.prefix_refl _)

lemma cut_of_le {n : Nat} {l : Line} (h : l.width ≤ n) : l.cut n = l := if_neg (Nat.not_lt.mpr h)

lemma begins_fit (n : Nat) (style : Style) (l : Line) : Begins l.chars (l.fit n style).chars := by
  unfold fit
  split
  · rw [chars_append]
    exact ⟨l.chars, n - l.width, List.prefix_refl _, by simp [Segment.blank]⟩
  · exact begins_cut n l

lemma width_blank (n : Nat) (style : Style) : (Segment.blank n style).width = n := cells_blanks n

/-- A line that has room is filled up with blanks. -/
lemma fit_of_le {n : Nat} (style : Style) {l : Line} (h : l.width ≤ n) :
    (l.fit n style).chars = l.chars ++ List.replicate (n - l.width) ' ' ∧ (l.fit n style).width = n := by
  unfold fit
  split
  · refine ⟨by simp [Segment.blank], ?_⟩
    rw [width_append, width_cons, width_blank, width_nil]
    omega
  · have hwidth : l.width = n := by omega
    rw [cut_of_le h]
    exact ⟨by simp [hwidth], hwidth⟩

end Line

end AsyncActions.Terminal
