import Mathlib.Algebra.GroupWithZero.Nat
import Mathlib.Data.List.Perm.Basic
import Mathlib.Data.String.Basic
import Mathlib.Tactic.Common

/-!
# Stable sorts

Lists in the order of keys, in which the members of one key stay as they were, and lists that are put
together key by key.
-/

namespace AsyncActions

section

variable {α β : Type} [LinearOrder β]

/-- The members in the order of their keys. Those of one key stay as they were. -/
structure StableSort (key : α → β) (listed ordered : List α) : Prop where
  perm : ordered.Perm listed
  sorted : ordered.Pairwise (key · ≤ key ·)
  stable : ∀ b, ordered.filter (key · = b) = listed.filter (key · = b)

lemma stableSort_mergeSort {key : α → β} {le : α → α → Bool} (hle : ∀ a b, le a b = true ↔ key a ≤ key b)
    (listed : List α) : StableSort key listed (listed.mergeSort le) := by
  have htrans (a b c : α) (hab : le a b = true) (hbc : le b c = true) : le a c = true :=
    (hle a c).mpr (((hle a b).mp hab).trans ((hle b c).mp hbc))
  have htotal (a b : α) : (le a b || le b a) = true := by
    rw [Bool.or_eq_true, hle, hle]
    exact le_total (key a) (key b)
  have hperm := List.mergeSort_perm listed le
  refine ⟨hperm, (List.pairwise_mergeSort htrans htotal listed).imp (hle _ _).mp, fun b => ?_⟩
  -- members of one key are in order already, so they are left in this order
  have hequal : (listed.filter (key · = b)).Pairwise (le · ·) := by
    refine List.pairwise_of_forall_mem_list fun c hc d hd => (hle c d).mpr ?_
    rw [of_decide_eq_true (List.mem_filter.mp hc).2, of_decide_eq_true (List.mem_filter.mp hd).2]
  have hsub := (List.sublist_mergeSort htrans htotal hequal List.filter_sublist).filter (key · = b)
  simp only [List.filter_filter, Bool.and_self] at hsub
  exact (hsub.eq_of_length (hperm.filter _).length_eq.symm).symm

end

section

variable {α β : Type} [DecidableEq β]

/-- Taken key by key, the members are all there, each once. -/
lemma flatMap_filter_perm {key : α → β} {keys : List β} (hkeys : keys.Nodup) {listed : List α}
    (h : ∀ a ∈ listed, key a ∈ keys) : (keys.flatMap fun k => listed.filter (key · = k)).Perm listed := by
  induction keys generalizing listed with
  | nil =>
    rw [List.eq_nil_iff_forall_not_mem.mpr fun a ha => absurd (h a ha) List.not_mem_nil]
    exact List.Perm.refl _
  | cons k keys ih =>
    obtain ⟨hk, hkeys⟩ := List.nodup_cons.mp hkeys
    have hothers : keys.flatMap (fun k' => listed.filter (key · = k')) =
        keys.flatMap fun k' => (listed.filter (key · ≠ k)).filter (key · = k') := by
      refine List.flatMap_congr fun k' hk' => ?_
      rw [List.filter_filter]
      refine List.filter_congr fun a _ => ?_
      have hne : k' ≠ k := fun he => hk (he ▸ hk')
      by_cases ha : key a = k'
      · simp [ha, hne]
      · simp [ha]
    have hrest : ∀ a ∈ listed.filter (key · ≠ k), key a ∈ keys := fun a ha => by
      obtain ⟨ha, hne⟩ := List.mem_filter.mp ha
      exact (List.mem_cons.mp (h a ha)).resolve_left (by simpa using hne)
    rw [List.flatMap_cons, hothers]
    refine ((ih hkeys hrest).append_left _).trans ?_
    simpa using List.filter_append_perm (fun a => decide (key a = k)) listed

end

/-- Without repetitions what is in order is in strict order. -/
lemma eraseDups_pairwise {α : Type} [LinearOrder α] {as : List α} (h : as.Pairwise (· ≤ ·)) :
    as.eraseDups.Pairwise (· < ·) := by
  induction hn : as.length using Nat.strong_induction_on generalizing as with
  | _ n ih =>
    cases as with
    | nil => exact List.Pairwise.nil
    | cons a as =>
      obtain ⟨ha, has⟩ := List.pairwise_cons.mp h
      rw [List.eraseDups_cons]
      refine List.pairwise_cons.mpr ⟨fun b hb => ?_, ih _ ?_ (has.filter _) rfl⟩
      · obtain ⟨hmem, hne⟩ := List.mem_filter.mp (List.mem_eraseDups.mp hb)
        exact lt_of_le_of_ne (ha b hmem) fun heq => by simp [heq] at hne
      · rw [← hn, List.length_cons]
        exact Nat.lt_succ_of_le (List.length_filter_le _ _)

end AsyncActions
