import Mathlib.Tactic.Common

/-!
# Lookups by key

A table is a list of keys with their values, in which the first entry of a key counts.
-/

namespace AsyncActions

variable {α β : Type} [DecidableEq α] {entries : List (α × β)} {key : α} {value : β}

/-- The entries of one key do not matter to another. -/
lemma lookup_filter_ne {other : α} (hne : key ≠ other) :
    (entries.filter fun entry => entry.1 ≠ other).lookup key = entries.lookup key := by
  induction entries with
  | nil => rfl
  | cons entry entries ih =>
    by_cases hother : entry.1 = other
    · have hkey : (key == entry.1) = false := by simpa [hother] using hne
      rw [List.filter_cons_of_neg (by simpa using hother), ih, List.lookup_cons, hkey]
    · rw [List.filter_cons_of_pos (by simpa using hother), List.lookup_cons, List.lookup_cons, ih]

/-- Where no key occurs twice, every entry is found. -/
lemma lookup_of_mem (h : entries.Pairwise (·.1 ≠ ·.1)) (hm : (key, value) ∈ entries) :
    entries.lookup key = some value := by
  induction entries with
  | nil => cases hm
  | cons entry entries ih =>
    obtain ⟨hfirst, h⟩ := List.pairwise_cons.mp h
    rcases List.mem_cons.mp hm with rfl | hm
    · exact List.lookup_cons_self
    · have hne : (key == entry.1) = false := by simpa using (hfirst _ hm).symm
      rw [List.lookup_cons, hne]
      exact ih h hm

lemma mem_of_lookup (h : entries.lookup key = some value) : (key, value) ∈ entries := by
  induction entries with
  | nil => cases h
  | cons entry entries ih =>
    obtain ⟨first, v⟩ := entry
    rw [List.lookup_cons] at h
    by_cases hkey : key = first
    · subst hkey
      rw [beq_self_eq_true] at h
      exact Option.some.inj h ▸ List.mem_cons_self
    · have hne : (key == first) = false := by simpa using hkey
      rw [hne] at h
      exact List.mem_cons_of_mem _ (ih h)

end AsyncActions
