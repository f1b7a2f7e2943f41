import AsyncActions.Proofs.StableSorts
import AsyncActions.Report.Plan
import Mathlib.Algebra.GroupWithZero.Nat
import Mathlib.Data.Prod.Lex
import Mathlib.Data.String.Basic
import Mathlib.Tactic.Common

/-!
# Reports that account for all findings

Sections, counts and totals are made from the same findings in different ways. Of a report that
`Accounts` for findings and files, each finding stands once in the sections, each file once among the
counts, and all numbers are those of the findings.
-/

namespace AsyncActions.Report

/-- Where a finding is in its file. -/
def place (f : Finding) : ℕ ×ₗ ℕ := toLex (f.location.line.val, f.location.column.val)

/-- The report says of findings in files what there is to say. -/
structure Accounts (findings : List Finding) (files : List Path) (r : Report) : Prop where
  /-- There is one section for each path of a finding, and they are in order. -/
  ordered : (r.sections.map Section.path).Pairwise (· < ·)
  covered : ∀ path, path ∈ r.sections.map Section.path ↔ path ∈ findings.map pathText
  /-- A section has the findings of its path in the order of their places. -/
  rows : ∀ s ∈ r.sections, StableSort place (findings.filter (pathText · = s.path)) s.findings
  once : (r.sections.flatMap Section.findings).Perm findings
  /-- The files that have findings come first, and both parts are in order. -/
  parted : ∃ flagged clean, r.files = flagged ++ clean ∧ (∀ c ∈ flagged, c.count ≠ 0) ∧
    (∀ c ∈ clean, c.count = 0) ∧ flagged.Pairwise (·.path.text ≤ ·.path.text) ∧
    clean.Pairwise (·.path.text ≤ ·.path.text)
  listed : (r.files.map FileCount.path).Perm files
  counts : ∀ c ∈ r.files, c.count = findings.countP (pathText · = c.path.text)
  sum : (files.map Path.text).Nodup →
    (r.files.map FileCount.count).sum = findings.countP (pathText · ∈ files.map Path.text)
  /-- There are totals where there are findings. -/
  totals : r.totals = none ↔ findings = []
  total : ∀ t ∈ r.totals, t.findings = findings.length
  suggested : ∀ t ∈ r.totals, t.suggested = findings.countP (·.suggestions ≠ [])
  severities : ∀ t ∈ r.totals, (t.bySeverity.map Prod.fst).Sublist ["error", "warning", "info"] ∧
    ∀ severity ∈ ["error", "warning", "info"], ∀ n, (severity, n) ∈ t.bySeverity ↔
      n = findings.countP (Text.lower ·.severity = severity) ∧ n ≠ 0

lemma placeLe_eq_true_iff (f g : Finding) : placeLe f g = true ↔ place f ≤ place g := by
  have hline : f.location.line = g.location.line ↔ f.location.line.val = g.location.line.val := by
    constructor
    · exact congrArg Ordinal.val
    · intro h
      cases hf : f.location.line
      cases hg : g.location.line
      simpa [hf, hg] using h
  rw [place, place, Prod.Lex.toLex_le_toLex]
  simp [placeLe, hline]

lemma paths_pairwise (findings : List Finding) : (paths findings).Pairwise (· < ·) := by
  have hle (a b : String) : decide (a ≤ b) = true ↔ id a ≤ id b := decide_eq_true_iff
  exact eraseDups_pairwise (stableSort_mergeSort hle (findings.map pathText)).sorted

lemma mem_paths {findings : List Finding} {path : String} :
    path ∈ paths findings ↔ path ∈ findings.map pathText := by
  rw [paths, List.mem_eraseDups, List.mem_mergeSort]

lemma stableSort_sectionAt (findings : List Finding) (path : String) :
    StableSort place (findings.filter (pathText · = path)) (sectionAt findings path).findings :=
  stableSort_mergeSort placeLe_eq_true_iff _

lemma sections_path (findings : List Finding) : (sectionsOf findings).map Section.path = paths findings := by
  rw [sectionsOf, List.map_map]
  exact List.map_id _

/-- The sections have each finding once. -/
lemma sections_perm (findings : List Finding) :
    ((sectionsOf findings).flatMap Section.findings).Perm findings := by
  have hnodup : (paths findings).Nodup := (paths_pairwise findings).imp ne_of_lt
  rw [sectionsOf, List.flatMap_map]
  refine (List.Perm.flatMap_left _ fun path _ => (stableSort_sectionAt findings path).perm).trans ?_
  exact flatMap_filter_perm hnodup fun f hf => mem_paths.mpr (List.mem_map_of_mem hf)

lemma stableSort_sortByPath (files : List FileCount) : StableSort (·.path.text) files (sortByPath files) :=
  stableSort_mergeSort (fun _ _ => decide_eq_true_iff) files

lemma countsOf_perm (findings : List Finding) (files : List Path) :
    (countsOf findings files).Perm (files.map (countOf findings)) := by
  have hparts := (stableSort_sortByPath ((files.map (countOf findings)).filter (·.count ≠ 0))).perm.append
    (stableSort_sortByPath ((files.map (countOf findings)).filter (·.count = 0))).perm
  refine hparts.trans (List.perm_append_comm.trans ?_)
  simpa using List.filter_append_perm (fun c : FileCount => decide (c.count = 0)) (files.map (countOf findings))

lemma count_of_mem {findings : List Finding} {files : List Path} {c : FileCount}
    (h : c ∈ countsOf findings files) : c.count = findings.countP (pathText · = c.path.text) := by
  obtain ⟨p, -, rfl⟩ := List.mem_map.mp ((countsOf_perm findings files).mem_iff.mp h)
  rfl

/-- The findings on files are counted each once if no two files have one path. -/
lemma sum_counts {findings : List Finding} {files : List Path} (h : (files.map Path.text).Nodup) :
    ((countsOf findings files).map FileCount.count).sum =
      findings.countP (pathText · ∈ files.map Path.text) := by
  have hlisted : ∀ f ∈ findings.filter (pathText · ∈ files.map Path.text), pathText f ∈ files.map Path.text :=
    fun f hf => by simpa using (List.mem_filter.mp hf).2
  have hperm := flatMap_filter_perm h hlisted
  have hcounts : (files.map (countOf findings)).map FileCount.count = (files.map Path.text).map fun path =>
      ((findings.filter (pathText · ∈ files.map Path.text)).filter (pathText · = path)).length := by
    rw [List.map_map, List.map_map]
    refine List.map_congr_left fun p hp => ?_
    have hon : (findings.filter (pathText · ∈ files.map Path.text)).filter (pathText · = p.text) =
        findings.filter (pathText · = p.text) := by
      rw [List.filter_filter]
      refine List.filter_congr fun f _ => ?_
      have hmem : pathText f = p.text → pathText f ∈ files.map Path.text :=
        fun he => he ▸ List.mem_map_of_mem hp
      simpa using hmem
    exact List.countP_eq_length_filter.trans (congrArg List.length hon.symm)
  rw [((countsOf_perm findings files).map _).sum_nat, hcounts, ← List.length_flatMap, hperm.length_eq,
    List.countP_eq_length_filter]

lemma mem_bySeverity {findings : List Finding} {severity : String} (h : severity ∈ countedSeverities) {n : Nat} :
    (severity, n) ∈ (totalsOf findings).bySeverity ↔
      n = findings.countP (Text.lower ·.severity = severity) ∧ n ≠ 0 := by
  simp only [totalsOf, List.mem_filter, List.mem_map, Prod.mk.injEq, decide_eq_true_eq]
  constructor
  · rintro ⟨⟨s, -, rfl, rfl⟩, hn⟩
    exact ⟨rfl, hn⟩
  · rintro ⟨rfl, hn⟩
    exact ⟨⟨severity, h, rfl, rfl⟩, hn⟩

lemma bySeverity_sublist (findings : List Finding) :
    ((totalsOf findings).bySeverity.map Prod.fst).Sublist countedSeverities := by
  have hsub := (List.filter_sublist (p := fun entry : String × Nat => entry.2 ≠ 0)
    (l := countedSeverities.map fun s => (s, findings.countP (Text.lower ·.severity = s)))).map Prod.fst
  rw [List.map_map] at hsub
  exact hsub

lemma totals_of_mem {findings : List Finding} {files : List Path} {t : Totals}
    (h : t ∈ (Report.of findings files).totals) : t = totalsOf findings := by
  simp only [Report.of] at h
  split at h
  · cases h
  · exact (Option.mem_some_iff.mp h).symm

/-- A report says of findings in files what there is to say. -/
lemma accounts_of (findings : List Finding) (files : List Path) :
    Accounts findings files (Report.of findings files) where
  ordered := by
    have h := paths_pairwise findings
    rwa [← sections_path] at h
  covered path := by
    have h : path ∈ paths findings ↔ path ∈ findings.map pathText := mem_paths
    rwa [← sections_path] at h
  rows s hs := by
    obtain ⟨path, -, rfl⟩ := List.mem_map.mp hs
    exact stableSort_sectionAt findings path
  once := sections_perm findings
  parted := by
    refine ⟨_, _, rfl, fun c hc => ?_, fun c hc => ?_, (stableSort_sortByPath _).sorted,
      (stableSort_sortByPath _).sorted⟩
    · simpa using (List.mem_filter.mp (List.mem_mergeSort.mp hc)).2
    · simpa using (List.mem_filter.mp (List.mem_mergeSort.mp hc)).2
  listed := by
    have h := (countsOf_perm findings files).map FileCount.path
    rw [List.map_map] at h
    exact h.trans (List.Perm.of_eq (List.map_id _))
  counts _ := count_of_mem
  sum := sum_counts
  totals := by
    unfold Report.of
    split <;> simp_all
  total t ht := by
    rw [totals_of_mem ht]
    rfl
  suggested t ht := by
    rw [totals_of_mem ht]
    rfl
  severities t ht := by
    rw [totals_of_mem ht]
    exact ⟨bySeverity_sublist findings, fun severity h n => mem_bySeverity h⟩

end AsyncActions.Report
