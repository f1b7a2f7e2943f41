import AsyncActions.AsyncAction
import Mathlib.Data.List.Basic
import Mathlib.Tactic.Common

/-!
# What a run reports

A finding counts its offset from zero and its lines and columns from one, so a function can be
reported if none of its places is negative. `finding` is then what is reported. A run reports all
flagged functions, or fails and reports none.
-/

namespace AsyncActions

namespace Checked

variable {α β : Type}

lemma both_eq_ok_iff {a : Checked α} {b : Checked β} {x : α × β} :
    both a b = .ok x ↔ a = .ok x.1 ∧ b = .ok x.2 := by
  cases a <;> cases b <;> simp [both, Prod.ext_iff]

lemma under_eq_ok_iff {name : String} {a : Checked α} {x : α} : a.under name = .ok x ↔ a = .ok x := by
  cases a <;> simp [under, Except.mapError]

lemma map_eq_ok_iff {f : α → β} {a : Checked α} {y : β} :
    a.map f = .ok y ↔ ∃ x, a = .ok x ∧ f x = y := by
  cases a <;> simp [Except.map]

end Checked

lemma checkOffset_eq_ok_iff {i : Int} {n : Nat} : checkOffset i = .ok n ↔ 0 ≤ i ∧ n = i.toNat := by
  unfold checkOffset
  by_cases h : 0 ≤ i
  · simp [h, eq_comm]
  · simp [h]

lemma checkOrdinal_succ_eq_ok_iff {i : Int} {o : Ordinal} :
    checkOrdinal (i + 1) = .ok o ↔ 0 ≤ i ∧ o = .after i.toNat := by
  by_cases h : 0 ≤ i
  · have hn : (i + 1).toNat = i.toNat + 1 := by omega
    have ho : Ordinal.ofInt? (i + 1) = some (.after i.toNat) := by
      simp only [Ordinal.ofInt?, Ordinal.after, hn]
      exact dif_pos (Nat.le_add_left 1 _)
    simp only [checkOrdinal, ho, Except.ok.injEq, h, true_and]
    exact eq_comm
  · have ho : Ordinal.ofInt? (i + 1) = none := dif_neg (by omega)
    simp [checkOrdinal, ho, h]

/-! ### Places -/

namespace Point

/-- Row and column are not negative. -/
def Counted (p : Point) : Prop := 0 ≤ p.row ∧ 0 ≤ p.column

/-- The line, counted from one. -/
def line (p : Point) : Ordinal := .after p.row.toNat

/-- The column, counted from one. -/
def position (p : Point) : Ordinal := .after p.column.toNat

end Point

/-- No place of the function is negative. -/
structure Function.Placed (f : Function) : Prop where
  asyncByte : 0 ≤ f.asyncByte
  asyncPoint : f.asyncPoint.Counted
  startPoint : f.startPoint.Counted
  endPoint : f.endPoint.Counted

namespace AsyncAction

/-- The insertion of the keyword where it belongs. -/
def insertion (f : Function) : Fix :=
  ⟨f.asyncByte.toNat, keyword, f.asyncPoint.line, f.asyncPoint.position⟩

/-- Where a function is found. -/
def location (f : Function) (path : Path) (source : Bytes) : Location :=
  ⟨path, f.startPoint.line, f.startPoint.position, some f.endPoint.line, some f.endPoint.position,
    f.snippet source⟩

/-- What is reported about a function. -/
def finding (f : Function) (path : Path) (source : Bytes) (ruleId severity : String) : Finding where
  ruleId := ruleId
  message := findingMessage
  location := location f path source
  messageId := some messageId
  severity := severity
  suggestions := [⟨suggestionId, suggestionMessage f.displayName, insertion f⟩]

lemma fix_eq_ok_iff {f : Function} {x : Fix} :
    fix f = .ok x ↔ 0 ≤ f.asyncByte ∧ f.asyncPoint.Counted ∧ x = insertion f := by
  simp only [fix, Fix.check, Checked.map_eq_ok_iff, Checked.both_eq_ok_iff, Checked.under_eq_ok_iff,
    checkOffset_eq_ok_iff, checkOrdinal_succ_eq_ok_iff, Point.Counted]
  constructor
  · rintro ⟨⟨offset, line, column⟩, ⟨⟨ho, rfl⟩, ⟨hr, rfl⟩, hc, rfl⟩, rfl⟩
    exact ⟨ho, ⟨hr, hc⟩, rfl⟩
  · rintro ⟨ho, ⟨hr, hc⟩, rfl⟩
    exact ⟨(_, _, _), ⟨⟨ho, rfl⟩, ⟨hr, rfl⟩, hc, rfl⟩, rfl⟩

lemma location_eq_ok_iff (f : Function) (path : Path) (source : Bytes) (l : Location) :
    Location.check path (f.startPoint.row + 1) (f.startPoint.column + 1) (f.endPoint.row + 1)
      (f.endPoint.column + 1) (f.snippet source) = .ok l ↔
    f.startPoint.Counted ∧ f.endPoint.Counted ∧ l = location f path source := by
  simp only [Location.check, Checked.map_eq_ok_iff, Checked.both_eq_ok_iff, Checked.under_eq_ok_iff,
    checkOrdinal_succ_eq_ok_iff, Point.Counted]
  constructor
  · rintro ⟨⟨line, column, endLine, endColumn⟩, ⟨⟨hr, rfl⟩, ⟨hc, rfl⟩, ⟨hr', rfl⟩, hc', rfl⟩, rfl⟩
    exact ⟨⟨hr, hc⟩, ⟨hr', hc'⟩, rfl⟩
  · rintro ⟨⟨hr, hc⟩, ⟨hr', hc'⟩, rfl⟩
    exact ⟨(_, _, _, _), ⟨⟨hr, rfl⟩, ⟨hc, rfl⟩, ⟨hr', rfl⟩, hc', rfl⟩, rfl⟩

/-- A function is reported if it is placed, and then as `finding` says. -/
lemma report_eq_ok_iff {f : Function} {path : Path} {source : Bytes} {ruleId severity : String}
    {x : Finding} :
    report f path source ruleId severity = .ok x ↔
      f.Placed ∧ x = finding f path source ruleId severity := by
  unfold report
  cases hfix : fix f with
  | error flaws =>
    constructor
    · intro h
      cases h
    · rintro ⟨hp, -⟩
      have h := fix_eq_ok_iff.mpr ⟨hp.asyncByte, hp.asyncPoint, rfl⟩
      rw [hfix] at h
      cases h
  | ok y =>
    obtain ⟨hb, ha, rfl⟩ := fix_eq_ok_iff.mp hfix
    cases hloc : Location.check path (f.startPoint.row + 1) (f.startPoint.column + 1)
        (f.endPoint.row + 1) (f.endPoint.column + 1) (f.snippet source) with
    | error flaws =>
      constructor
      · intro h
        cases h
      · rintro ⟨hp, -⟩
        have h := (location_eq_ok_iff f path source _).mpr ⟨hp.startPoint, hp.endPoint, rfl⟩
        rw [hloc] at h
        cases h
    | ok l =>
      obtain ⟨hs, he, rfl⟩ := (location_eq_ok_iff f path source l).mp hloc
      simp only [bind, Except.bind, pure, Except.pure, Except.ok.injEq]
      exact ⟨fun h => ⟨⟨hb, ha, hs, he⟩, h.symm⟩, fun h => h.2.symm⟩

/-! ### Runs -/

/-- What the rule says about a function of a source. -/
def findingOf (source : Source) (severity : String) (f : Function) : Finding :=
  finding f source.path source.bytes ruleId severity

lemma reportAll_of_placed (source : Source) (severity : String) {fs : List Function}
    (h : ∀ f ∈ fs, f.Placed) (acc : List Finding) (log : Log) :
    (reportAll source severity acc log fs).findings = acc ++ fs.map (findingOf source severity) ∧
      (reportAll source severity acc log fs).failure = none := by
  induction fs generalizing acc log with
  | nil => exact ⟨(List.append_nil acc).symm, rfl⟩
  | cons f fs ih =>
    have hreport : report f source.path source.bytes ruleId severity = .ok (findingOf source severity f) :=
      report_eq_ok_iff.mpr ⟨h f List.mem_cons_self, rfl⟩
    have ih := ih (fun g hg => h g (List.mem_cons_of_mem _ hg)) (acc ++ [findingOf source severity f])
      (log ++ [record source f])
    rw [List.append_assoc] at ih
    rw [reportAll, hreport, List.map_cons]
    exact ih

lemma reportAll_of_not_placed (source : Source) (severity : String) {fs : List Function}
    (h : ∃ f ∈ fs, ¬ f.Placed) (acc : List Finding) (log : Log) :
    (reportAll source severity acc log fs).findings = [] ∧
      (reportAll source severity acc log fs).failure ≠ none := by
  induction fs generalizing acc log with
  | nil =>
    obtain ⟨f, ⟨⟩, -⟩ := h
  | cons f fs ih =>
    rw [reportAll]
    cases hreport : report f source.path source.bytes ruleId severity with
    | error flaws => exact ⟨rfl, nofun⟩
    | ok x =>
      have hf := (report_eq_ok_iff.mp hreport).1
      obtain ⟨g, hg, hgp⟩ := h
      rcases List.mem_cons.mp hg with rfl | hg
      · exact absurd hf hgp
      · exact ih ⟨g, hg, hgp⟩ _ _

/-- A run reports each flagged function, in document order, if all of them are placed. -/
lemma run_of_placed {source : Source} (severity : String) (h : ∀ f ∈ flagged source, f.Placed) :
    (run source severity).findings = (flagged source).map (findingOf source severity) ∧
      (run source severity).failure = none :=
  reportAll_of_placed source severity h [] []

/-- If one of them is not, it fails and reports nothing. -/
lemma run_of_not_placed {source : Source} (severity : String) (h : ∃ f ∈ flagged source, ¬ f.Placed) :
    (run source severity).findings = [] ∧ (run source severity).failure ≠ none :=
  reportAll_of_not_placed source severity h [] []

end AsyncAction

end AsyncActions
