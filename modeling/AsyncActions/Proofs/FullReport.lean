import AsyncActions.Proofs.PrintedReport
import AsyncActions.Proofs.UnbrokenReport

/-!
# Reports in full

Where paths and messages have no signs of markup, the lines of a page show the whole report: each row, each
count and the totals. A path has to be looked up for that; without links on the way it always can be.
-/

namespace AsyncActions.Report

open Terminal Markup

/-- A path that can be looked up, with no signs of markup in what is shown of it. -/
def ShownPlain (ws : Workspace) (p : Path) : Prop := ∃ path, shorten ws p = .ok path ∧ Unmarked path

section

variable {ws : Workspace} {p : Path}

lemma unmarked_text_of_subset {q : Path} (hp : Unmarked p.text) (h : q.parts ⊆ p.parts) : Unmarked q.text := by
  unfold Unmarked at hp ⊢
  rw [Path.mem_text_iff (by decide) (by decide), Path.mem_text_iff (by decide) (by decide)] at hp ⊢
  exact ⟨fun ⟨name, hname, hmem⟩ => hp.1 ⟨name, h hname, hmem⟩,
    fun ⟨name, hname, hmem⟩ => hp.2 ⟨name, h hname, hmem⟩⟩

/-- Seen from the working directory, a path has no other names than before. -/
lemma parts_subset_of_relativeTo? {q : Path} (h : (ws.absolute p).relativeTo? ws.directory = some q) :
    q.parts ⊆ p.parts := by
  unfold Path.relativeTo? at h
  split at h
  · obtain rfl := Option.some.inj h
    unfold Workspace.absolute
    split
    · exact List.drop_subset _ _
    · simp
  · cases h

/-- Where no link is on the way, a path without signs of markup is shown without them. -/
lemma shownPlain_of_direct (h : ws.Direct (ws.absolute p)) (hp : Unmarked p.text) : ShownPlain ws p := by
  refine ⟨((ws.absolute p).relativeTo? ws.directory |>.getD p).text, ?_, ?_⟩
  · rw [shorten, Workspace.shorten, Workspace.resolve_of_direct_absolute h]
    rfl
  · cases hrelative : (ws.absolute p).relativeTo? ws.directory with
    | none => exact hp
    | some q => exact unmarked_text_of_subset hp (parts_subset_of_relativeTo? hrelative)

end

section

variable {ws : Workspace} {l : Layout} {findings : List Finding} {files : List Path}

lemma legible_of_unmarked
    (hfindings : ∀ f ∈ findings, Unmarked f.message ∧ ShownPlain ws (.ofString (pathText f)))
    (hfiles : ∀ p ∈ files, ShownPlain ws p) : Legible ws findings files where
  header f hf := by
    obtain ⟨path, hshort, hplain⟩ := (hfindings f hf).2
    exact ⟨path, hshort, readable_tagged isStyle_header (by decide) hplain.1⟩
  message f hf := (hfindings f hf).1.verbatim.readable
  file p hp := by
    obtain ⟨path, hshort, hplain⟩ := hfiles p hp
    exact ⟨path, hshort, hplain.verbatim.readable⟩

/-- A report accounts for all findings and files, and the page shows all of it. -/
theorem page_shows_accounts (hwidth : 0 < l.width)
    (hfindings : ∀ f ∈ findings, Unmarked f.message ∧ ShownPlain ws (.ofString (pathText f)))
    (hfiles : ∀ p ∈ files, ShownPlain ws p) :
    Accounts findings files (Report.of findings files) ∧
    PrintsReport ws l (Report.of findings files) ((Report.of findings files).page ws l) := by
  have hshows := showsReport_of_legible (l := l) (legible_of_unmarked hfindings hfiles) hwidth
  refine ⟨accounts_of findings files,
    hshows.prints hwidth (fun f hf path hshort => ?_) (fun f hf => (hfindings f hf).1) hfiles⟩
  obtain ⟨path', hshort', hplain⟩ := (hfindings f hf).2
  obtain rfl := Except.ok.inj (hshort.symm.trans hshort')
  exact hplain

end

/-! ### Findings at one place and on another file -/

/-- A directory without any files. -/
def emptyWorkspace : Workspace := ⟨⟨.absolute, ["w"]⟩, []⟩

def findingAt (path : Path) (message severity : String) : Finding where
  ruleId := "r"
  message := message
  location := ⟨path, Ordinal.after 0, Ordinal.after 0, none, none, none⟩
  messageId := none
  severity := severity
  suggestions := []

def mixedFindings : List Finding :=
  [findingAt ⟨.relative, ["b", "c.js"]⟩ "first" "Warning", findingAt ⟨.relative, ["b", "c.js"]⟩ "second" "",
    findingAt ⟨.absolute, ["a.js"]⟩ "third" "ERROR"]

def mixedFiles : List Path :=
  [⟨.relative, ["b", "c.js"]⟩, ⟨.absolute, ["w", "d.js"]⟩, ⟨.relative, ["b", "c.js"]⟩]

lemma shownPlain_emptyWorkspace {p : Path} (hforward : ".." ∉ p.parts) (hp : Unmarked p.text) :
    ShownPlain emptyWorkspace p := by
  refine shownPlain_of_direct (Workspace.direct_of_linkless nofun ?_ ?_) hp
  · unfold Workspace.absolute
    split <;> rfl
  · unfold Workspace.absolute
    split
    · exact hforward
    · simpa [emptyWorkspace] using hforward

theorem page_shows_accounts_mixedFindings :
    (∀ f ∈ mixedFindings, Unmarked f.message ∧ ShownPlain emptyWorkspace (.ofString (pathText f))) ∧
    (∀ p ∈ mixedFiles, ShownPlain emptyWorkspace p) ∧
    PrintsReport emptyWorkspace ⟨80, true⟩ (Report.of mixedFindings mixedFiles)
      ((Report.of mixedFindings mixedFiles).page emptyWorkspace ⟨80, true⟩) ∧
    ∃ t, (Report.of mixedFindings mixedFiles).totals = some t ∧ t.findings = 3 ∧
      ("warning", 1) ∈ t.bySeverity := by
  have hfindings : ∀ f ∈ mixedFindings,
      Unmarked f.message ∧ ShownPlain emptyWorkspace (.ofString (pathText f)) := by
    simp only [mixedFindings, List.forall_mem_cons]
    refine ⟨⟨by decide, shownPlain_emptyWorkspace ?_ ?_⟩, ⟨by decide, shownPlain_emptyWorkspace ?_ ?_⟩,
      ⟨by decide, shownPlain_emptyWorkspace ?_ ?_⟩, nofun⟩
    all_goals decide +kernel
  have hfiles : ∀ p ∈ mixedFiles, ShownPlain emptyWorkspace p := by
    have hplain : ∀ p ∈ mixedFiles, ".." ∉ p.parts ∧ Unmarked p.text := by decide +kernel
    exact fun p hp => shownPlain_emptyWorkspace (hplain p hp).1 (hplain p hp).2
  obtain ⟨haccounts, hprints⟩ :=
    page_shows_accounts (l := ⟨80, true⟩) (by decide : 0 < 80) hfindings hfiles
  refine ⟨hfindings, hfiles, hprints, ?_⟩
  obtain ⟨t, ht⟩ := Option.ne_none_iff_exists'.mp (mt haccounts.totals.mp (List.cons_ne_nil _ _))
  refine ⟨t, ht, haccounts.total t ht, ?_⟩
  exact ((haccounts.severities t ht).2 "warning" (by decide) 1).mpr (by decide +kernel)

end AsyncActions.Report
