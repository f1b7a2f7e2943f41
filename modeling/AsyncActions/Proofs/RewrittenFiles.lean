import AsyncActions.Command.Sweep
import AsyncActions.Proofs.DirectPaths
import AsyncActions.Proofs.InsertionPoints

/-!
# Which files a sweep rewrites

A sweep goes through sources that were read from different files. It rewrites those that have findings
and can be written, each to what its suggestions make of it, and leaves every other item alone. What
remains are the findings of the others.
-/

namespace AsyncActions

/-- All nodes of the tree lie in the source. -/
def Source.Inside (s : Source) : Prop :=
  ∀ n ∈ s.root.preorder, 0 ≤ n.startByte ∧ n.startByte ≤ n.endByte ∧ n.endByte ≤ s.bytes.length

namespace AsyncAction

/-- What is reported on a source at that severity. -/
def found (severity : String) (s : Source) : List Finding := (run s severity).findings

end AsyncAction

/-- A file that may be written. -/
def Workspace.isWritable (ws : Workspace) (p : Path) : Bool :=
  match ws.item? p with
  | some (.file _ access) => access.writable
  | _ => false

/-- Suggestions are applied, the source has findings, and its file may be written. -/
def Source.isRewritten (ws : Workspace) (apply : Bool) (severity : String) (s : Source) : Bool :=
  apply && !(AsyncAction.found severity s).isEmpty && ws.isWritable s.path

/-- The findings of the sources that are not rewritten, in order. -/
def AsyncAction.remaining (ws : Workspace) (apply : Bool) (severity : String) (sources : List Source) :
    List Finding :=
  (sources.filter fun s => !s.isRewritten ws apply severity).flatMap (found severity)

/-- How many edits the findings of a source make. -/
def Source.edits (severity : String) (s : Source) : Nat :=
  match applySuggestions s.bytes (AsyncAction.found severity s) with
  | .ok e => e.applied.length
  | .error _ => 0

/-- How many edits are made in the sources that are rewritten. -/
def AsyncAction.applied (ws : Workspace) (apply : Bool) (severity : String) (sources : List Source) : Nat :=
  ((sources.filter fun s => s.isRewritten ws apply severity).map (Source.edits severity)).sum

/-- From one workspace to another the files of some of the sources were written, each with what applying
its findings gives, and nothing else changed. -/
structure Rewrites (apply : Bool) (severity : String) (ws ws' : Workspace) (sources : List Source)
    (written : List (Source × Fix.Edited)) : Prop where
  which : written.map Prod.fst = sources.filter (Source.isRewritten ws apply severity)
  edited : ∀ w ∈ written,
    applySuggestions w.1.bytes (AsyncAction.found severity w.1) = .ok w.2
  files : ∀ w ∈ written, ∃ access, ws.item? w.1.path = some (.file w.1.bytes access) ∧
    ws'.item? w.1.path = some (.file w.2.source access)
  others : ∀ p, (∀ w ∈ written, w.1.path ≠ p) → ws'.item? p = ws.item? p
  directory : ws'.directory = ws.directory
  untouched : written = [] → ws' = ws

lemma Fix.applied_ne_nil {fixes : List Fix} (h : fixes ≠ []) : applied fixes ≠ [] := by
  intro he
  cases fixes with
  | nil => exact h rfl
  | cons f fixes =>
    have hf : f ∈ applied (f :: fixes) := mem_applied.mpr (List.find?_cons_of_pos (by simp))
    rw [he] at hf
    cases hf

namespace AsyncAction

variable {source : Source} {severity : String}

/-- What is said of every finding. -/
lemma mem_found {x : Finding} (h : x ∈ found severity source) :
    x.location.path = source.path ∧ x.message = findingMessage ∧ x.suggestions ≠ [] := by
  obtain ⟨fs, -, hfindings⟩ := run_findings source severity
  rw [found, hfindings] at h
  obtain ⟨f, -, rfl⟩ := List.mem_map.mp h
  exact ⟨rfl, rfl, List.cons_ne_nil _ _⟩

lemma filter_found : (found severity source).filter (·.suggestions = []) = [] :=
  List.filter_eq_nil_iff.mpr fun x hx => by simpa using (mem_found hx).2.2

/-- The keyword goes into a source that holds its tree. -/
lemma asyncByte_le_of_inside (h : source.Inside) {f : Function} (hf : f ∈ flagged source) :
    f.asyncByte ≤ source.bytes.length := by
  obtain ⟨n, hn, hfn⟩ := List.mem_filterMap.mp (List.mem_of_mem_filter hf)
  obtain ⟨c, hc, hbyte, -⟩ := Node.anchor_of_function? hfn
  have hmem : c ∈ source.root.preorder := by
    rcases hc with ⟨-, hc⟩ | ⟨rfl, -⟩
    · exact Node.child_mem_preorder hc.mem hn
    · exact hn
  have hinside := h c hmem
  omega

/-- What is reported can be applied, and applying it does something. -/
lemma exists_applySuggestions (severity : String) (h : source.Inside) :
    ∃ e, applySuggestions source.bytes (found severity source) = .ok e ∧
      (found severity source ≠ [] → e.applied ≠ []) := by
  obtain ⟨fs, hsub, hfindings⟩ := run_findings source severity
  have hb : ∀ x ∈ fs.map insertion, x.offset ≤ source.bytes.length := by
    refine List.forall_mem_map.mpr fun f hf => ?_
    have := asyncByte_le_of_inside h (hsub.subset hf)
    simp only [insertion]
    omega
  refine ⟨⟨Fix.splice (fs.map insertion) source.bytes, Fix.applied (fs.map insertion)⟩, ?_, ?_⟩
  · rw [found, hfindings, applySuggestions, chosenFixes_map_findingOf]
    exact Fix.applyAll_eq hb
  · intro hne
    refine Fix.applied_ne_nil fun he => hne ?_
    rw [found, hfindings, List.map_eq_nil_iff.mp he, List.map_nil]

end AsyncAction

/-! ### One source -/

namespace Job

open AsyncAction

/-- The rule for server actions is the only one, and it runs at that severity. -/
structure RunsAt (job : Job) (severity : String) : Prop where
  rules : job.rules = [asyncAction]
  severity : job.config.severityFor ruleId = severity

variable {job : Job} {severity : String} {ws : Workspace} {s : Source} {access : Access}

lemma RunsAt.findings (h : job.RunsAt severity) (s : Source) : (job.findings s).1 = found severity s := by
  rw [Job.findings, Rule.runAll, h.rules, List.flatMap_singleton, ← h.severity]
  rfl

lemma isWritable_of_fileAt (hfile : ws.FileAt s.path s.bytes access) :
    ws.isWritable s.path = access.writable := by
  rw [Workspace.isWritable, hfile.item]

/-- A file is written as a whole, or it stays as it is and nothing counts. -/
lemma exists_amend {found : List Finding} {e : Fix.Edited} (hn : ws.Nested)
    (hfile : ws.FileAt s.path s.bytes access) (he : applySuggestions s.bytes found = .ok e)
    (hne : e.applied ≠ []) :
    ∃ log, s.amend ws found =
      if access.writable then ⟨ws.put s.path (.file e.source access), .ok e.applied.length, log⟩
      else ⟨ws, .ok 0, log⟩ := by
  simp only [Source.amend, he, if_neg hne, hfile.write hn]
  by_cases hwritable : access.writable = true
  · simp only [if_pos hwritable]
    exact ⟨_, rfl⟩
  · simp only [if_neg hwritable]
    exact ⟨_, rfl⟩

/-- A source that is rewritten leaves nothing to report. -/
lemma RunsAt.sweepOne_rewritten (h : job.RunsAt severity) (hn : ws.Nested)
    (hfile : ws.FileAt s.path s.bytes access) (hin : s.Inside)
    (hr : s.isRewritten ws job.apply severity = true) :
    ∃ e log, applySuggestions s.bytes (found severity s) = .ok e ∧
      job.sweepOne ws s = ⟨ws.put s.path (.file e.source access), [], e.applied.length, log, none⟩ := by
  obtain ⟨e, he, hne⟩ := exists_applySuggestions severity hin
  simp only [Source.isRewritten, isWritable_of_fileAt hfile, Bool.and_eq_true, Bool.not_eq_true',
    List.isEmpty_eq_false_iff] at hr
  obtain ⟨⟨happly, hfound⟩, hwritable⟩ := hr
  obtain ⟨log, hamend⟩ := exists_amend hn hfile he (hne hfound)
  have hlength : ∃ n, e.applied.length = n + 1 :=
    Nat.exists_eq_succ_of_ne_zero fun hzero => hne hfound (List.eq_nil_of_length_eq_zero hzero)
  obtain ⟨n, hlength⟩ := hlength
  rw [if_pos hwritable] at hamend
  refine ⟨e, (job.findings s).2 ++ log, he, ?_⟩
  simp only [sweepOne, h.findings s, happly, hfound, ne_eq, not_false_eq_true, decide_true, Bool.and_self,
    if_true, hamend, hlength, filter_found]

/-- Any other source keeps its file and all its findings. -/
lemma RunsAt.sweepOne_kept (h : job.RunsAt severity) (hn : ws.Nested)
    (hfile : ws.FileAt s.path s.bytes access) (hin : s.Inside)
    (hr : s.isRewritten ws job.apply severity = false) :
    ∃ log, job.sweepOne ws s = ⟨ws, found severity s, 0, log, none⟩ := by
  obtain ⟨e, he, hne⟩ := exists_applySuggestions severity hin
  by_cases hgo : job.apply = true ∧ found severity s ≠ []
  · obtain ⟨happly, hfound⟩ := hgo
    obtain ⟨log, hamend⟩ := exists_amend hn hfile he (hne hfound)
    have hwritable : ¬ access.writable = true := by
      intro hwritable
      simp [Source.isRewritten, isWritable_of_fileAt hfile, happly, hfound, hwritable] at hr
    rw [if_neg hwritable] at hamend
    refine ⟨(job.findings s).2 ++ log, ?_⟩
    simp only [sweepOne, h.findings s, happly, hfound, ne_eq, not_false_eq_true, decide_true,
      Bool.and_self, if_true, hamend]
  · refine ⟨(job.findings s).2, ?_⟩
    have hskip : (job.apply && decide (found severity s ≠ [])) = false := by
      simpa only [Bool.and_eq_false_iff, decide_eq_false_iff_not, Bool.not_eq_true, not_and_or] using hgo
    simp only [sweepOne, h.findings s, hskip, Bool.false_eq_true, if_false]

end Job

/-! ### All sources -/

section

variable {apply : Bool} {severity : String} {ws : Workspace} {s : Source} {sources : List Source}
  {access : Access} {bytes : Bytes}

lemma AsyncAction.remaining_cons : remaining ws apply severity (s :: sources) =
    (if s.isRewritten ws apply severity then [] else found severity s) ++
      remaining ws apply severity sources := by
  unfold remaining
  cases hr : s.isRewritten ws apply severity with
  | true =>
    rw [List.filter_cons_of_neg (by simp [hr])]
    rfl
  | false =>
    rw [List.filter_cons_of_pos (by simp [hr])]
    rfl

/-- Whether a source is rewritten depends on its own file only. -/
lemma Source.isRewritten_congr {ws' : Workspace} (hitem : ws'.item? s.path = ws.item? s.path) :
    s.isRewritten ws' apply severity = s.isRewritten ws apply severity := by
  rw [isRewritten, isRewritten, Workspace.isWritable, Workspace.isWritable, hitem]

lemma Source.isRewritten_put (hfile : ws.FileAt s.path s.bytes access) {s' : Source}
    (hne : s'.path ≠ s.path) :
    s'.isRewritten (ws.put s.path (.file bytes access)) apply severity =
      s'.isRewritten ws apply severity :=
  isRewritten_congr (by rw [hfile.item?_put, if_neg hne])

lemma AsyncAction.remaining_congr {ws' : Workspace}
    (hitem : ∀ s ∈ sources, ws'.item? s.path = ws.item? s.path) :
    remaining ws' apply severity sources = remaining ws apply severity sources := by
  unfold remaining
  refine congrArg (List.flatMap _) (List.filter_congr fun s hs => ?_)
  rw [Source.isRewritten_congr (hitem s hs)]

lemma AsyncAction.applied_congr {ws' : Workspace}
    (hitem : ∀ s ∈ sources, ws'.item? s.path = ws.item? s.path) :
    applied ws' apply severity sources = applied ws apply severity sources := by
  unfold applied
  refine congrArg (fun rewritten => (List.map _ rewritten).sum) (List.filter_congr fun s hs => ?_)
  rw [Source.isRewritten_congr (hitem s hs)]

lemma AsyncAction.remaining_put (hfile : ws.FileAt s.path s.bytes access)
    (hnew : ∀ s' ∈ sources, s'.path ≠ s.path) :
    remaining (ws.put s.path (.file bytes access)) apply severity sources =
      remaining ws apply severity sources :=
  remaining_congr fun s' hs' => by rw [hfile.item?_put, if_neg (hnew s' hs')]

/-- What remains, and how much is applied, is put together from what remains and is applied in parts. -/
lemma AsyncAction.remaining_flatMap {α : Type} (as : List α) (f : α → List Source) :
    remaining ws apply severity (as.flatMap f) = as.flatMap fun a => remaining ws apply severity (f a) := by
  simp only [remaining, List.filter_flatMap, List.flatMap_assoc]

lemma AsyncAction.applied_flatMap {α : Type} (as : List α) (f : α → List Source) :
    applied ws apply severity (as.flatMap f) = (as.map fun a => applied ws apply severity (f a)).sum := by
  induction as with
  | nil => rfl
  | cons a as ih =>
    simp only [applied, List.flatMap_cons, List.filter_append, List.map_append, List.sum_append, List.map_cons,
      List.sum_cons] at ih ⊢
    rw [ih]

end

namespace Rewrites

variable {apply : Bool} {severity : String} {ws ws' : Workspace} {s : Source} {sources : List Source}
  {written : List (Source × Fix.Edited)}

lemma nil : Rewrites apply severity ws ws [] [] where
  which := rfl
  edited := nofun
  files := nofun
  others _ _ := rfl
  directory := rfl
  untouched _ := rfl

lemma mem_sources (h : Rewrites apply severity ws ws' sources written) {w : Source × Fix.Edited}
    (hw : w ∈ written) : w.1 ∈ sources := by
  have hmem : w.1 ∈ written.map Prod.fst := List.mem_map.mpr ⟨w, hw, rfl⟩
  rw [h.which] at hmem
  exact List.mem_of_mem_filter hmem

lemma unapplied (h : Rewrites apply severity ws ws' sources written) (happly : apply = false) : ws' = ws := by
  have hnone : written.map Prod.fst = [] := by
    rw [h.which]
    exact List.filter_eq_nil_iff.mpr fun s _ => by simp [Source.isRewritten, happly]
  exact h.untouched (List.map_eq_nil_iff.mp hnone)

/-- Only files become something else, and those stay files. -/
lemma isSearchable (h : Rewrites apply severity ws ws' sources written) (p : Path) :
    ws'.isSearchable p = ws.isSearchable p := by
  rw [Workspace.isSearchable, Workspace.isSearchable]
  by_cases hwritten : ∃ w ∈ written, w.1.path = p
  · obtain ⟨w, hw, rfl⟩ := hwritten
    obtain ⟨access, hbefore, hafter⟩ := h.files w hw
    rw [hbefore, hafter]
  · rw [h.others p fun w hw he => hwritten ⟨w, hw, he⟩]

/-- A file is still a file. -/
lemma fileAt (h : Rewrites apply severity ws ws' sources written) {p : Path} {bytes : Bytes} {access : Access}
    (hp : ws.FileAt p bytes access) : ∃ bytes', ws'.FileAt p bytes' access := by
  have hopen := (Workspace.isOpen_congr h.isSearchable p).trans hp.opened
  by_cases hwritten : ∃ w ∈ written, w.1.path = p
  · obtain ⟨w, hw, rfl⟩ := hwritten
    obtain ⟨access', hbefore, hafter⟩ := h.files w hw
    obtain ⟨-, rfl⟩ := Item.file.inj (Option.some.inj (hbefore.symm.trans hp.item))
    exact ⟨w.2.source, hp.root, hp.forward, hafter, hopen⟩
  · have hsame := h.others p fun w hw he => hwritten ⟨w, hw, he⟩
    exact ⟨bytes, hp.root, hp.forward, hsame.trans hp.item, hopen⟩

lemma keep (h : Rewrites apply severity ws ws' sources written)
    (hr : s.isRewritten ws apply severity = false) :
    Rewrites apply severity ws ws' (s :: sources) written :=
  { h with which := by rw [h.which, List.filter_cons_of_neg (by rw [hr]; simp)] }

/-- One more source before others with other files. -/
lemma write {access : Access} {e : Fix.Edited} (hfile : ws.FileAt s.path s.bytes access)
    (h : Rewrites apply severity (ws.put s.path (.file e.source access)) ws' sources written)
    (hnew : ∀ s' ∈ sources, s'.path ≠ s.path) (hr : s.isRewritten ws apply severity = true)
    (he : applySuggestions s.bytes (AsyncAction.found severity s) = .ok e) :
    Rewrites apply severity ws ws' (s :: sources) ((s, e) :: written) where
  which := by
    rw [List.map_cons, h.which, List.filter_cons_of_pos hr]
    exact congrArg _ (List.filter_congr fun s' hs' => Source.isRewritten_put hfile (hnew s' hs'))
  edited := List.forall_mem_cons.mpr ⟨he, h.edited⟩
  files := by
    refine List.forall_mem_cons.mpr ⟨⟨access, hfile.item, ?_⟩, fun w hw => ?_⟩
    · rw [h.others s.path fun w hw => hnew w.1 (h.mem_sources hw), hfile.item?_put, if_pos rfl]
    · obtain ⟨a, hbefore, hafter⟩ := h.files w hw
      rw [hfile.item?_put, if_neg (hnew w.1 (h.mem_sources hw))] at hbefore
      exact ⟨a, hbefore, hafter⟩
  others p hp := by
    obtain ⟨hs, hrest⟩ := List.forall_mem_cons.mp hp
    rw [h.others p hrest, hfile.item?_put, if_neg fun he => hs he.symm]
  directory := h.directory
  untouched := nofun

/-- Just the sources that can be rewritten are written. -/
lemma exists_written_iff (h : Rewrites apply severity ws ws' sources written) :
    (∃ w ∈ written, w.1 = s) ↔ s ∈ sources ∧ s.isRewritten ws apply severity = true := by
  rw [← List.mem_filter, ← h.which, List.mem_map]

lemma applied (h : Rewrites apply severity ws ws' sources written) :
    (written.map fun w => w.2.applied.length).sum = AsyncAction.applied ws apply severity sources := by
  rw [AsyncAction.applied, ← h.which, List.map_map]
  refine congrArg List.sum (List.map_congr_left fun w hw => ?_)
  simp only [Function.comp_apply, Source.edits, h.edited w hw]

/-- First some sources, then others with other files. -/
lemma append {ws₁ ws₂ : Workspace} {first rest : List Source} {written₁ written₂ : List (Source × Fix.Edited)}
    (h₁ : Rewrites apply severity ws ws₁ first written₁) (h₂ : Rewrites apply severity ws₁ ws₂ rest written₂)
    (hnew : ∀ s ∈ first, ∀ s' ∈ rest, s.path ≠ s'.path) :
    Rewrites apply severity ws ws₂ (first ++ rest) (written₁ ++ written₂) := by
  have hbefore : ∀ s ∈ rest, ws₁.item? s.path = ws.item? s.path :=
    fun s hs => h₁.others s.path fun w hw => hnew w.1 (h₁.mem_sources hw) s hs
  have hafter : ∀ s ∈ first, ws₂.item? s.path = ws₁.item? s.path :=
    fun s hs => h₂.others s.path fun w hw => (hnew s hs w.1 (h₂.mem_sources hw)).symm
  refine ⟨?_, ?_, ?_, fun p hp => ?_, h₂.directory.trans h₁.directory, fun hnone => ?_⟩
  · rw [List.map_append, h₁.which, h₂.which, List.filter_append]
    exact congrArg _ (List.filter_congr fun s hs => Source.isRewritten_congr (hbefore s hs))
  · exact List.forall_mem_append.mpr ⟨h₁.edited, h₂.edited⟩
  · refine List.forall_mem_append.mpr ⟨fun w hw => ?_, fun w hw => ?_⟩
    · rw [hafter w.1 (h₁.mem_sources hw)]
      exact h₁.files w hw
    · rw [← hbefore w.1 (h₂.mem_sources hw)]
      exact h₂.files w hw
  · obtain ⟨hp₁, hp₂⟩ := List.forall_mem_append.mp hp
    rw [h₂.others p hp₂, h₁.others p hp₁]
  · obtain ⟨hnone₁, hnone₂⟩ := List.append_eq_nil_iff.mp hnone
    rw [h₂.untouched hnone₂, h₁.untouched hnone₁]

/-- What becomes of an item depends on the item and on what was read there. -/
lemma item?_congr {ws₁ ws₁' ws₂ ws₂' : Workspace} {sources₁ sources₂ : List Source}
    {written₁ written₂ : List (Source × Fix.Edited)}
    (h₁ : Rewrites apply severity ws₁ ws₁' sources₁ written₁)
    (h₂ : Rewrites apply severity ws₂ ws₂' sources₂ written₂) {p : Path} (hitem : ws₁.item? p = ws₂.item? p)
    (hsame : ∀ s, s.path = p → (s ∈ sources₁ ↔ s ∈ sources₂)) : ws₁'.item? p = ws₂'.item? p := by
  have hwritten : ∀ s, s.path = p → ((∃ w ∈ written₁, w.1 = s) ↔ ∃ w ∈ written₂, w.1 = s) := by
    rintro s rfl
    rw [h₁.exists_written_iff, h₂.exists_written_iff, hsame s rfl, Source.isRewritten_congr hitem]
  by_cases hone : ∃ w ∈ written₁, w.1.path = p
  · obtain ⟨w, hw, rfl⟩ := hone
    obtain ⟨w', hw', hs⟩ := (hwritten w.1 rfl).mp ⟨w, hw, rfl⟩
    obtain ⟨access, hfile, hafter⟩ := h₁.files w hw
    obtain ⟨access', hfile', hafter'⟩ := h₂.files w' hw'
    have hedited := h₁.edited w hw
    have hedited' := h₂.edited w' hw'
    rw [hs] at hfile' hafter' hedited'
    rw [hitem, hfile'] at hfile
    obtain ⟨-, rfl⟩ := Item.file.inj (Option.some.inj hfile)
    rw [hedited] at hedited'
    rw [hafter, hafter', Except.ok.inj hedited']
  · have hother : ¬ ∃ w ∈ written₂, w.1.path = p := by
      rintro ⟨w, hw, hp⟩
      obtain ⟨w', hw', hs⟩ := (hwritten w.1 hp).mpr ⟨w, hw, rfl⟩
      exact hone ⟨w', hw', hs ▸ hp⟩
    rw [h₁.others p fun w hw he => hone ⟨w, hw, he⟩, hitem,
      h₂.others p fun w hw he => hother ⟨w, hw, he⟩]

end Rewrites

namespace Job

open AsyncAction

variable {job : Job} {severity : String} {ws : Workspace}

/-- A sweep rewrites what can be rewritten, and the findings of the other sources remain in order. -/
theorem RunsAt.sweep (h : job.RunsAt severity) (hn : ws.Nested) {sources : List Source}
    (hdistinct : sources.Pairwise (·.path ≠ ·.path))
    (hfiles : ∀ s ∈ sources, ∃ access, ws.FileAt s.path s.bytes access)
    (hin : ∀ s ∈ sources, s.Inside) :
    ∃ ws' written log, job.sweep ws sources =
        ⟨ws', remaining ws job.apply severity sources, (written.map fun w => w.2.applied.length).sum, log,
          none⟩ ∧
      Rewrites job.apply severity ws ws' sources written ∧ ws'.Nested := by
  -- The sources were read before the first write, so what carries the induction is that the files still to
  -- come hold what was read from them: each write concerns another path.
  induction sources generalizing ws with
  | nil => exact ⟨ws, [], [], rfl, .nil, hn⟩
  | cons s sources ih =>
    obtain ⟨hnew, hdistinct⟩ := List.pairwise_cons.mp hdistinct
    have hnew : ∀ s' ∈ sources, s'.path ≠ s.path := fun s' hs' => (hnew s' hs').symm
    obtain ⟨⟨access, hfile⟩, hfiles⟩ := List.forall_mem_cons.mp hfiles
    obtain ⟨hins, hin⟩ := List.forall_mem_cons.mp hin
    rw [remaining_cons]
    cases hr : s.isRewritten ws job.apply severity with
    | true =>
      obtain ⟨e, log, he, hone⟩ := h.sweepOne_rewritten hn hfile hins hr
      have hnext : ∀ s' ∈ sources,
          ∃ access', (ws.put s.path (.file e.source access)).FileAt s'.path s'.bytes access' := by
        intro s' hs'
        obtain ⟨access', hfile'⟩ := hfiles s' hs'
        exact ⟨access', hfile.put_other (hnew s' hs') hfile'⟩
      obtain ⟨ws', written, log', hrest, hrewrites, hn'⟩ := ih (hfile.nested_put hn) hdistinct hnext hin
      rw [remaining_put hfile hnew] at hrest
      refine ⟨ws', (s, e) :: written, log ++ log', ?_, hrewrites.write hfile hnew hr he, hn'⟩
      simp only [Job.sweep, hone, hrest]
      rfl
    | false =>
      obtain ⟨log, hone⟩ := h.sweepOne_kept hn hfile hins hr
      obtain ⟨ws', written, log', hrest, hrewrites, hn'⟩ := ih hn hdistinct hfiles hin
      refine ⟨ws', written, log ++ log', ?_, hrewrites.keep hr, hn'⟩
      simp only [Job.sweep, hone, hrest, Nat.zero_add]
      rfl

end Job

end AsyncActions
