import AsyncActions.Proofs.CollectedFiles
import AsyncActions.Proofs.RewrittenFiles
import AsyncActions.Proofs.UnbrokenReport

/-!
# What a run of the command does

A run whose arguments make no sense changes and shows nothing. Any other run reads the files of its target,
rewrites those that have findings and can be written if it is asked to, reports the findings of the others,
and its exit code says whether there are any.
-/

namespace AsyncActions.Command

/-- The trees of the parser lie in the bytes that it parses. -/
def ParsesInside (parser : Parser) : Prop :=
  ∀ path bytes l, Source.Inside ⟨path, bytes, (parser l bytes).root, (parser l bytes).broken⟩

/-- The severity at which findings are reported. -/
def severityOf (a : Arguments) : String := (a.severity.map Text.lower).getD defaultSeverity

/-- The arguments name one file that can be read and parsed, or one directory that can be listed, and no rule
or severity that does not exist. -/
structure Accepts (ws : Workspace) (a : Arguments) (path : Path) : Prop where
  target : ∃ text, a.others = [text] ∧ ws.resolve (.ofString text) = .ok path
  found : (∃ access, ws.status path = .ok (.directory access) ∧ access.listable = true) ∨
    ∃ bytes access l, ws.status path = .ok (.file bytes access) ∧ access.readable = true ∧
      path.language = .ok l
  selection : ∀ id ∈ a.selection, id = AsyncAction.ruleId
  severity : ∀ severity ∈ a.severity, Text.lower severity ∈ severities

/-- The arguments can be read, and ask for information or can be followed. -/
def Sensible (ws : Workspace) (args : List String) : Prop :=
  ∃ a, Arguments.read args = .ok a ∧ (a.information = true ∨ ∃ path, Accepts ws a path)

/-- The source in a file that can be read, in the language of its name. -/
def sourceAt? (parser : Parser) (ws : Workspace) (p : Path) : Option Source :=
  match ws.item? p, p.language with
  | some (.file bytes access), .ok l =>
    if access.readable then some ⟨p, bytes, (parser l bytes).root, (parser l bytes).broken⟩ else none
  | _, _ => none

/-- The sources of a run, what was said while they were found and loaded, and the sweep through them. -/
structure Pass where
  sources : List Source
  said : Log
  sweep : Sweep

/-- What a run does before it reports. -/
def pass (parser : Parser) (ws : Workspace) (a : Arguments) : Except UsageError Pass := do
  let path ← target ws a.others
  let job ← (job .default a).mapError .config
  let (sources, said) ← targetSources parser ws .default path
  return ⟨sources, said, job.sweep ws sources⟩

/-- The findings that a run reports: those that its pass through the sources leaves. -/
def reported (parser : Parser) (ws : Workspace) (args : List String) : List Finding :=
  match Arguments.read args with
  | .ok a =>
    if a.information then []
    else
      match pass parser ws a with
      | .ok p => p.sweep.remaining
      | .error _ => []
  | .error _ => []

/-- The report on findings in sources. -/
def reportLines (width : Nat) (ws : Workspace) (a : Arguments) (sources : List Source)
    (findings : List Finding) : List String :=
  let files := if sources.length ≤ 1 then [] else sources.map (·.path)
  ((Report.of findings files).page ws ⟨width, a.verbose⟩).lines.map (Terminal.Line.text false)

/-- What a run does with its sources. The findings that it reports are those of the sources that are not
rewritten, and the number it shows is the sum of the edits in the files that are written. -/
structure Effects (width : Nat) (ws : Workspace) (a : Arguments) (sources : List Source)
    (written : List (Source × Fix.Edited)) (findings : List Finding) (done : Finished) : Prop where
  rewrites : Rewrites a.apply (severityOf a) ws done.workspace sources written
  unapplied : a.apply = false → done.workspace = ws
  findings_eq : findings = AsyncAction.remaining ws a.apply (severityOf a) sources
  lines : done.lines = reportLines width done.workspace a sources findings ++
    if a.apply then [s!"Applied {(written.map fun w => w.2.applied.length).sum} suggestion(s)."] else []
  exitCode : done.exitCode = .ok (if findings = [] then 0 else 1)

variable {parser : Parser} {ws : Workspace} {a : Arguments} {path p : Path} {access : DirectoryAccess}

lemma target_eq_ok {texts : List String} :
    target ws texts = .ok path ↔ ∃ text, texts = [text] ∧ targetPath ws text = .ok path := by
  cases texts with
  | nil => simp [target]
  | cons text others =>
    cases htext : targetPath ws text with
    | error e => simp [target, htext, bind, Except.bind]
    | ok path' => by_cases hothers : others = [] <;> simp [target, htext, hothers, bind, Except.bind]

lemma targetPath_eq_ok {text : String} :
    targetPath ws text = .ok path ↔ ws.resolve (.ofString text) = .ok path ∧ ∃ i, ws.status path = .ok i ∧
      (∀ bytes access, i = .file bytes access → access.readable = true) ∧
      ∀ access, i = .directory access → access.listable = true := by
  cases hresolve : ws.resolve (.ofString text) with
  | error stuck => simp [targetPath, hresolve]
  | ok path' =>
    simp only [targetPath, hresolve, Except.ok.injEq]
    cases hstatus : ws.status path' with
    | error e =>
      refine iff_of_false nofun ?_
      rintro ⟨rfl, i, hi, -⟩
      rw [hstatus] at hi
      cases hi
    | ok i =>
      have hitem (h : path' = path) (j : Item) : ws.status path = .ok j ↔ i = j := by
        rw [← h, hstatus, Except.ok.injEq]
      cases i with
      | file bytes access =>
        by_cases hreadable : access.readable = true <;>
          simp +contextual [hreadable, hitem, Except.ok.injEq]
      | directory access =>
        by_cases hlistable : access.listable = true <;>
          simp +contextual [hlistable, hitem, Except.ok.injEq]
      | link target => simp +contextual [hitem, Except.ok.injEq]
      | pipe => simp +contextual [hitem, Except.ok.injEq]

/-- A target is found if it is a directory that can be listed or a file of a known language. -/
lemma targetFiles_eq_ok {config : Config} (hpath : ws.Direct path)
    (hlistable : ∀ access, ws.status path = .ok (.directory access) → access.listable = true) :
    (∃ found, targetFiles ws config path = .ok found) ↔
      (∃ access, ws.status path = .ok (.directory access)) ∨
        ∃ bytes access l, ws.status path = .ok (.file bytes access) ∧ path.language = .ok l := by
  constructor
  · rintro ⟨found, hfound⟩
    unfold targetFiles at hfound
    split at hfound
    · next bytes access hstatus =>
      cases hlanguage : path.language with
      | error e =>
        rw [hlanguage] at hfound
        cases hfound
      | ok l => exact Or.inr ⟨bytes, access, l, hstatus, rfl⟩
    · next access hstatus => exact Or.inl ⟨access, hstatus⟩
    · cases hfound
  · rintro (⟨access, hstatus⟩ | ⟨bytes, access, l, hstatus, hlanguage⟩)
    · have hfind := find_tree? config (Workspace.item?_of_status hpath hstatus).1 (hlistable access hstatus)
      simp only [targetFiles, hstatus, hfind]
      split
      · exact ⟨_, rfl⟩
      · exact ⟨_, rfl⟩
      · next herror => cases herror
    · exact ⟨([path], []), by simp only [targetFiles, hstatus, hlanguage]; rfl⟩

/-- A target that is a directory can be listed. -/
lemma Accepts.listable (h : Accepts ws a path) :
    ∀ access, ws.status path = .ok (.directory access) → access.listable = true := by
  intro access hstatus
  rcases h.found with ⟨access', hstatus', hlistable⟩ | ⟨bytes, access', l, hstatus', -⟩
  · cases hstatus.symm.trans hstatus'
    exact hlistable
  · cases hstatus.symm.trans hstatus'

lemma enabled_default (ids : List String) :
    Config.default.enabled (if ids = [] then none else some ids) =
      if ∀ id ∈ ids, id = AsyncAction.ruleId then .ok [asyncAction]
      else .error (.unknownRules (Config.default.unknownIds ids)) := by
  have hunknown : Config.default.unknownIds ids = [] ↔ ∀ id ∈ ids, id = AsyncAction.ruleId := by
    have hids : Config.default.ruleIds = [AsyncAction.ruleId] := rfl
    simp [Config.unknownIds, hids]
  cases ids with
  | nil => simp [Config.enabled, Config.default]
  | cons id ids =>
    rw [if_neg (List.cons_ne_nil _ _), Config.enabled]
    by_cases hall : ∀ id' ∈ id :: ids, id' = AsyncAction.ruleId
    · have hid : (id :: ids).contains asyncAction.id = true := by simp [hall id, asyncAction]
      have hrules : Config.default.rules.filter (fun r => (id :: ids).contains r.id) = [asyncAction] :=
        List.filter_cons_of_pos hid
      rw [if_pos hall, if_pos (hunknown.mpr hall), hrules]
    · rw [if_neg hall, if_neg fun he => hall (hunknown.mp he)]

/-- The severity in the arguments is set for the rule for server actions. -/
lemma withSeverity_default (severity : String) :
    Config.default.withSeverity severity (some ([asyncAction].map Rule.id)) =
      if Text.lower severity ∈ severities then
        .ok { Config.default with severity := [(AsyncAction.ruleId, Text.lower severity)] }
      else .error (.unknownSeverity (Text.lower severity)) := by
  simp only [Config.withSeverity, List.contains_iff_mem]
  rfl

/-- The configuration with the severity of the arguments, if they have one. -/
def configOf (a : Arguments) : Config :=
  { Config.default with
    severity := (a.severity.map fun severity => (AsyncAction.ruleId, Text.lower severity)).toList }

/-- The rule for server actions at that severity. -/
def jobOf (a : Arguments) : Job := ⟨[asyncAction], configOf a, a.apply⟩

/-- What the arguments ask for can be done if they name no other rule and no other severity. -/
lemma job_eq_ok {j : Job} :
    job .default a = .ok j ↔ (∀ id ∈ a.selection, id = AsyncAction.ruleId) ∧
      (∀ severity ∈ a.severity, Text.lower severity ∈ severities) ∧ j = jobOf a := by
  by_cases hselection : ∀ id ∈ a.selection, id = AsyncAction.ruleId
  · rw [and_iff_right hselection]
    simp only [job, enabled_default, if_pos hselection, bind, Except.bind]
    cases hseverity : a.severity with
    | none =>
      have hconfig : configOf a = .default := by rw [configOf, hseverity]; rfl
      simp [jobOf, hconfig, pure, Except.pure, eq_comm]
    | some severity =>
      simp only [withSeverity_default]
      by_cases hknown : Text.lower severity ∈ severities
      · simp [hknown, jobOf, configOf, hseverity, pure, Except.pure, eq_comm]
      · simp [hknown]
  · simp [job, enabled_default, bind, Except.bind, hselection]

lemma runsAt_jobOf (a : Arguments) : (jobOf a).RunsAt (severityOf a) where
  rules := rfl
  severity := by
    simp only [jobOf, configOf, severityOf, Config.severityFor]
    cases a.severity with
    | none => rfl
    | some severity => simp

lemma loadOne_of_collected (parser : Parser) (hn : ws.Nested) (h : Collected ws p) :
    ∃ log, Loading.loadOne parser ws p none = .ok ⟨sourceAt? parser ws p, log⟩ := by
  obtain ⟨bytes, access, hfile⟩ := h.file
  obtain ⟨l, hlanguage⟩ := h.language
  have hread := hfile.read hn
  simp only [Loading.loadOne, hlanguage, Loading.load, hread, sourceAt?, hfile.item, Except.map]
  cases access.readable with
  | true => exact ⟨_, rfl⟩
  | false => exact ⟨_, rfl⟩

/-- Files that cannot be read are left out. -/
lemma loadAll_of_collected (parser : Parser) (hn : ws.Nested) {files : List Path}
    (h : ∀ p ∈ files, Collected ws p) :
    ∃ log, Loading.loadAll parser ws files = .ok (files.filterMap (sourceAt? parser ws), log) := by
  obtain ⟨loaded, hloaded, hsources⟩ : ∃ loaded,
      files.mapM (fun p => Loading.loadOne parser ws p none) = .ok loaded ∧
        loaded.filterMap (·.source) = files.filterMap (sourceAt? parser ws) := by
    induction files with
    | nil => exact ⟨[], rfl, rfl⟩
    | cons p files ih =>
      obtain ⟨hp, hrest⟩ := List.forall_mem_cons.mp h
      obtain ⟨log, hone⟩ := loadOne_of_collected parser hn hp
      obtain ⟨loaded, hloaded, hsources⟩ := ih hrest
      refine ⟨⟨sourceAt? parser ws p, log⟩ :: loaded, ?_, ?_⟩
      · rw [List.mapM_cons, hone, hloaded]
        rfl
      · rw [List.filterMap_cons, List.filterMap_cons, hsources]
  exact ⟨_, by rw [Loading.loadAll, hloaded, ← hsources]; rfl⟩

lemma of_sourceAt? {s : Source} (h : sourceAt? parser ws p = some s) :
    s.path = p ∧ (∃ access, ws.item? p = some (.file s.bytes access)) ∧ (ParsesInside parser → s.Inside) := by
  unfold sourceAt? at h
  split at h
  · next bytes access l hitem hlanguage =>
    split at h
    · cases h
      exact ⟨rfl, ⟨access, hitem⟩, fun hparser => hparser p bytes l⟩
    · cases h
  · cases h

/-- Different paths give sources at different paths. -/
lemma distinct_sources {files : List Path} (h : files.Nodup) :
    (files.filterMap (sourceAt? parser ws)).Pairwise (·.path ≠ ·.path) := by
  refine List.pairwise_filterMap.mpr (h.imp fun {p q} hne s hs t ht => ?_)
  rw [(of_sourceAt? hs).1, (of_sourceAt? ht).1]
  exact hne

/-- A collected file is still one after the sweep, so a report can show it. -/
lemma presentable_of_collected (hplain : ∀ entry ∈ ws.items, entry.1.Plain)
    (h : Collected ws p) {apply : Bool} {severity : String} {ws' : Workspace} {sources : List Source}
    {written : List (Source × Fix.Edited)} (hrewrites : Rewrites apply severity ws ws' sources written)
    (hn : ws'.Nested) : Report.Presentable ws' p := by
  obtain ⟨bytes, access, hfile⟩ := h.file
  obtain ⟨bytes', hafter⟩ := hrewrites.fileAt hfile.toFileAt
  exact ⟨Path.ofString_text hfile.root hfile.named, hafter.direct hn, hplain _ (Workspace.mem_of_file hfile.item)⟩

lemma mem_remaining {apply : Bool} {severity : String} {sources : List Source} {f : Finding}
    (h : f ∈ AsyncAction.remaining ws apply severity sources) :
    (∃ s ∈ sources, f.location.path = s.path) ∧ '[' ∉ f.message.toList := by
  obtain ⟨s, hs, hf⟩ := List.mem_flatMap.mp h
  obtain ⟨hpath, hmessage, -⟩ := AsyncAction.mem_found hf
  exact ⟨⟨s, List.mem_of_mem_filter hs, hpath⟩, by rw [hmessage]; decide⟩

/-! ### Runs -/

/-- A run passes through its sources and reports. The rules are never all disabled. -/
lemma runArguments_eq_pass (parser : Parser) (width : Nat) (hinformation : a.information = false) :
    runArguments parser .default width ws a =
      (pass parser ws a).map fun p => finish width a p.sources p.said p.sweep := by
  simp only [runArguments, pass, hinformation, bind, Except.bind, pure, Except.pure, Bool.false_eq_true, if_false]
  cases target ws a.others with
  | error e => rfl
  | ok path =>
    cases hjob : job .default a with
    | error e => rfl
    | ok j =>
      obtain ⟨-, -, rfl⟩ := job_eq_ok.mp hjob
      cases htarget : targetSources parser ws .default path with
      | error e => simp [jobOf, htarget, Except.mapError, Except.map]
      | ok loaded => simp [jobOf, htarget, Except.mapError, Except.map]

/-- Arguments that make sense lead through the sources of their target. -/
lemma pass_of_accepts (parser : Parser) (hlaw : ws.Lawful) (h : Accepts ws a path) :
    ∃ files said log, targetFiles ws .default path = .ok (files, said) ∧
      (∀ p ∈ files, Collected ws p) ∧ files.Nodup ∧
      pass parser ws a = .ok ⟨files.filterMap (sourceAt? parser ws), log,
        (jobOf a).sweep ws (files.filterMap (sourceAt? parser ws))⟩ := by
  obtain ⟨text, hothers, hresolve⟩ := h.target
  have hdirect := Workspace.direct_of_resolve hresolve
  have htarget : target ws a.others = .ok path := by
    refine target_eq_ok.mpr ⟨text, hothers, targetPath_eq_ok.mpr ⟨hresolve, ?_⟩⟩
    rcases h.found with ⟨access, hstatus, hlistable⟩ | ⟨bytes, access, l, hstatus, hreadable, -⟩
    · exact ⟨_, hstatus, nofun, fun _ he => Item.directory.inj he ▸ hlistable⟩
    · exact ⟨_, hstatus, fun _ _ he => (Item.file.inj he).2 ▸ hreadable, nofun⟩
  obtain ⟨⟨files, said⟩, hfiles⟩ : ∃ found, targetFiles ws .default path = .ok found := by
    refine (targetFiles_eq_ok hdirect h.listable).mpr (h.found.imp ?_ ?_)
    · rintro ⟨access, hstatus, -⟩
      exact ⟨access, hstatus⟩
    · rintro ⟨bytes, access, l, hstatus, -, hlanguage⟩
      exact ⟨bytes, access, l, hstatus, hlanguage⟩
  obtain ⟨hcollected, hnodup⟩ := collected_of_targetFiles hlaw hdirect h.listable hfiles
  obtain ⟨loading, hload⟩ := loadAll_of_collected parser hlaw.nested hcollected
  have hjob : job .default a = .ok (jobOf a) := job_eq_ok.mpr ⟨h.selection, h.severity, rfl⟩
  refine ⟨files, said, said ++ loading, hfiles, hcollected, hnodup, ?_⟩
  simp only [pass, htarget, hjob, targetSources, hfiles, hload, bind, Except.bind, Except.mapError, pure,
    Except.pure]

/-- A run on arguments that make sense goes through the sources of its target. -/
lemma runArguments_of_accepts (parser : Parser) (hlaw : ws.Lawful) (width : Nat)
    (hinformation : a.information = false) (h : Accepts ws a path) :
    ∃ files said log, targetFiles ws .default path = .ok (files, said) ∧
      (∀ p ∈ files, Collected ws p) ∧ files.Nodup ∧
      runArguments parser .default width ws a =
        .ok (finish width a (files.filterMap (sourceAt? parser ws)) log
          ((jobOf a).sweep ws (files.filterMap (sourceAt? parser ws)))) := by
  obtain ⟨files, said, log, hfiles, hcollected, hnodup, hpass⟩ := pass_of_accepts parser hlaw h
  refine ⟨files, said, log, hfiles, hcollected, hnodup, ?_⟩
  rw [runArguments_eq_pass parser width hinformation, hpass]
  rfl

/-- Nothing else is run. -/
lemma accepts_of_runArguments {width : Nat} {done : Finished}
    (h : runArguments parser .default width ws a = .ok done) :
    a.information = true ∨ ∃ path, Accepts ws a path := by
  by_cases hinformation : a.information = true
  · exact Or.inl hinformation
  -- Whatever refuses the target, the rules or the severity ends the run, so each of them accepts.
  simp only [runArguments, if_neg hinformation] at h
  cases htarget : target ws a.others with
  | error e =>
    rw [htarget] at h
    cases h
  | ok path =>
    obtain ⟨text, hothers, htext⟩ := target_eq_ok.mp htarget
    obtain ⟨hresolve, i, hstatus, hreadable, hlistable⟩ := targetPath_eq_ok.mp htext
    have hlistable : ∀ access, ws.status path = .ok (.directory access) → access.listable = true :=
      fun access hdirectory => hlistable access (Except.ok.inj (hstatus.symm.trans hdirectory))
    cases hjob : job .default a with
    | error e =>
      simp only [htarget, hjob, bind, Except.bind, Except.mapError] at h
      cases h
    | ok j =>
      obtain ⟨hselection, hseverity, rfl⟩ := job_eq_ok.mp hjob
      cases hfiles : targetFiles ws .default path with
      | error e =>
        simp only [htarget, hjob, targetSources, hfiles, bind, Except.bind, Except.mapError] at h
        cases h
      | ok found =>
        have hfound := (targetFiles_eq_ok (Workspace.direct_of_resolve hresolve) hlistable).mp ⟨found, hfiles⟩
        refine Or.inr ⟨path, ⟨text, hothers, hresolve⟩, hfound.imp ?_ ?_, hselection, hseverity⟩
        · rintro ⟨access, hdirectory⟩
          exact ⟨access, hdirectory, hlistable access hdirectory⟩
        · rintro ⟨bytes, access, l, hfile, hlanguage⟩
          have hitem := Except.ok.inj (hstatus.symm.trans hfile)
          exact ⟨bytes, access, l, hfile, hreadable bytes access hitem, hlanguage⟩

/-- A run whose report does not break off shows the whole of it. -/
lemma finish_of_page {width : Nat} {sources : List Source} {said log : Log} {ws' : Workspace}
    {findings : List Finding} {applied : Nat}
    (hpage : ∀ files ⊆ sources.map (·.path),
      ((Report.of findings files).page ws' ⟨width, a.verbose⟩).failure = none) :
    finish width a sources said ⟨ws', findings, applied, log, none⟩ =
      ⟨ws', reportLines width ws' a sources findings ++
          if a.apply then [s!"Applied {applied} suggestion(s)."] else [], said ++ log,
        .ok (if findings = [] then 0 else 1)⟩ := by
  have hsub : (if sources.length ≤ 1 then [] else sources.map (·.path)) ⊆ sources.map (·.path) := by
    split
    · exact List.nil_subset _
    · exact List.Subset.refl _
  simp only [finish, hpage _ hsub]
  rfl

lemma source_of_collected (hlaw : ws.Lawful) {files : List Path} (hcollected : ∀ p ∈ files, Collected ws p)
    {s : Source} (hs : s ∈ files.filterMap (sourceAt? parser ws)) :
    Collected ws s.path ∧ (∃ access, ws.FileAt s.path s.bytes access) ∧ (ParsesInside parser → s.Inside) := by
  obtain ⟨p, hp, hsome⟩ := List.mem_filterMap.mp hs
  obtain ⟨rfl, ⟨access, hitem⟩, hinside⟩ := of_sourceAt? hsome
  obtain ⟨_, _, hfile⟩ := (hcollected _ hp).file
  exact ⟨hcollected _ hp, ⟨access, (hlaw.namedFile hitem hfile.opened).toFileAt⟩, hinside⟩

/-- What going through collected sources gives. -/
lemma sweep_of_collected (hparser : ParsesInside parser) (hlaw : ws.Lawful) (a : Arguments) {files : List Path}
    (hcollected : ∀ p ∈ files, Collected ws p) (hnodup : files.Nodup) :
    ∃ ws' written log, (jobOf a).sweep ws (files.filterMap (sourceAt? parser ws)) =
        ⟨ws', AsyncAction.remaining ws a.apply (severityOf a) (files.filterMap (sourceAt? parser ws)),
          (written.map fun w => w.2.applied.length).sum, log, none⟩ ∧
      Rewrites a.apply (severityOf a) ws ws' (files.filterMap (sourceAt? parser ws)) written ∧ ws'.Nested :=
  (runsAt_jobOf a).sweep hlaw.nested (distinct_sources hnodup)
    (fun _ hs => (source_of_collected hlaw hcollected hs).2.1)
    (fun _ hs => (source_of_collected hlaw hcollected hs).2.2 hparser)

/-- Going through collected sources takes effect. -/
lemma effects_finish (hparser : ParsesInside parser) (hlaw : ws.Lawful)
    (hplain : ∀ entry ∈ ws.items, entry.1.Plain) (width : Nat) (said : Log) {files : List Path}
    (hcollected : ∀ p ∈ files, Collected ws p) (hnodup : files.Nodup) :
    ∃ written, Effects width ws a (files.filterMap (sourceAt? parser ws)) written
      ((jobOf a).sweep ws (files.filterMap (sourceAt? parser ws))).remaining
      (finish width a (files.filterMap (sourceAt? parser ws)) said
        ((jobOf a).sweep ws (files.filterMap (sourceAt? parser ws)))) := by
  obtain ⟨ws', written, log, hsweep, hrewrites, hn⟩ := sweep_of_collected hparser hlaw a hcollected hnodup
  have hpresentable : ∀ s ∈ files.filterMap (sourceAt? parser ws), Report.Presentable ws' s.path :=
    fun s hs => presentable_of_collected hplain (source_of_collected hlaw hcollected hs).1 hrewrites hn
  refine ⟨written, ?_⟩
  -- The report shows paths as the workspace has them after the sweep.
  rw [hsweep, finish_of_page]
  · exact ⟨hrewrites, hrewrites.unapplied, rfl, rfl, rfl⟩
  · refine fun shown hshown => Report.failure_page (fun f hf => ?_) (fun p hp => ?_)
    · obtain ⟨⟨s, hs, hpath⟩, hmessage⟩ := mem_remaining hf
      exact ⟨hpath ▸ hpresentable s hs, hmessage⟩
    · obtain ⟨s, hs, rfl⟩ := List.mem_map.mp (hshown hp)
      exact hpresentable s hs

section

variable {width : Nat} {args : List String}

lemma run_of_read (hread : Arguments.read args = .ok a) :
    run parser .default width ws args =
      match runArguments parser .default width ws a with
      | .ok done => { done with log := done.log.from (threshold a.verbose) }
      | .error e => ⟨ws, [], [], .error (.usage e)⟩ := by
  simp only [run, hread, Except.mapError, bind, Except.bind]
  cases runArguments parser .default width ws a with
  | error e => rfl
  | ok done => rfl

/-- Arguments that make no sense end in an error before anything is written or shown. -/
lemma run_of_not_sensible (parser : Parser) (width : Nat) (h : ¬ Sensible ws args) :
    ∃ e, run parser .default width ws args = ⟨ws, [], [], .error (.usage e)⟩ := by
  cases hread : Arguments.read args with
  | error e => exact ⟨.arguments e, by rw [run, hread]; rfl⟩
  | ok a =>
    rw [run_of_read hread]
    cases hrun : runArguments parser .default width ws a with
    | error e => exact ⟨e, rfl⟩
    | ok done => exact absurd ⟨a, hread, accepts_of_runArguments hrun⟩ h

lemma run_of_information (hread : Arguments.read args = .ok a) (h : a.information = true) :
    run parser .default width ws args = ⟨ws, [], [], .ok 0⟩ := by
  rw [run_of_read hread, runArguments, if_pos h]
  rfl

lemma reported_of_pass (hread : Arguments.read args = .ok a) (hinformation : a.information = false) {done : Pass}
    (hpass : pass parser ws a = .ok done) : reported parser ws args = done.sweep.remaining := by
  simp [reported, hread, hinformation, hpass]

lemma run_of_accepts (hparser : ParsesInside parser) (hlaw : ws.Lawful)
    (hplain : ∀ entry ∈ ws.items, entry.1.Plain) (hread : Arguments.read args = .ok a)
    (hinformation : a.information = false) (h : Accepts ws a path) :
    ∃ files said written, targetFiles ws .default path = .ok (files, said) ∧
      (∀ p ∈ files, Collected ws p) ∧ files.Nodup ∧
      Effects width ws a (files.filterMap (sourceAt? parser ws)) written (reported parser ws args)
        (run parser .default width ws args) := by
  obtain ⟨files, said, log, hfiles, hcollected, hnodup, hpass⟩ := pass_of_accepts parser hlaw h
  obtain ⟨written, heffects⟩ := effects_finish (a := a) hparser hlaw hplain width log hcollected hnodup
  refine ⟨files, said, written, hfiles, hcollected, hnodup, ?_⟩
  rw [reported_of_pass hread hinformation hpass, run_of_read hread,
    runArguments_eq_pass parser width hinformation, hpass]
  exact ⟨heffects.rewrites, heffects.unapplied, heffects.findings_eq, heffects.lines, heffects.exitCode⟩

end

/-- A run on arguments that make no sense changes and shows nothing and ends in a usage error. Any other run,
unless it is asked for information, rewrites the files of its target that can be read and written and have
findings, if it is asked to, and reports the findings of the others. -/
theorem run_effects (parser : Parser) (hparser : ParsesInside parser) (width : Nat) (ws : Workspace)
    (hlaw : ws.Lawful) (hplain : ∀ entry ∈ ws.items, entry.1.Plain) (args : List String) :
    (¬ Sensible ws args → (run parser .default width ws args).code = 2 ∧
      ∃ e, run parser .default width ws args = ⟨ws, [], [], .error (.usage e)⟩) ∧
    ∀ a, Arguments.read args = .ok a →
      (a.information = true → (run parser .default width ws args).workspace = ws ∧
        (run parser .default width ws args).exitCode = .ok 0) ∧
      (a.information = false → ∀ path, Accepts ws a path →
        ∃ files said written, targetFiles ws .default path = .ok (files, said) ∧
          (∀ p ∈ files, Collected ws p) ∧ files.Nodup ∧
          Effects width ws a (files.filterMap (sourceAt? parser ws)) written (reported parser ws args)
            (run parser .default width ws args)) := by
  refine ⟨fun hnot => ?_, fun a hread => ⟨fun hinformation => ?_, fun hinformation path h => ?_⟩⟩
  · obtain ⟨e, he⟩ := run_of_not_sensible parser width hnot
    exact ⟨by rw [he]; rfl, e, he⟩
  · rw [run_of_information hread hinformation]
    exact ⟨rfl, rfl⟩
  · exact run_of_accepts hparser hlaw hplain hread hinformation h

/-! ### A run that rewrites a file -/

open AsyncAction

def actionsPath : Path := ⟨.absolute, ["w", "actions.js"]⟩

/-- A directory with a file, which holds two nested actions, and with a directory that is locked. -/
def actionsWorkspace : Workspace :=
  ⟨⟨.absolute, ["w"]⟩, [(actionsPath, .file nestedActions.bytes ⟨true, true⟩),
    (⟨.absolute, ["w", "locked"]⟩, .directory ⟨false, false⟩),
    (⟨.absolute, ["w", "locked", "actions.js"]⟩, .file nestedActions.bytes ⟨true, true⟩)]⟩

/-- What is no nested actions is an empty program. -/
def actionsParser : Parser := fun _ bytes =>
  if bytes = nestedActions.bytes then ⟨nestedActions.root, false, true⟩
  else ⟨.mk "program" true none ⟨0, 0, ⟨0, 0⟩, ⟨0, 0⟩⟩ [], false, true⟩

lemma parsesInside_actionsParser : ParsesInside actionsParser := by
  have hinside : nestedActions.Inside := by
    unfold Source.Inside
    decide
  intro path bytes l
  unfold actionsParser
  split
  · next h =>
    subst h
    exact hinside
  · intro n hn
    rw [List.mem_singleton.mp hn]
    exact ⟨Int.le_refl 0, Int.le_refl 0, Int.natCast_nonneg _⟩

lemma lawful_actionsWorkspace : actionsWorkspace.Lawful where
  rooted := by decide
  named := by decide
  once := by decide
  held := by decide
  above := by decide

lemma plain_actionsWorkspace : ∀ entry ∈ actionsWorkspace.items, entry.1.Plain := by
  unfold Path.Plain
  decide

lemma found_nestedActions (path : Path) (severity : String) :
    found severity { nestedActions with path := path } ≠ [] := by
  have hflagged : flagged { nestedActions with path := path } =
      nestedActions.root.functions nestedActions.bytes := flagged_nestedActions
  have hcounted : ∀ n ∈ nestedActions.root.preorder, n.Counted := by decide
  have hplaced : ∀ f ∈ flagged { nestedActions with path := path }, f.Placed := by
    intro f hf
    rw [hflagged, ← flagged_nestedActions] at hf
    exact placed_of_flagged hcounted hf
  rw [found, (run_of_placed severity hplaced).1, hflagged, ne_eq, List.map_eq_nil_iff]
  decide

def actionsArguments : Arguments := ⟨["/w/actions.js"], [], none, true, false, false⟩

lemma fileAt_actionsPath : actionsWorkspace.FileAt actionsPath nestedActions.bytes ⟨true, true⟩ where
  root := rfl
  forward := by decide
  item := by decide
  opened := by decide

lemma accepts_actionsArguments : Accepts actionsWorkspace actionsArguments actionsPath where
  target := by
    have hpath : Path.ofString "/w/actions.js" = actionsPath := by decide +kernel
    refine ⟨_, rfl, ?_⟩
    rw [hpath, Workspace.resolve_of_direct (fileAt_actionsPath.direct lawful_actionsWorkspace.nested)]
  found := Or.inr ⟨_, _, .javascript, fileAt_actionsPath.status lawful_actionsWorkspace.nested, rfl,
    by decide +kernel⟩
  selection := nofun
  severity := nofun

/-- The file is written with what applying its findings gives, none remain, and the number of edits is said. -/
theorem run_effects_actionsWorkspace :
    let done := run actionsParser .default 80 actionsWorkspace ["--apply-suggestions", "/w/actions.js"]
    (ParsesInside actionsParser ∧ actionsWorkspace.Lawful ∧
        ∀ entry ∈ actionsWorkspace.items, entry.1.Plain) ∧
      done.exitCode = .ok 0 ∧ ∃ edited,
        applySuggestions nestedActions.bytes
          (found defaultSeverity { nestedActions with path := actionsPath }) = .ok edited ∧
        done.workspace.item? actionsPath = some (.file edited.source ⟨true, true⟩) ∧
        done.lines.getLast? = some s!"Applied {edited.applied.length} suggestion(s)." := by
  intro done
  have hread : Arguments.read ["--apply-suggestions", "/w/actions.js"] = .ok actionsArguments := by
    decide +kernel
  obtain ⟨-, hrun⟩ := run_effects actionsParser parsesInside_actionsParser 80 actionsWorkspace
    lawful_actionsWorkspace plain_actionsWorkspace ["--apply-suggestions", "/w/actions.js"]
  obtain ⟨files, said, written, hfiles, -, -, heffects⟩ := (hrun _ hread).2 rfl _ accepts_actionsArguments
  have hlanguage : actionsPath.language = .ok .javascript := by decide +kernel
  have hone : files = [actionsPath] := by
    simp only [targetFiles, fileAt_actionsPath.status lawful_actionsWorkspace.nested, hlanguage] at hfiles
    cases hfiles
    rfl
  have hsource : sourceAt? actionsParser actionsWorkspace actionsPath =
      some { nestedActions with path := actionsPath } := by
    simp only [sourceAt?, fileAt_actionsPath.item, hlanguage, if_true, actionsParser]
    rfl
  have hrewritten : Source.isRewritten actionsWorkspace true defaultSeverity
      { nestedActions with path := actionsPath } = true := by
    simp [Source.isRewritten, found_nestedActions, Workspace.isWritable, fileAt_actionsPath.item]
  rw [hone, List.filterMap_cons_some hsource, List.filterMap_nil] at heffects
  have hremaining : remaining actionsWorkspace true defaultSeverity
      [{ nestedActions with path := actionsPath }] = [] := by
    rw [remaining_cons, if_pos hrewritten]
    rfl
  have hwhich : written.map Prod.fst = [{ nestedActions with path := actionsPath }] :=
    heffects.rewrites.which.trans (List.filter_cons_of_pos hrewritten)
  obtain ⟨w, rfl, hsame⟩ := List.map_eq_singleton_iff.mp hwhich
  obtain ⟨access, hbefore, hafter⟩ := heffects.rewrites.files w List.mem_cons_self
  have hedited := heffects.rewrites.edited w List.mem_cons_self
  have hlines := heffects.lines
  rw [hsame] at hbefore hafter hedited
  have happly : actionsArguments.apply = true := rfl
  rw [if_pos happly, List.map_singleton, List.sum_singleton] at hlines
  obtain ⟨-, rfl⟩ := Item.file.inj (Option.some.inj (fileAt_actionsPath.item.symm.trans hbefore))
  exact ⟨⟨parsesInside_actionsParser, lawful_actionsWorkspace, plain_actionsWorkspace⟩,
    heffects.exitCode.trans (congrArg _ (if_pos (heffects.findings_eq.trans hremaining))), w.2, hedited, hafter,
    by rw [hlines, List.getLast?_concat]⟩

end AsyncActions.Command
