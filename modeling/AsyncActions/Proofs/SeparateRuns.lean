import AsyncActions.Proofs.CommandEffects
import AsyncActions.Proofs.DirectoryFiles

/-!
# Runs on one file after the other

The command can be run on a directory, or on each of its files on its own. A run on one file rewrites that file
at most, so the next one finds the workspace as orderly as before and its own file as it was.
-/

namespace AsyncActions

namespace Workspace

/-- A file system in which all files can be read, all directories can be listed and searched, and all names
can be shown as they are. -/
structure Orderly (ws : Workspace) : Prop extends ws.Lawful where
  listed : ws.Listed
  plain : ∀ entry ∈ ws.items, entry.1.Plain
  readable : ∀ p bytes access, (p, Item.file bytes access) ∈ ws.items → access.readable = true
  unlocked : ∀ p access, (p, Item.directory access) ∈ ws.items → access = .full

variable {ws : Workspace} {p : Path} {bytes contents : Bytes} {access : Access} {i : Item}

lemma mem_put {entry : Path × Item} :
    entry ∈ (ws.put p i).items ↔ entry = (p, i) ∨ entry ∈ ws.items ∧ entry.1 ≠ p := by
  simp [put, List.mem_filter]

lemma Lawful.put (hlaw : ws.Lawful) (hp : ws.FileAt p bytes access) :
    (ws.put p (.file contents access)).Lawful where
  rooted entry he := by
    rcases mem_put.mp he with rfl | ⟨he, -⟩
    · exact hp.root
    · exact hlaw.rooted entry he
  named entry he := by
    rcases mem_put.mp he with rfl | ⟨he, -⟩
    · exact (hlaw.namedFile hp.item hp.opened).named
    · exact hlaw.named entry he
  once := by
    refine List.pairwise_cons.mpr ⟨fun entry he => ?_, hlaw.once.filter _⟩
    have hne := (List.mem_filter.mp he).2
    simp only [decide_eq_true_eq] at hne
    exact hne.symm
  held entry he := by
    have hi : ∃ i, (ws.put p (.file contents access)).item? entry.1 = some i := by
      rw [hp.item?_put]
      split
      · exact ⟨_, rfl⟩
      · next hne =>
        rcases mem_put.mp he with rfl | ⟨he, -⟩
        · exact absurd rfl hne
        · exact ⟨_, hlaw.item?_of_mem he⟩
    obtain ⟨i, hi⟩ := hi
    exact hp.nested_put hlaw.nested _ _ hi
  above entry he habove := by
    rcases mem_put.mp he with rfl | ⟨he, hne⟩
    · have hbelow : (ws.put p (.file contents access)).isAbove p = false := hp.not_isAbove
      rw [hbelow] at habove
      cases habove
    · have habove' : ws.isAbove entry.1 = true := habove
      have hsame : (ws.put p (.file contents access)).item? entry.1 = ws.item? entry.1 := by
        rw [hp.item?_put, if_neg hne]
      rw [item?, item?, if_pos habove, if_pos habove'] at hsame
      rw [Item.directory.inj (Option.some.inj hsame)]
      exact hlaw.above entry he habove'

/-- Writing a file keeps the workspace in order. -/
lemma Orderly.put (h : ws.Orderly) (hp : ws.FileAt p bytes access) :
    (ws.put p (.file contents access)).Orderly where
  toLawful := h.toLawful.put hp
  listed entry he hparts := by
    have hbefore : ∃ i, (entry.1, i) ∈ ws.items := by
      rcases mem_put.mp he with rfl | ⟨he, -⟩
      · exact ⟨_, mem_of_file hp.item⟩
      · exact ⟨_, he⟩
    obtain ⟨i, hm⟩ := hbefore
    have hdirectory := h.listed _ hm hparts
    refine mem_put.mpr (Or.inr ⟨hdirectory, fun hsame => ?_⟩)
    have hitem := h.item?_of_mem hdirectory
    have hsame : entry.1.parent = p := hsame
    rw [hsame, hp.item] at hitem
    cases hitem
  plain entry he := by
    rcases mem_put.mp he with rfl | ⟨he, -⟩
    · exact h.plain (p, .file bytes access) (mem_of_file hp.item)
    · exact h.plain entry he
  readable q bytes' access' hm := by
    rcases mem_put.mp hm with heq | ⟨hm, -⟩
    · obtain ⟨-, he⟩ := Prod.mk.inj heq
      rw [(Item.file.inj he).2]
      exact h.readable _ _ _ (mem_of_file hp.item)
    · exact h.readable q bytes' access' hm
  unlocked q access' hm := by
    rcases mem_put.mp hm with heq | ⟨hm, -⟩
    · cases (Prod.mk.inj heq).2
    · exact h.unlocked q access' hm

lemma Orderly.directory (h : ws.Orderly) {access : DirectoryAccess} (hi : ws.item? p = some (.directory access)) :
    access = .full := by
  unfold item? at hi
  split at hi
  · unfold accessAbove at hi
    split at hi
    · next access' hlookup =>
      cases hi
      exact h.unlocked _ _ (mem_of_lookup hlookup)
    · cases hi
      rfl
  · exact h.unlocked _ _ (mem_of_lookup hi)

lemma Orderly.isOpen (h : ws.Orderly) (p : Path) : ws.isOpen p = true := by
  refine List.all_eq_true.mpr fun n _ => ?_
  unfold isSearchable
  split
  · next access hitem =>
    rw [h.directory hitem]
    rfl
  · rfl

end Workspace

namespace Command

namespace Arguments

/-- A target at the end does not change what the options before it say. -/
lemma readFrom_append {a b : Arguments} {args : List String} {text : String} (h : readFrom a args = .ok b)
    (htext : isOption text = false) :
    readFrom a (args ++ [text]) = .ok { b with others := b.others ++ [text] } := by
  have hdashes : text ≠ "--" := by
    rintro rfl
    exact absurd htext (by decide +kernel)
  fun_induction readFrom a args with
  | case1 a =>
    cases h
    simp [readFrom, hdashes, htext]
  | case2 a args =>
    cases h
    simp [readFrom]
  | case3 a arg args hne hopt ih => rw [List.cons_append, readFrom, if_neg hne, if_pos hopt, ih h]
  | case4 => cases h
  | case5 a arg args hne hopt a' hread ih =>
    rw [List.cons_append, readFrom, if_neg hne, if_neg hopt, hread]
    exact ih h
  | case6 a arg hne hopt a' w hread value args ih =>
    rw [List.cons_append, readFrom, if_neg hne, if_neg hopt, hread]
    exact ih h
  | case7 => cases h

/-- An absolute path is never taken for an option. -/
lemma isOption_text {p : Path} (h : p.root = .absolute) : isOption p.text = false := by
  have htext : p.text = "/" ++ "/".intercalate p.parts := by
    rw [Path.text, h, if_neg fun hroot => by cases hroot.1]
    rfl
  have hdash : "-".isPrefixOf p.text = false := by
    rw [String.isPrefixOf, String.startsWith_string_eq_false_iff, htext]
    simp
  rw [isOption, hdash, Bool.false_and]

/-- The rules and the severity that the arguments name exist. -/
structure Known (a : Arguments) : Prop where
  selection : ∀ id ∈ a.selection, id = AsyncAction.ruleId
  severity : ∀ severity ∈ a.severity, Text.lower severity ∈ severities

end Arguments

/-- The options ask for an analysis and name no target yet. -/
structure Options (options : List String) (a : Arguments) : Prop where
  read : Arguments.read options = .ok a
  targetless : a.others = []
  analysis : a.information = false

variable {parser : Parser} {width : Nat} {ws : Workspace} {options : List String} {a : Arguments}
  {path p : Path} {text : String}

lemma Options.read_append (h : Options options a) (htext : Arguments.isOption text = false) :
    Arguments.read (options ++ [text]) = .ok { a with others := [text] } := by
  rw [Arguments.read, Arguments.readFrom_append h.read htext, h.targetless]
  rfl

/-- Options that name something unknown are refused with any target. -/
lemma run_of_not_known (parser : Parser) (width : Nat) (ws : Workspace) (hoptions : Options options a)
    (hknown : ¬ a.Known) (htext : Arguments.isOption text = false) :
    ∃ e, run parser .default width ws (options ++ [text]) = ⟨ws, [], [], .error (.usage e)⟩ := by
  refine run_of_not_sensible parser width ?_
  rintro ⟨b, hread, hsensible⟩
  rw [hoptions.read_append htext] at hread
  cases hread
  rcases hsensible with hinformation | ⟨path, haccepts⟩
  · rw [hoptions.analysis] at hinformation
    cases hinformation
  · exact hknown ⟨haccepts.selection, haccepts.severity⟩

/-! ### One run -/

/-- The source in the file at a path, if there is one. -/
def sourcesAt (parser : Parser) (ws : Workspace) (p : Path) : List Source := (sourceAt? parser ws p).toList

lemma sourceAt?_congr {ws' : Workspace} (hitem : ws'.item? p = ws.item? p) :
    sourceAt? parser ws' p = sourceAt? parser ws p := by
  rw [sourceAt?, sourceAt?, hitem]

lemma path_of_mem_sourcesAt {s : Source} (h : s ∈ sourcesAt parser ws p) : s.path = p :=
  (of_sourceAt? (Option.mem_toList.mp h)).1

/-- What a run on files does, it does to each of them, and it reports and counts them one after the other. -/
structure Treats (parser : Parser) (width : Nat) (ws : Workspace) (a : Arguments) (files : List Path)
    (done : Finished) (findings : List Finding) : Prop where
  rewrites : ∃ written, Rewrites a.apply (severityOf a) ws done.workspace
    (files.flatMap (sourcesAt parser ws)) written
  findings_eq : findings = files.flatMap fun p =>
    AsyncAction.remaining ws a.apply (severityOf a) (sourcesAt parser ws p)
  lines : done.lines = reportLines width done.workspace a (files.flatMap (sourcesAt parser ws)) findings ++
    if a.apply then
      [s!"Applied {(files.map fun p =>
        AsyncAction.applied ws a.apply (severityOf a) (sourcesAt parser ws p)).sum} suggestion(s)."]
    else []
  code : done.code = 0 ↔ findings = []

lemma Treats.count {done : Finished} {files : List Path} {findings : List Finding}
    (h : Treats parser width ws a files done findings) (happly : a.apply = true) :
    done.lines.getLast? = some s!"Applied {(files.map fun p =>
      AsyncAction.applied ws a.apply (severityOf a) (sourcesAt parser ws p)).sum} suggestion(s)." := by
  rw [h.lines, if_pos happly, List.getLast?_concat]

lemma treats_of_accepts {args : List String} (hparser : ParsesInside parser) (h : ws.Orderly) (width : Nat)
    (hread : Arguments.read args = .ok a) (hanalysis : a.information = false) (haccepts : Accepts ws a path) :
    ∃ files said, targetFiles ws .default path = .ok (files, said) ∧ (∀ p ∈ files, Collected ws p) ∧
      files.Nodup ∧
      Treats parser width ws a files (run parser .default width ws args) (reported parser ws args) := by
  obtain ⟨files, said, written, hfiles, hcollected, hnodup, heffects⟩ : ∃ files said written,
      targetFiles ws .default path = .ok (files, said) ∧ (∀ p ∈ files, Collected ws p) ∧ files.Nodup ∧
        Effects width ws a (files.filterMap (sourceAt? parser ws)) written (reported parser ws args)
          (run parser .default width ws args) :=
    run_of_accepts hparser h.toLawful h.plain hread hanalysis haccepts
  have hsources : files.filterMap (sourceAt? parser ws) = files.flatMap (sourcesAt parser ws) :=
    List.filterMap_eq_flatMap_toList _ _
  rw [hsources] at heffects
  refine ⟨files, said, hfiles, hcollected, hnodup, ⟨written, heffects.rewrites⟩, ?_, ?_, ?_⟩
  · rw [heffects.findings_eq, AsyncAction.remaining_flatMap]
  · rw [heffects.lines, heffects.rewrites.applied, AsyncAction.applied_flatMap]
  · rw [Finished.code, heffects.exitCode]
    split_ifs with hnone <;> simp [hnone]

lemma targetFiles_of_collected (hn : ws.Nested) (h : Collected ws p) :
    targetFiles ws .default p = .ok ([p], []) := by
  obtain ⟨bytes, access, hfile⟩ := h.file
  obtain ⟨l, hlanguage⟩ := h.language
  simp only [targetFiles, hfile.status hn, hlanguage]
  rfl

/-- The text of a collected path names its file. -/
lemma accepts_of_collected (h : ws.Orderly) (hknown : a.Known) (hp : Collected ws p) :
    Accepts ws { a with others := [p.text] } p where
  target := by
    obtain ⟨bytes, access, hfile⟩ := hp.file
    refine ⟨p.text, rfl, ?_⟩
    rw [Path.ofString_text hfile.root hfile.named, Workspace.resolve_of_direct (hfile.direct h.nested)]
  found := by
    obtain ⟨bytes, access, hfile⟩ := hp.file
    obtain ⟨l, hlanguage⟩ := hp.language
    exact Or.inr ⟨bytes, access, l, hfile.status h.nested,
      h.readable _ _ _ (Workspace.mem_of_file hfile.item), hlanguage⟩
  selection := hknown.selection
  severity := hknown.severity

lemma treats_of_collected (hparser : ParsesInside parser) (h : ws.Orderly) (width : Nat)
    (hoptions : Options options a) (hknown : a.Known) (hp : Collected ws p) :
    Treats parser width ws a [p] (run parser .default width ws (options ++ [p.text]))
      (reported parser ws (options ++ [p.text])) := by
  obtain ⟨bytes, access, hfile⟩ := hp.file
  obtain ⟨files, said, hfiles, -, -, htreats⟩ := treats_of_accepts hparser h width
    (hoptions.read_append (Arguments.isOption_text hfile.root)) hoptions.analysis
    (accepts_of_collected h hknown hp)
  rw [targetFiles_of_collected h.nested hp] at hfiles
  cases hfiles
  exact ⟨htreats.rewrites, htreats.findings_eq, htreats.lines, htreats.code⟩

lemma workspace_finish (width : Nat) (a : Arguments) (sources : List Source) (said : Log) (s : Sweep) :
    (finish width a sources said s).workspace = s.workspace := by
  unfold finish
  dsimp only
  split <;> rfl

/-- A run on one file leaves an orderly workspace. -/
lemma orderly_of_collected (hparser : ParsesInside parser) (h : ws.Orderly) (width : Nat)
    (hoptions : Options options a) (hknown : a.Known) (hp : Collected ws p) :
    (run parser .default width ws (options ++ [p.text])).workspace.Orderly := by
  obtain ⟨bytes, access, hfile⟩ := hp.file
  obtain ⟨files, said, log, hfiles, hcollected, -, hrun⟩ := runArguments_of_accepts parser h.toLawful width
    (a := { a with others := [p.text] }) hoptions.analysis (accepts_of_collected h hknown hp)
  rw [targetFiles_of_collected h.nested hp] at hfiles
  cases hfiles
  rw [run_of_read (hoptions.read_append (Arguments.isOption_text hfile.root)), hrun]
  simp only [workspace_finish]
  have hjob := runsAt_jobOf { a with others := [p.text] }
  cases hs : sourceAt? parser ws p with
  | none =>
    rw [List.filterMap_cons_none hs, List.filterMap_nil]
    exact h
  | some s =>
    obtain ⟨-, ⟨access, hfile⟩, hinside⟩ :=
      source_of_collected h.toLawful hcollected (List.mem_filterMap.mpr ⟨p, List.mem_cons_self, hs⟩)
    have hinside := hinside hparser
    rw [List.filterMap_cons_some hs, List.filterMap_nil]
    cases hr : s.isRewritten ws a.apply (severityOf a) with
    | true =>
      obtain ⟨e, log, -, hone⟩ := hjob.sweepOne_rewritten h.nested hfile hinside hr
      simp only [Job.sweep, hone]
      exact h.put hfile
    | false =>
      obtain ⟨log, hone⟩ := hjob.sweepOne_kept h.nested hfile hinside hr
      simp only [Job.sweep, hone]
      exact h

/-! ### Runs in a row -/

/-- Runs on one file after the other, each in the workspace that the one before left. -/
def runEach (parser : Parser) (width : Nat) (options : List String) : Workspace → List Path → List Finished
  | _, [] => []
  | ws, p :: ps =>
    let done := run parser .default width ws (options ++ [p.text])
    done :: runEach parser width options done.workspace ps

/-- The workspace that the last of the runs left. -/
def workspaceAfter (ws : Workspace) (runs : List Finished) : Workspace :=
  (runs.getLast?.map Finished.workspace).getD ws

lemma workspaceAfter_cons (ws : Workspace) (done : Finished) (runs : List Finished) :
    workspaceAfter ws (done :: runs) = workspaceAfter done.workspace runs := by
  cases runs with
  | nil => rfl
  | cons next runs => rw [workspaceAfter, workspaceAfter, List.getLast?_cons_cons, List.getLast?_cons]; rfl

/-- What a run on one file says: how much was applied, and whether findings remain. -/
structure Says (parser : Parser) (ws : Workspace) (a : Arguments) (p : Path) (done : Finished) : Prop where
  count : a.apply = true → done.lines.getLast? =
    some s!"Applied {AsyncAction.applied ws a.apply (severityOf a) (sourcesAt parser ws p)} suggestion(s)."
  code : done.code = 0 ↔ AsyncAction.remaining ws a.apply (severityOf a) (sourcesAt parser ws p) = []

lemma Treats.says {done : Finished} {findings : List Finding} (h : Treats parser width ws a [p] done findings) :
    Says parser ws a p done where
  count happly := by simpa using h.count happly
  code := by simpa [h.findings_eq] using h.code

/-- Where other files were written, a run on this one says the same. -/
lemma Says.congr {ws' : Workspace} {done : Finished} (hitem : ws'.item? p = ws.item? p)
    (h : Says parser ws' a p done) : Says parser ws a p done := by
  have hsources : sourcesAt parser ws' p = sourcesAt parser ws p := by
    rw [sourcesAt, sourcesAt, sourceAt?_congr hitem]
  have hitems : ∀ s ∈ sourcesAt parser ws p, ws'.item? s.path = ws.item? s.path := by
    intro s hs
    rw [path_of_mem_sourcesAt hs, hitem]
  obtain ⟨hcount, hcode⟩ := h
  rw [hsources] at hcount hcode
  rw [AsyncAction.applied_congr hitems] at hcount
  rw [AsyncAction.remaining_congr hitems] at hcode
  exact ⟨hcount, hcode⟩

lemma Collected.congr {ws' : Workspace} (h' : ws'.Orderly) (hitem : ws'.item? p = ws.item? p)
    (h : Collected ws p) : Collected ws' p := by
  obtain ⟨bytes, access, hfile⟩ := h.file
  exact ⟨⟨bytes, access, h'.namedFile (hitem.trans hfile.item) (h'.isOpen p)⟩, h.language⟩

/-- Runs on different files, one after the other, rewrite what can be rewritten, and each says what it would say
in the workspace before all of them. -/
lemma rewrites_runEach (hparser : ParsesInside parser) (h : ws.Orderly) (width : Nat)
    (hoptions : Options options a) (hknown : a.Known) {order : List Path} (hnodup : order.Nodup)
    (hcollected : ∀ p ∈ order, Collected ws p) :
    (∃ written, Rewrites a.apply (severityOf a) ws (workspaceAfter ws (runEach parser width options ws order))
        (order.flatMap (sourcesAt parser ws)) written) ∧
      List.Forall₂ (Says parser ws a) order (runEach parser width options ws order) := by
  induction order generalizing ws with
  | nil => exact ⟨⟨[], .nil⟩, .nil⟩
  | cons p order ih =>
    obtain ⟨hnew, hnodup⟩ := List.nodup_cons.mp hnodup
    obtain ⟨hp, hcollected⟩ := List.forall_mem_cons.mp hcollected
    have htreats := treats_of_collected hparser h width hoptions hknown hp
    have horderly := orderly_of_collected hparser h width hoptions hknown hp
    obtain ⟨written, hrewrites⟩ := htreats.rewrites
    rw [List.flatMap_singleton] at hrewrites
    -- The first run leaves the files to come as they are, and so what is read in them.
    have hitem : ∀ q ∈ order,
        (run parser .default width ws (options ++ [p.text])).workspace.item? q = ws.item? q := by
      refine fun q hq => hrewrites.others q fun w hw he => hnew ?_
      rw [← path_of_mem_sourcesAt (hrewrites.mem_sources hw), he]
      exact hq
    obtain ⟨⟨written', hrest⟩, hsaid⟩ := ih horderly hnodup
      fun q hq => (hcollected q hq).congr horderly (hitem q hq)
    have hsources :
        order.flatMap (sourcesAt parser (run parser .default width ws (options ++ [p.text])).workspace) =
          order.flatMap (sourcesAt parser ws) := by
      refine List.flatMap_congr fun q hq => ?_
      rw [sourcesAt, sourcesAt, sourceAt?_congr (hitem q hq)]
    rw [hsources] at hrest
    rw [runEach, workspaceAfter_cons, List.flatMap_cons]
    refine ⟨⟨_, hrewrites.append hrest fun s hs s' hs' he => hnew ?_⟩, .cons htreats.says ?_⟩
    · obtain ⟨q, hq, hs'⟩ := List.mem_flatMap.mp hs'
      rw [path_of_mem_sourcesAt hs, path_of_mem_sourcesAt hs'] at he
      exact he ▸ hq
    · exact ((List.forall₂_and_left _ _).mpr ⟨hitem, hsaid⟩).imp fun q done hq => hq.2.congr hq.1

end Command

end AsyncActions
