import AsyncActions.Proofs.SeparateRuns

/-!
# A run on a directory is runs on its files

Nothing is carried from one file to the next: a run on a directory leaves, applies and reports what runs on its
files do, whatever their order, and what it does with a file does not depend on the other files.
-/

namespace AsyncActions.Command

open AsyncAction

/-- A run leaves every item as these runs in a row do, applies as much as they do together, and ends well if all
of them do. -/
structure SumOf (apply : Bool) (ws : Workspace) (done : Finished) (runs : List Finished) : Prop where
  items : ∀ p, done.workspace.item? p = (workspaceAfter ws runs).item? p
  count : apply = true → ∃ counts : List Nat,
    List.Forall₂ (fun each n => each.lines.getLast? = some s!"Applied {n} suggestion(s).") runs counts ∧
      done.lines.getLast? = some s!"Applied {counts.sum} suggestion(s)."
  code : done.code = 0 ↔ ∀ each ∈ runs, each.code = 0

variable {parser : Parser} {width : Nat} {ws ws' : Workspace} {options : List String} {a : Arguments}
  {path p : Path} {text : String} {files order : List Path} {access : DirectoryAccess}

lemma mem_sources_iff {s : Source} :
    s ∈ files.flatMap (sourcesAt parser ws) ↔ s.path ∈ files ∧ s ∈ sourcesAt parser ws s.path := by
  rw [List.mem_flatMap]
  constructor
  · rintro ⟨p, hp, hs⟩
    rw [path_of_mem_sourcesAt hs]
    exact ⟨hp, hs⟩
  · rintro ⟨hp, hs⟩
    exact ⟨s.path, hp, hs⟩

lemma path_of_mem_remaining {apply : Bool} {severity : String} {x : Finding}
    (h : x ∈ AsyncAction.remaining ws apply severity (sourcesAt parser ws p)) : x.location.path = p := by
  obtain ⟨⟨s, hs, hpath⟩, -⟩ := mem_remaining h
  rw [hpath, path_of_mem_sourcesAt hs]

/-- Of the findings about different files, those about one file. -/
lemma filter_flatMap_path (hnodup : files.Nodup) {found : Path → List Finding}
    (hfound : ∀ p, ∀ x ∈ found p, x.location.path = p) (p : Path) :
    (files.flatMap found).filter (·.location.path = p) = if p ∈ files then found p else [] := by
  induction files with
  | nil => rfl
  | cons q files ih =>
    obtain ⟨hnew, hnodup⟩ := List.nodup_cons.mp hnodup
    rw [List.flatMap_cons, List.filter_append, ih hnodup]
    by_cases hq : p = q
    · subst hq
      have hall : (found p).filter (·.location.path = p) = found p :=
        List.filter_eq_self.mpr fun x hx => by simpa using hfound p x hx
      rw [hall, if_neg hnew, if_pos List.mem_cons_self, List.append_nil]
    · have hnone : (found q).filter (·.location.path = p) = [] := by
        refine List.filter_eq_nil_iff.mpr fun x hx => ?_
        rw [hfound q x hx]
        simpa using Ne.symm hq
      simp only [hnone, List.nil_append, List.mem_cons, hq, false_or]

/-! ### A directory -/

/-- A run on a directory treats the files below it. -/
lemma treats_of_directory (hparser : ParsesInside parser) (h : ws.Orderly) (width : Nat)
    (hoptions : Options options a) (hknown : a.Known) (htext : Arguments.isOption text = false)
    (hresolve : ws.resolve (.ofString text) = .ok path) (hdirectory : ws.status path = .ok (.directory access)) :
    ∃ files, files.Pairwise (·.parts < ·.parts) ∧
      (∀ p, p ∈ files ↔ path.Gathered p ∧ ∃ bytes access, ws.item? p = some (.file bytes access)) ∧
      (∀ p ∈ files, Collected ws p) ∧
      Treats parser width ws a files (run parser .default width ws (options ++ [text]))
        (reported parser ws (options ++ [text])) := by
  have hdirect := Workspace.direct_of_resolve hresolve
  obtain rfl : access = .full := h.directory (Workspace.item?_of_status hdirect hdirectory).1
  have haccepts : Accepts ws { a with others := [text] } path :=
    ⟨⟨text, rfl, hresolve⟩, Or.inl ⟨_, hdirectory, rfl⟩, hknown.selection, hknown.severity⟩
  obtain ⟨files, said, hfiles, hcollected, -, htreats⟩ := treats_of_accepts hparser h width
    (hoptions.read_append htext) hoptions.analysis haccepts
  obtain ⟨hmem, hsorted⟩ := mem_targetFiles_iff h.toLawful h.listed hdirect hdirectory hfiles
  exact ⟨files, hsorted, hmem, hcollected, htreats.rewrites, htreats.findings_eq, htreats.lines, htreats.code⟩

/-- Runs that end well if their files have no findings left all do if none of the files has. -/
lemma code_eq_zero_iff {runs : List Finished} (h : List.Forall₂ (Says parser ws a) order runs) :
    (∀ p ∈ order, AsyncAction.remaining ws a.apply (severityOf a) (sourcesAt parser ws p) = []) ↔
      ∀ each ∈ runs, each.code = 0 := by
  induction h with
  | nil => exact ⟨nofun, nofun⟩
  | cons hsaid _ ih => rw [List.forall_mem_cons, List.forall_mem_cons, ih, hsaid.code]

/-- Files that are treated at once are treated as one after the other in any order. -/
lemma Treats.sumOf {done : Finished} {findings : List Finding}
    (htreats : Treats parser width ws a files done findings) (hparser : ParsesInside parser) (h : ws.Orderly)
    (hoptions : Options options a) (hknown : a.Known) (hnodup : files.Nodup)
    (hcollected : ∀ p ∈ files, Collected ws p) (hperm : order.Perm files) :
    SumOf a.apply ws done (runEach parser width options ws order) := by
  obtain ⟨⟨written', hrewrites'⟩, hsaid⟩ := rewrites_runEach hparser h width hoptions hknown
    (hperm.nodup_iff.mpr hnodup) fun p hp => hcollected p (hperm.mem_iff.mp hp)
  obtain ⟨written, hrewrites⟩ := htreats.rewrites
  refine ⟨fun p => ?_, fun happly => ?_, ?_⟩
  · refine hrewrites.item?_congr hrewrites' rfl fun s _ => ?_
    rw [mem_sources_iff, mem_sources_iff, hperm.mem_iff]
  · refine ⟨order.map fun p => AsyncAction.applied ws a.apply (severityOf a) (sourcesAt parser ws p), ?_, ?_⟩
    · rw [List.forall₂_map_right_iff]
      exact hsaid.flip.imp fun each p hp => hp.count happly
    · rw [htreats.count happly, (hperm.map _).sum_nat]
  · rw [htreats.code, htreats.findings_eq, List.flatMap_eq_nil_iff, ← code_eq_zero_iff hsaid]
    simp only [hperm.mem_iff]

/-- Where a file is as in another workspace, a run on the same directory reports the same about it and leaves it
the same. -/
lemma Treats.congr_at {files' : List Path} {done done' : Finished} {findings findings' : List Finding}
    (htreats : Treats parser width ws a files done findings)
    (htreats' : Treats parser width ws' a files' done' findings') (hnodup : files.Nodup)
    (hnodup' : files'.Nodup) (hmem : p ∈ files' ↔ p ∈ files) (hitem : ws'.item? p = ws.item? p) :
    findings'.filter (·.location.path = p) = findings.filter (·.location.path = p) ∧
      done'.workspace.item? p = done.workspace.item? p := by
  have hsources : sourcesAt parser ws' p = sourcesAt parser ws p := by
    rw [sourcesAt, sourcesAt, sourceAt?_congr hitem]
  constructor
  · have hremaining : AsyncAction.remaining ws' a.apply (severityOf a) (sourcesAt parser ws p) =
        AsyncAction.remaining ws a.apply (severityOf a) (sourcesAt parser ws p) :=
      AsyncAction.remaining_congr fun s hs => by rw [path_of_mem_sourcesAt hs, hitem]
    rw [htreats.findings_eq, htreats'.findings_eq,
      filter_flatMap_path hnodup (fun _ _ hx => path_of_mem_remaining hx) p,
      filter_flatMap_path hnodup' (fun _ _ hx => path_of_mem_remaining hx) p, hsources, hremaining]
    simp only [hmem]
  · obtain ⟨written, hrewrites⟩ := htreats.rewrites
    obtain ⟨written', hrewrites'⟩ := htreats'.rewrites
    refine hrewrites'.item?_congr hrewrites hitem fun s hs => ?_
    rw [mem_sources_iff, mem_sources_iff, hs, hmem, hsources]

/-- Options that name an unknown rule or severity are refused with any target. With others, a run on a directory
is the sum of runs on its files in any order, and shows what they report in the order of the files. What it
reports about a file, and what it leaves of it, is the same in any workspace in which the file is the same. -/
theorem run_directory (parser : Parser) (hparser : ParsesInside parser) (width : Nat) (ws : Workspace)
    (h : ws.Orderly) (options : List String) (a : Arguments) (hoptions : Options options a) (text : String)
    (htext : Arguments.isOption text = false) :
    (¬ a.Known → ∀ other, Arguments.isOption other = false →
      ∃ e, run parser .default width ws (options ++ [other]) = ⟨ws, [], [], .error (.usage e)⟩) ∧
    (a.Known → ∀ path access, ws.resolve (.ofString text) = .ok path →
      ws.status path = .ok (.directory access) →
      (∃ files, files.Pairwise (·.parts < ·.parts) ∧
        (∀ p, p ∈ files ↔ path.Gathered p ∧ ∃ bytes access, ws.item? p = some (.file bytes access)) ∧
        (∀ order, order.Perm files →
          SumOf a.apply ws (run parser .default width ws (options ++ [text]))
            (runEach parser width options ws order)) ∧
        (a.apply = false → (run parser .default width ws (options ++ [text])).workspace = ws) ∧
        (run parser .default width ws (options ++ [text])).lines =
          reportLines width (run parser .default width ws (options ++ [text])).workspace a
              (files.flatMap (sourcesAt parser ws)) (reported parser ws (options ++ [text])) ++
            (if a.apply then
              [s!"Applied {(files.map fun p => AsyncAction.applied ws a.apply (severityOf a)
                (sourcesAt parser ws p)).sum} suggestion(s)."]
            else []) ∧
        reported parser ws (options ++ [text]) =
          files.flatMap fun p => reported parser ws (options ++ [p.text])) ∧
      ∀ ws' : Workspace, ws'.Orderly → ws'.resolve (.ofString text) = .ok path →
        ws'.status path = .ok (.directory access) → ∀ p, ws'.item? p = ws.item? p →
          (reported parser ws' (options ++ [text])).filter (·.location.path = p) =
            (reported parser ws (options ++ [text])).filter (·.location.path = p) ∧
          (run parser .default width ws' (options ++ [text])).workspace.item? p =
            (run parser .default width ws (options ++ [text])).workspace.item? p) := by
  refine ⟨fun hknown _ hother => run_of_not_known parser width ws hoptions hknown hother,
    fun hknown path access hresolve hdirectory => ?_⟩
  obtain ⟨files, hsorted, hmem, hcollected, htreats⟩ :=
    treats_of_directory hparser h width hoptions hknown htext hresolve hdirectory
  have hnodup := Search.nodup_of_sorted hsorted
  refine ⟨⟨files, hsorted, hmem, fun order hperm => ?_, fun happly => ?_, htreats.lines, ?_⟩,
    fun ws' h' hresolve' hdirectory' p hitem => ?_⟩
  · exact htreats.sumOf hparser h hoptions hknown hnodup hcollected hperm
  · obtain ⟨written, hrewrites⟩ := htreats.rewrites
    exact hrewrites.unapplied happly
  · rw [htreats.findings_eq]
    refine List.flatMap_congr fun p hp => ?_
    rw [(treats_of_collected hparser h width hoptions hknown (hcollected p hp)).findings_eq,
      List.flatMap_singleton]
  · obtain ⟨files', hsorted', hmem', -, htreats'⟩ :=
      treats_of_directory hparser h' width hoptions hknown htext hresolve' hdirectory'
    refine htreats.congr_at htreats' hnodup (Search.nodup_of_sorted hsorted') ?_ hitem
    rw [hmem, hmem', hitem]

/-! ### Two files, one of them in a directory of its own -/

def homePath : Path := ⟨.absolute, ["w"]⟩

def otherPath : Path := ⟨.absolute, ["w", "lib", "other.ts"]⟩

/-- The file with nested actions, and what else stands in the directory. -/
def homeWith (others : List (Path × Item)) : Workspace :=
  ⟨homePath, (homePath, .directory) :: (actionsPath, .file nestedActions.bytes ⟨true, true⟩) :: others⟩

def oneFile : Workspace := homeWith []

def twoFiles : Workspace :=
  homeWith [(homePath.push "lib", .directory), (otherPath, .file nestedActions.bytes ⟨true, true⟩)]

lemma orderly_oneFile : oneFile.Orderly where
  rooted := by decide
  named := by decide
  once := by decide
  held := by decide
  above := by decide
  listed := by unfold Workspace.Listed; decide
  plain := by unfold Path.Plain; decide
  readable p bytes access h := by
    simp only [oneFile, homeWith, List.mem_cons, Prod.mk.injEq, reduceCtorEq, and_false, false_or,
      List.not_mem_nil, or_false, Item.file.injEq] at h
    rw [h.2.2]
  unlocked p access h := by
    simp only [oneFile, homeWith, List.mem_cons, Prod.mk.injEq, reduceCtorEq, and_false, or_false,
      List.not_mem_nil, Item.directory.injEq] at h
    exact h.2

lemma orderly_twoFiles : twoFiles.Orderly where
  rooted := by decide
  named := by decide
  once := by decide
  held := by decide
  above := by decide
  listed := by unfold Workspace.Listed; decide
  plain := by unfold Path.Plain; decide
  readable p bytes access h := by
    simp only [twoFiles, homeWith, List.mem_cons, Prod.mk.injEq, reduceCtorEq, and_false, false_or,
      List.not_mem_nil, or_false, Item.file.injEq] at h
    rcases h with ⟨-, -, rfl⟩ | ⟨-, -, rfl⟩ <;> rfl
  unlocked p access h := by
    simp only [twoFiles, homeWith, List.mem_cons, Prod.mk.injEq, reduceCtorEq, and_false, or_false, false_or,
      List.not_mem_nil, Item.directory.injEq] at h
    rcases h with ⟨-, h⟩ | ⟨-, h⟩ <;> exact h

lemma resolve_home {ws : Workspace} (h : ws.Orderly) (hitem : ws.item? homePath = some (.directory .full)) :
    ws.resolve (.ofString "/w") = .ok homePath ∧ ws.status homePath = .ok (.directory .full) := by
  have hpath : Path.ofString "/w" = homePath := by decide +kernel
  have hdirect : ws.Direct homePath := h.nested.direct rfl (by decide) hitem nofun
  have hlocate : ws.locateFrom false ws.linkDepth ⟨.absolute, []⟩ (ws.absolute homePath).parts = .ok homePath := by
    rw [Workspace.absolute_of_direct hdirect]
    exact h.nested.locateFrom false _ hdirect hitem (h.isOpen _)
  rw [hpath, Workspace.resolve_of_direct hdirect]
  simp only [Workspace.status, hlocate, bind, Except.bind, hitem, true_and]

/-- The files that are collected are these two. -/
lemma gathered_home_iff (p : Path) :
    homePath.Gathered p ∧ (∃ bytes access, twoFiles.item? p = some (.file bytes access)) ↔
      p ∈ [otherPath, actionsPath] := by
  constructor
  · rintro ⟨-, bytes, access, hitem⟩
    have hm := Workspace.mem_of_file hitem
    simp only [twoFiles, homeWith, List.mem_cons, Prod.mk.injEq, reduceCtorEq, and_false, false_or,
      List.not_mem_nil, or_false] at hm
    rcases hm with ⟨rfl, -⟩ | ⟨rfl, -⟩
    · exact List.mem_cons_of_mem _ List.mem_cons_self
    · exact List.mem_cons_self
  · intro hp
    rcases List.mem_cons.mp hp with rfl | hp
    · exact ⟨⟨["lib", "other.ts"], by decide, rfl, by decide, .typescript, by decide +kernel, nofun⟩, _, _, rfl⟩
    · rw [List.mem_singleton.mp hp]
      exact ⟨⟨["actions.js"], by decide, rfl, nofun, .javascript, by decide +kernel, nofun⟩, _, _, rfl⟩

def applyArguments : Arguments := ⟨[], [], none, true, false, false⟩

/-- A run on the directory does what runs on its two files do, the last first, and what it makes of the first does
not change when the second is removed. -/
theorem run_directory_twoFiles :
    let options := ["--apply-suggestions"]
    let done := run actionsParser .default 80 twoFiles (options ++ ["/w"])
    (ParsesInside actionsParser ∧ twoFiles.Orderly ∧ Options options applyArguments ∧ applyArguments.Known ∧
        Arguments.isOption "/w" = false) ∧
      SumOf true twoFiles done (runEach actionsParser 80 options twoFiles [otherPath, actionsPath]) ∧
      (run actionsParser .default 80 oneFile (options ++ ["/w"])).workspace.item? actionsPath =
        done.workspace.item? actionsPath := by
  intro options done
  have hoptions : Options options applyArguments := ⟨by decide +kernel, rfl, rfl⟩
  have hknown : applyArguments.Known := ⟨nofun, nofun⟩
  have htext : Arguments.isOption "/w" = false := by decide +kernel
  obtain ⟨hresolve, hstatus⟩ := resolve_home orderly_twoFiles rfl
  obtain ⟨hresolve', hstatus'⟩ := resolve_home orderly_oneFile rfl
  obtain ⟨-, hrun⟩ := run_directory actionsParser parsesInside_actionsParser 80 twoFiles orderly_twoFiles options
    applyArguments hoptions "/w" htext
  obtain ⟨⟨files, hsorted, hmem, hsum, -⟩, hother⟩ := hrun hknown homePath .full hresolve hstatus
  have hperm : [otherPath, actionsPath].Perm files :=
    (List.perm_ext_iff_of_nodup (by decide) (Search.nodup_of_sorted hsorted)).mpr
      fun p => (gathered_home_iff p).symm.trans (hmem p).symm
  exact ⟨⟨parsesInside_actionsParser, orderly_twoFiles, hoptions, hknown, htext⟩, hsum _ hperm,
    (hother oneFile orderly_oneFile hresolve' hstatus' actionsPath rfl).2⟩

end AsyncActions.Command
