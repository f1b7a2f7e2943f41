import AsyncActions.Proofs.CollectedFiles

/-!
# Which files a directory stands for

A file below a directory is collected if its suffix is known and no directory between them is ignored. So
whether it is depends on its own path and on nothing else that stands in the workspace.
-/

namespace AsyncActions

/-- Below the directory, the path enters no ignored directory and has a suffix that is looked for. -/
def Path.Gathered (directory p : Path) : Prop :=
  ∃ names, names ≠ [] ∧ p = directory.descend names ∧
    (∀ name ∈ names.dropLast, name ∉ Config.default.ignored) ∧ p.Supported true

namespace Entry

/-- Only the last of the names can be that of an ignored directory. -/
lemma Leads.not_ignored {ignored : List String} {es : List Entry} {names : List String} {e : Entry}
    (h : Leads ignored es names e) : ∀ name ∈ names.dropLast, name ∉ ignored := by
  induction h with
  | here => nofun
  | enter _ hname hl ih =>
    rw [List.dropLast_cons_of_ne_nil hl.ne_nil]
    exact List.forall_mem_cons.mpr ⟨hname, ih⟩

end Entry

namespace Workspace

/-- Every directory on the way to an item is an item itself, and may be listed and searched. -/
def Listed (ws : Workspace) : Prop :=
  ∀ entry ∈ ws.items, entry.1.parent.parts ≠ [] → (entry.1.parent, .directory .full) ∈ ws.items

variable {ws : Workspace} {p : Path} {i : Item} {name : String} {names : List String}

lemma length_lt_depth (hm : (p, i) ∈ ws.items) : p.parts.length < ws.depth := by
  have hlength : p.parts.length ∈ ws.items.map fun entry => entry.1.parts.length :=
    List.mem_map.mpr ⟨(p, i), hm, rfl⟩
  rw [depth, List.foldl_max_eq_max (List.ne_nil_of_mem hlength)]
  have := List.le_max_of_mem hlength
  omega

/-- The first step on the way to an item is an item too. -/
lemma Listed.step (h : ws.Listed) (hnames : names ≠ []) (hm : ((p.push name).descend names, i) ∈ ws.items) :
    (p.push name, .directory .full) ∈ ws.items := by
  induction names using List.reverseRecOn generalizing i with
  | nil => exact absurd rfl hnames
  | append_singleton names last ih =>
    have hparent : ((p.push name).descend (names ++ [last])).parent = (p.push name).descend names := by
      rw [Path.parent, Path.descend, ← List.append_assoc, List.dropLast_concat]
      rfl
    have hdirectory := h _ hm
    rw [hparent] at hdirectory
    have hdirectory := hdirectory (by simp [Path.descend, Path.push])
    by_cases hrest : names = []
    · rwa [hrest, Path.descend_nil] at hdirectory
    · exact ih hrest hdirectory

lemma entryAt_mem_entriesOf (hm : (p.push name, i) ∈ ws.items) (depth : Nat) :
    ws.entryAt depth (p.push name) i ∈ ws.entriesOf depth .full p := by
  refine List.mem_map.mpr ⟨_, mem_within.mpr ⟨hm, fun he => ?_, ?_⟩, rfl⟩
  · have hlength := congrArg (fun q : Path => q.parts.length) he
    simp [Path.push] at hlength
  · rw [Path.parent, Path.push, List.dropLast_concat]

lemma name_push (p : Path) (name : String) : (p.push name).name = name := by
  rw [Path.name, Path.push, List.getLast?_concat]
  rfl

/-- Names lead to a file of the workspace, if none on the way is ignored and the tree is deep enough. -/
lemma Listed.leads (h : ws.Listed) {ignored : List String} {bytes : Bytes} {access : Access} (depth : Nat)
    (hnames : names ≠ []) (hdepth : names.length ≤ depth + 1)
    (hignored : ∀ name ∈ names.dropLast, name ∉ ignored)
    (hm : (p.descend names, Item.file bytes access) ∈ ws.items) :
    ∃ file, Entry.Leads ignored (ws.entriesOf depth .full p) names (.file file false) := by
  induction names generalizing p depth with
  | nil => exact absurd rfl hnames
  | cons name rest ih =>
    rw [Path.descend_cons] at hm
    by_cases hrest : rest = []
    · subst hrest
      rw [Path.descend_nil] at hm
      have hentry := entryAt_mem_entriesOf hm depth
      have hfile : ws.entryAt depth (p.push name) (.file bytes access) = .file (p.push name).name false := by
        cases depth <;> rfl
      rw [hfile, name_push] at hentry
      exact ⟨name, .here hentry⟩
    · rw [List.dropLast_cons_of_ne_nil hrest] at hignored
      obtain ⟨hname, hignored⟩ := List.forall_mem_cons.mp hignored
      have hlength := List.length_pos_of_ne_nil hrest
      rw [List.length_cons] at hdepth
      obtain ⟨below, rfl⟩ : ∃ below, depth = below + 1 := ⟨depth - 1, by omega⟩
      have hentry := entryAt_mem_entriesOf (h.step hrest hm) (below + 1)
      rw [entryAt_directory rfl, name_push] at hentry
      obtain ⟨file, hl⟩ := ih below hrest (by omega) hignored hm
      exact ⟨file, .enter hentry hname hl⟩

end Workspace

namespace Command

variable {ws : Workspace} {path : Path} {files : List Path} {said : Log}

/-- A directory stands for the files below it whose paths say that they are collected, in the order of their
names. -/
theorem mem_targetFiles_iff (hlaw : ws.Lawful) (hlisted : ws.Listed) (hpath : ws.Direct path)
    (hdirectory : ws.status path = .ok (.directory .full))
    (hfiles : targetFiles ws .default path = .ok (files, said)) :
    (∀ p, p ∈ files ↔ path.Gathered p ∧ ∃ bytes access, ws.item? p = some (.file bytes access)) ∧
      files.Pairwise (·.parts < ·.parts) := by
  obtain ⟨hitem, hopen⟩ := Workspace.item?_of_status hpath hdirectory
  obtain ⟨hmem, hsorted⟩ := Search.sort_start_of_lists (s := search .default)
    (hlaw.lists_entriesOf rfl (ws.depth - 1) .full path) path
  rw [← eq_sort_of_targetFiles hpath hdirectory rfl hfiles] at hmem hsorted
  refine ⟨fun p => (hmem p).trans ⟨?_, ?_⟩, hsorted⟩
  · rintro ⟨names, file, hl, rfl, hsupported, -⟩
    exact ⟨⟨names, hl.ne_nil, rfl, hl.not_ignored, hsupported⟩, (hlaw.file_of_leads hitem hopen hl).2⟩
  · rintro ⟨⟨names, hnames, rfl, hignored, hsupported⟩, bytes, access, hitem⟩
    have hm := Workspace.mem_of_file hitem
    have hdepth := Workspace.length_lt_depth hm
    simp only [Path.descend, List.length_append] at hdepth
    obtain ⟨file, hl⟩ := hlisted.leads (ws.depth - 1) hnames (by omega) hignored hm
    exact ⟨names, file, hl, rfl, hsupported, rfl⟩

end Command

end AsyncActions
