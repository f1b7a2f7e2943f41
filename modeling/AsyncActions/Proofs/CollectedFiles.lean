import AsyncActions.Command.Run
import AsyncActions.Proofs.DirectPaths
import AsyncActions.Proofs.FoundSources

/-!
# Which files a target stands for

The tree of a lawful workspace holds its items, as far as the system lets them be seen. So whatever the
command collects is a file of the workspace that it can find again, each once, and of a language that can
be parsed.
-/

namespace AsyncActions

/-- What one step of a path can be called. -/
def Path.IsName (name : String) : Prop := name ≠ "" ∧ name ≠ "." ∧ name ≠ ".." ∧ '/' ∉ name.toList

instance (name : String) : Decidable (Path.IsName name) :=
  inferInstanceAs (Decidable (_ ∧ _ ∧ _ ∧ _))

lemma Path.descend_nil (p : Path) : p.descend [] = p := by
  rw [descend, List.append_nil]

lemma Path.descend_cons (p : Path) (name : String) (names : List String) :
    p.descend (name :: names) = (p.push name).descend names := by
  simp only [descend, push, List.append_assoc, List.singleton_append]

namespace Workspace

/-- The items of a file system: each has a path of its own and stands in a directory, and on the way to
the working directory there are directories only. -/
structure Lawful (ws : Workspace) : Prop where
  rooted : ∀ entry ∈ ws.items, entry.1.root = .absolute
  named : ∀ entry ∈ ws.items, ∀ name ∈ entry.1.parts, Path.IsName name
  once : ws.items.Pairwise (·.1 ≠ ·.1)
  held : ∀ entry ∈ ws.items, ws.IsDirectory entry.1.parent
  above : ∀ entry ∈ ws.items, ws.isAbove entry.1 = true →
    entry.2 = .directory (ws.accessAbove entry.1)

/-- A file with a path that can be written down and read again. -/
structure NamedFile (ws : Workspace) (p : Path) (bytes : Bytes) (access : Access) : Prop
    extends ws.FileAt p bytes access where
  named : ∀ name ∈ p.parts, Path.IsName name

section

variable {ws : Workspace} {p q : Path} {i : Item}

lemma Lawful.item?_of_mem (h : ws.Lawful) (hm : (p, i) ∈ ws.items) : ws.item? p = some i := by
  unfold item?
  split
  · next habove => exact congrArg some (h.above _ hm habove).symm
  · exact lookup_of_mem h.once hm

lemma mem_or_above (hi : ws.item? p = some i) :
    (ws.isAbove p = true ∧ ∃ access, i = .directory access) ∨ (p, i) ∈ ws.items := by
  unfold item? at hi
  split at hi
  · next habove => exact Or.inl ⟨habove, _, (Option.some.inj hi).symm⟩
  · exact Or.inr (mem_of_lookup hi)

/-- Only items are files. -/
lemma mem_of_file {bytes : Bytes} {access : Access} (hi : ws.item? p = some (.file bytes access)) :
    (p, Item.file bytes access) ∈ ws.items := by
  rcases mem_or_above hi with ⟨-, _, hdirectory⟩ | hm
  · cases hdirectory
  · exact hm

lemma Lawful.nested (h : ws.Lawful) : ws.Nested := by
  intro p i hi
  rcases mem_or_above hi with ⟨habove, -⟩ | hm
  · exact isDirectory_of_isAbove (isAbove_parent habove)
  · exact h.held _ hm

lemma Lawful.namedFile (h : ws.Lawful) {bytes : Bytes} {access : Access}
    (hi : ws.item? p = some (.file bytes access)) (hopen : ws.isOpen p = true) : ws.NamedFile p bytes access where
  root := h.rooted _ (mem_of_file hi)
  forward hdots := (h.named _ (mem_of_file hi) _ hdots).2.2.1 rfl
  item := hi
  opened := hopen
  named := h.named _ (mem_of_file hi)

/-! ### The tree of a workspace -/

/-- What is listed in a directory with that access, as trees of that depth. -/
def entriesOf (ws : Workspace) (depth : Nat) (access : DirectoryAccess) (p : Path) : List Entry :=
  (ws.within p).map fun (q, i) =>
    if access.searchable then ws.entryAt depth q i else .unreadable q.name false .denied

lemma entryAt_directory {access : DirectoryAccess} (h : access.listable = true) (depth : Nat) (p : Path) :
    ws.entryAt (depth + 1) p (.directory access) =
      .directory p.name false (ws.entriesOf depth access p) none := by
  rw [entryAt, if_pos h]
  rfl

lemma name_entryAt (ws : Workspace) (depth : Nat) (p : Path) (i : Item) :
    (ws.entryAt depth p i).name = p.name := by
  cases i with
  | directory access =>
    cases depth with
    | zero => rfl
    | succ depth =>
      rw [entryAt]
      split <;> rfl
  | file bytes access => cases depth <;> rfl
  | link target => cases depth <;> rfl
  | pipe => cases depth <;> rfl

lemma mem_within : (q, i) ∈ ws.within p ↔ (q, i) ∈ ws.items ∧ q ≠ p ∧ q.parent = p := by
  simp only [within, List.mem_filter, decide_eq_true_eq]

/-- What stands in a directory is one step from it. -/
lemma eq_push_of_parent (hne : q ≠ p) (hparent : q.parent = p) : q = p.push q.name := by
  obtain ⟨root, parts⟩ := q
  subst hparent
  have hparts : parts ≠ [] := by
    rintro rfl
    exact hne rfl
  have hsplit := List.dropLast_concat_getLast hparts
  have hname : Path.name ⟨root, parts⟩ = parts.getLast hparts := by
    rw [Path.name, List.getLast?_eq_getLast_of_ne_nil hparts]
    rfl
  rw [hname, Path.push, Path.parent, hsplit]

lemma Lawful.distinct_entriesOf (h : ws.Lawful) (depth : Nat) (access : DirectoryAccess) (p : Path) :
    Entry.Distinct (ws.entriesOf depth access p) := by
  have hname (entry : Path × Item) : (if access.searchable then ws.entryAt depth entry.1 entry.2
      else .unreadable entry.1.name false (.denied none)).name = entry.1.name := by
    split
    · exact name_entryAt ws depth entry.1 entry.2
    · rfl
  refine List.pairwise_map.mpr ((h.once.filter _).imp_of_mem fun {a b} ha hb hne hsame => ?_)
  obtain ⟨-, hane, haparent⟩ := mem_within.mp ha
  obtain ⟨-, hbne, hbparent⟩ := mem_within.mp hb
  have hsame : a.1.name = b.1.name := (hname a).symm.trans (hsame.trans (hname b))
  refine hne ?_
  rw [eq_push_of_parent hane haparent, eq_push_of_parent hbne hbparent, hsame]

/-- Nothing is found where nothing can be looked at. -/
lemma lists_unreadable (s : Search) {es : List Entry}
    (h : ∀ e ∈ es, ∃ name, e = .unreadable name false (.denied none)) : Walk.Lists s none es := by
  intro dir
  have hnone : (Walk.listing s dir none 0 es).files = [] := by
    cases es with
    | nil => rw [Walk.listing]; rfl
    | cons e es =>
      obtain ⟨name, rfl⟩ := h _ List.mem_cons_self
      rw [Walk.listing.eq_def]
      rfl
  rw [hnone]
  refine ⟨fun p => iff_of_false List.not_mem_nil ?_, List.nodup_nil⟩
  rintro ⟨names, file, hl, -⟩
  rcases Entry.leads_iff.mp hl with ⟨he, -⟩ | ⟨_, _, _, _, he, -⟩
  · obtain ⟨name, he⟩ := h _ he
    cases he
  · obtain ⟨name, he⟩ := h _ he
    cases he

lemma lists_nil (s : Search) (interruption : Option Interruption) : Walk.Lists s interruption [] := by
  intro dir
  have hnone : (Walk.listing s dir interruption 0 []).files = [] := by
    refine List.eq_nil_iff_forall_not_mem.mpr fun q => ?_
    rw [Walk.listing.eq_def]
    cases interruption with
    | none => exact List.not_mem_nil
    | some i => exact Walk.not_mem_refused
  rw [hnone]
  exact ⟨fun p => iff_of_false List.not_mem_nil Walk.not_finds_nil, List.nodup_nil⟩

lemma Lawful.lists_of_splits (h : ws.Lawful) {s : Search} {depth : Nat}
    (hsplits : ∀ q i, Walk.Splits s (ws.entryAt depth q i)) (access : DirectoryAccess) (p : Path) :
    Walk.Lists s none (ws.entriesOf depth access p) := by
  cases hsearchable : access.searchable with
  | true =>
    refine fun dir => Walk.listing_of_splits (fun e he => ?_) (h.distinct_entriesOf depth access p) dir 0
    obtain ⟨⟨q, i⟩, -, rfl⟩ := List.mem_map.mp he
    simp only [hsearchable, if_true]
    exact hsplits q i
  | false =>
    refine lists_unreadable s fun e he => ?_
    obtain ⟨⟨q, i⟩, -, rfl⟩ := List.mem_map.mp he
    exact ⟨q.name, if_neg (by rw [hsearchable]; simp)⟩

/-- In the tree of a workspace nothing is listed after a refusal that would be found without it. -/
lemma Lawful.splits_entryAt (h : ws.Lawful) {s : Search} (hs : s.followLinks = false) (depth : Nat) (p : Path)
    (i : Item) : Walk.Splits s (ws.entryAt depth p i) := by
  induction depth generalizing p i with
  | zero =>
    cases i with
    | file bytes access => exact Walk.splits_file _
    | directory access => exact Walk.splits_directory (lists_nil s none) _
    | link target => exact Walk.splits_link hs rfl
    | pipe => exact Walk.splits_special _
  | succ depth ih =>
    cases i with
    | file bytes access => exact Walk.splits_file _
    | directory access =>
      rw [entryAt]
      split
      · exact Walk.splits_directory (h.lists_of_splits ih access p) _
      · exact Walk.splits_directory (lists_nil s _) _
    | link target => exact Walk.splits_link hs rfl
    | pipe => exact Walk.splits_special _

lemma Lawful.lists_entriesOf (h : ws.Lawful) {s : Search} (hs : s.followLinks = false) (depth : Nat)
    (access : DirectoryAccess) (p : Path) : Walk.Lists s none (ws.entriesOf depth access p) :=
  h.lists_of_splits (h.splits_entryAt hs depth) access p

/-- What is known of what stands in a directory is known because it may be searched. -/
lemma searchable_of_mem_entriesOf {depth : Nat} {access : DirectoryAccess} {e : Entry}
    (he : e ∈ ws.entriesOf depth access p) (hknown : ∀ name linked refusal, e ≠ .unreadable name linked refusal) :
    access.searchable = true ∧ ∃ i, (p.push e.name, i) ∈ ws.items ∧ ws.entryAt depth (p.push e.name) i = e := by
  obtain ⟨⟨q, i⟩, hm, he⟩ := List.mem_map.mp he
  obtain ⟨hm, hne, hparent⟩ := mem_within.mp hm
  cases hsearchable : access.searchable with
  | false =>
    simp only [hsearchable, Bool.false_eq_true, if_false] at he
    exact absurd he.symm (hknown _ _ _)
  | true =>
    simp only [hsearchable, if_true] at he
    have hname : q.name = e.name := by rw [← he, name_entryAt]
    rw [← hname, ← eq_push_of_parent hne hparent]
    exact ⟨rfl, i, hm, he⟩

lemma mem_entriesOf_directory {depth : Nat} {access : DirectoryAccess} {name : String} {inner : List Entry}
    {interruption : Option Interruption}
    (hd : .directory name false inner interruption ∈ ws.entriesOf depth access p) :
    access.searchable = true ∧ ∃ access', (p.push name, .directory access') ∈ ws.items ∧
      (inner = [] ∨ ∃ below, inner = ws.entriesOf below access' (p.push name)) := by
  obtain ⟨hsearchable, i, hm, he⟩ := searchable_of_mem_entriesOf hd nofun
  refine ⟨hsearchable, ?_⟩
  cases i with
  | directory access' =>
    refine ⟨access', hm, ?_⟩
    cases depth with
    | zero =>
      rw [entryAt] at he
      exact Or.inl (Entry.directory.inj he).2.2.1.symm
    | succ below =>
      rw [entryAt] at he
      split at he
      · exact Or.inr ⟨below, (Entry.directory.inj he).2.2.1.symm⟩
      · exact Or.inl (Entry.directory.inj he).2.2.1.symm
  | file _ _ => cases depth <;> cases he
  | link _ => cases depth <;> cases he
  | pipe => cases depth <;> cases he

lemma mem_entriesOf_file {depth : Nat} {access : DirectoryAccess} {name : String}
    (he : .file name false ∈ ws.entriesOf depth access p) :
    access.searchable = true ∧ ∃ bytes access, (p.push name, .file bytes access) ∈ ws.items := by
  obtain ⟨hsearchable, i, hm, he⟩ := searchable_of_mem_entriesOf he nofun
  refine ⟨hsearchable, ?_⟩
  cases i with
  | file bytes access => exact ⟨bytes, access, hm⟩
  | directory =>
    cases depth with
    | zero => cases he
    | succ depth =>
      rw [entryAt] at he
      split at he <;> cases he
  | link _ => cases depth <;> cases he
  | pipe => cases depth <;> cases he

/-- Names that lead to a file of the tree lead to a file of the workspace, and the way there is open. -/
lemma Lawful.file_of_leads (h : ws.Lawful) {ignored : List String} {depth : Nat} {access : DirectoryAccess}
    {names : List String} {file : String} (hitem : ws.item? p = some (.directory access))
    (hopen : ws.isOpen p = true)
    (hl : Entry.Leads ignored (ws.entriesOf depth access p) names (.file file false)) :
    ws.isOpen (p.descend names) = true ∧
      ∃ bytes access, ws.item? (p.descend names) = some (.file bytes access) := by
  have hinside (hsearchable : access.searchable = true) (name : String) : ws.isOpen (p.push name) = true := by
    rw [isOpen_push, hopen, isSearchable_of_directory hitem, hsearchable]
    rfl
  induction names generalizing depth p access with
  | nil => exact absurd rfl hl.ne_nil
  | cons name rest ih =>
    rcases Entry.leads_iff.mp hl with ⟨he, hnames⟩ | ⟨_, inner, _, _, hd, -, hnames, hl⟩
    · rw [hnames]
      obtain ⟨hsearchable, bytes, access', hm⟩ := mem_entriesOf_file he
      exact ⟨hinside hsearchable file, bytes, access', h.item?_of_mem hm⟩
    · obtain ⟨rfl, rfl⟩ := List.cons.inj hnames
      obtain ⟨hsearchable, access', hm, hinner⟩ := mem_entriesOf_directory hd
      rw [Path.descend_cons]
      rcases hinner with rfl | ⟨below, rfl⟩
      · obtain ⟨_, hmem, -⟩ := hl.head
        cases hmem
      · have hitem' := h.item?_of_mem hm
        have hopen' := hinside hsearchable name
        refine ih hitem' hopen' hl fun hsearchable' name' => ?_
        rw [isOpen_push, hopen', isSearchable_of_directory hitem', hsearchable']
        rfl

end

end Workspace

/-! ### What the command collects -/

namespace Command

variable {ws : Workspace} {path p : Path} {access : DirectoryAccess}

/-- A path that is collected names a file of the workspace in a language that can be parsed. -/
structure Collected (ws : Workspace) (p : Path) : Prop where
  file : ∃ bytes access, ws.NamedFile p bytes access
  language : ∃ l, p.language = .ok l

lemma find_tree? (config : Config) (hitem : ws.item? path = some (.directory access))
    (hlistable : access.listable = true) :
    (search config).find path (ws.tree? path) =
      .ok (Search.sort ((search config).start path (ws.entriesOf (ws.depth - 1) access path) none).files) := by
  have hentry : ws.entryAt ws.depth path (.directory access) =
      .directory path.name false (ws.entriesOf (ws.depth - 1) access path) none :=
    Workspace.entryAt_directory hlistable _ path
  rw [Workspace.tree?, hitem, Option.map_some, hentry]
  rfl

/-- A directory that may be listed stands for what the search finds in its tree. -/
lemma eq_sort_of_targetFiles (hpath : ws.Direct path) (hstatus : ws.status path = .ok (.directory access))
    (hlistable : access.listable = true) {config : Config} {files : List Path} {said : Log}
    (hfiles : targetFiles ws config path = .ok (files, said)) :
    files = Search.sort
      ((search config).start path (ws.entriesOf (ws.depth - 1) access path) none).files := by
  have hfind := find_tree? config (Workspace.item?_of_status hpath hstatus).1 hlistable
  simp only [targetFiles, hstatus, hfind] at hfiles
  split at hfiles
  · next hnil =>
    rw [Except.ok.inj hnil]
    cases hfiles
    rfl
  · next hok =>
    rw [Except.ok.inj hok]
    cases hfiles
    rfl
  · next herror => cases herror

/-- What a target stands for is collected, each file once. -/
lemma collected_of_targetFiles (h : ws.Lawful) (hpath : ws.Direct path)
    (hlistable : ∀ access, ws.status path = .ok (.directory access) → access.listable = true) {config : Config}
    {files : List Path} {said : Log} (hfiles : targetFiles ws config path = .ok (files, said)) :
    (∀ p ∈ files, Collected ws p) ∧ files.Nodup := by
  have hfound := hfiles
  unfold targetFiles at hfound
  split at hfound
  · next bytes access hstatus =>
    obtain ⟨hitem, hopen⟩ := Workspace.item?_of_status hpath hstatus
    have hfile := h.namedFile hitem hopen
    cases hlanguage : path.language with
    | error e =>
      rw [hlanguage] at hfound
      cases hfound
    | ok l =>
      rw [hlanguage] at hfound
      cases hfound
      refine ⟨fun p hp => ?_, List.nodup_singleton path⟩
      rw [List.mem_singleton.mp hp]
      exact ⟨⟨bytes, access, hfile⟩, l, hlanguage⟩
  · next access hstatus =>
    obtain ⟨hitem, hopen⟩ := Workspace.item?_of_status hpath hstatus
    obtain ⟨hmem, hsorted⟩ := Search.sort_start_of_lists (s := search config)
      (h.lists_entriesOf rfl (ws.depth - 1) access path) path
    rw [eq_sort_of_targetFiles hpath hstatus (hlistable access hstatus) hfiles]
    refine ⟨fun p hp => ?_, Search.nodup_of_sorted hsorted⟩
    obtain ⟨names, file, hl, rfl, hsupported, -⟩ := (hmem p).mp hp
    obtain ⟨hfileOpen, bytes, access, hfileItem⟩ := h.file_of_leads hitem hopen hl
    exact ⟨⟨bytes, access, h.namedFile hfileItem hfileOpen⟩, hsupported.language⟩
  · cases hfound

end Command

end AsyncActions
