import AsyncActions.Proofs.CollectedFiles

/-!
# What is found can be loaded

The search keeps files by their suffixes, and the loader takes a grammar by the suffix. The two agree, so the loader
never refuses what a search found, whatever directory was searched. The loader keeps its parsers from file to file:
`Loading.loadKeeping` is that loop. Every file comes out of it as it does alone, with a parser of its own.
-/

namespace AsyncActions

namespace Path

variable {p : Path}

lemma isJavascript_iff : p.isJavascript = true ↔ p.language = .ok .javascript := by
  rw [isJavascript_eq_true_iff, language_eq_ok_iff]

lemma isTypescript_iff : p.isTypescript = true ↔ ∃ l, p.language = .ok l ∧ l ≠ .javascript := by
  simp only [isTypescript_eq_true_iff, language_eq_ok_iff]

lemma isSource_iff : p.isSource true = true ↔ ∃ l, p.language = .ok l := by
  rw [isSource_eq_true_iff]
  constructor
  · exact Supported.language
  · rintro ⟨l, hl⟩
    exact ⟨l, language_eq_ok_iff.mp hl, nofun⟩

lemma language_eq_error (h : ¬ ∃ l, p.language = .ok l) : p.language = .error (.unsupportedFile p) := by
  unfold language at h ⊢
  cases hfind : Language.ofSuffix? p.fileType with
  | some l => exact absurd ⟨l, by rw [hfind]⟩ h
  | none => rfl

end Path

lemma Language.name_injective {l l' : Language} (h : l.name = l'.name) : l = l' := by
  have hsome : some l = some l' := by rw [← ofName?_name, h, ofName?_name]
  exact Option.some.inj hsome

namespace Walk

variable {s : Search}

lemma isSource_of_mem_file {path p : Path} (h : p ∈ (file s path).files) :
    p.isSource s.includeTypescript = true := by
  unfold file at h
  split at h
  · cases h
  · next hsource =>
    split at h
    · cases h
    · rw [List.mem_singleton.mp h]
      simpa using hsource

/-- Only sources are kept, wherever links lead and whatever is refused. -/
lemma isSource_of_mem_listing {dir p : Path} {interruption : Option Interruption} {done : Nat}
    {entries : List Entry} (h : p ∈ (listing s dir interruption done entries).files) :
    p.isSource s.includeTypescript = true := by
  fun_induction listing s dir interruption done entries with
  | case1 | case3 | case5 => exact absurd h not_mem_refused
  | case2 => cases h
  | case4 dir interruption done e es path _ _ ih =>
    rcases List.mem_append.mp h with h | h
    · cases h
    · exact ih h
  | case6 dir interruption done es _ name linked _ ih => exact ih h
  | case7 dir interruption done es _ name linked path _ ih =>
    rcases List.mem_append.mp h with h | h
    · exact isSource_of_mem_file h
    · exact ih h
  | case8 dir interruption done es _ name linked inner innerInterruption path _ ihinner ih =>
    rcases List.mem_append.mp h with h | h
    · split at h
      · cases h
      · exact ihinner h
    · exact ih h

end Walk

namespace Path

lemma language_of_isSource {p : Path} {includeTypescript : Bool} (h : p.isSource includeTypescript = true) :
    ∃ l, p.language = .ok l :=
  (isSource_eq_true_iff.mp h).language

end Path

/-! ### Loading one file after the other -/

/-- The system gives the contents of the file. -/
def Workspace.canRead (ws : Workspace) (p : Path) : Bool := (ws.read p).isOk

lemma Workspace.FileAt.canRead_eq {ws : Workspace} {p : Path} {bytes : Bytes} {access : Access}
    (hp : ws.FileAt p bytes access) (h : ws.Nested) : ws.canRead p = access.readable := by
  rw [canRead, hp.read h]
  cases access.readable <;> rfl

namespace Loading

/-- Parsers by the names of their languages. -/
abbrev Parsers := List (String × (Bytes → Parse))

/-- Every parser that is kept is that of its language. -/
def OfLanguages (parser : Parser) (kept : Parsers) : Prop :=
  ∀ entry ∈ kept, ∃ l : Language, entry = (l.name, parser l)

/-- A new parser for the language of that name. -/
def newParser (parser : Parser) (name : String) : Except LanguageError (Bytes → Parse) :=
  (Language.find name).map parser

/-- The parser for the language of that name, made if there is none yet, and all parsers then. -/
def parserFor (parser : Parser) (kept : Parsers) (name : String) :
    Except LanguageError ((Bytes → Parse) × Parsers) :=
  match kept.lookup name with
  | some parse => .ok (parse, kept)
  | none => (newParser parser name).map fun parse => (parse, (name, parse) :: kept)

/-- Read and parse one file by a parser that is at hand, whatever its language. -/
def loadWith (parse : Bytes → Parse) (ws : Workspace) (path : Path) : Loaded :=
  load (fun _ => parse) ws path .javascript

/-- Read and parse files in order. Parsers are kept for the files that follow. -/
def loadKeeping (parser : Parser) (ws : Workspace) (kept : Parsers) : List Path → Except LanguageError (List Loaded)
  | [] => .ok []
  | p :: ps => do
    let language ← p.language
    let (parse, kept) ← parserFor parser kept language.name
    let loaded ← loadKeeping parser ws kept ps
    return loadWith parse ws p :: loaded

/-- The source is what comes of the file alone, by a new parser for the language of its suffix. -/
structure LoadedAlone (parser : Parser) (ws : Workspace) (p : Path) (source : Source) : Prop where
  path : source.path = p
  bytes : ws.read p = .ok source.bytes
  parsed : ∃ l parse whole, p.language = .ok l ∧ newParser parser l.name = .ok parse ∧
    parse source.bytes = ⟨source.root, source.broken, whole⟩
  alone : ∃ log, loadOne parser ws p none = .ok ⟨some source, log⟩

section

variable {parser : Parser} {ws : Workspace} {kept : Parsers} {p : Path} {l : Language}

lemma newParser_name (parser : Parser) (l : Language) : newParser parser l.name = .ok (parser l) := by
  rw [newParser, Language.find, Language.ofName?_name]
  rfl

lemma loadWith_eq (parser : Parser) (ws : Workspace) (p : Path) (l : Language) :
    loadWith (parser l) ws p = load parser ws p l := by
  rw [loadWith, load, load]

/-- The parser is the one of the language, also if it was made for another file. -/
lemma parserFor_of_kept (h : OfLanguages parser kept) (l : Language) :
    ∃ kept', parserFor parser kept l.name = .ok (parser l, kept') ∧ OfLanguages parser kept' := by
  unfold parserFor
  cases hlookup : kept.lookup l.name with
  | some parse =>
    -- no other language has that name
    obtain ⟨l', hl'⟩ := h _ (mem_of_lookup hlookup)
    obtain ⟨hname, rfl⟩ := Prod.mk.inj hl'
    rw [Language.name_injective hname]
    exact ⟨kept, rfl, h⟩
  | none =>
    rw [newParser_name]
    exact ⟨_, rfl, List.forall_mem_cons.mpr ⟨⟨l, rfl⟩, h⟩⟩

lemma loadKeeping_eq (h : OfLanguages parser kept) (ws : Workspace) (paths : List Path) :
    loadKeeping parser ws kept paths = paths.mapM fun p => loadOne parser ws p none := by
  -- the parsers differ from file to file, but they stay those of their languages
  induction paths generalizing kept with
  | nil => rfl
  | cons p paths ih =>
    rw [loadKeeping, List.mapM_cons, loadOne]
    cases p.language with
    | error e => rfl
    | ok l =>
      obtain ⟨kept', hparser, h'⟩ := parserFor_of_kept h l
      simp only [Except.map, bind, Except.bind, hparser, loadWith_eq, ih h']

/-- A file that can be read gives its source, and another one gives none. -/
lemma loadOne_of_language (parser : Parser) (ws : Workspace) (h : p.language = .ok l) :
    ∃ loaded, loadOne parser ws p none = .ok loaded ∧
      if ws.canRead p then ∃ source, loaded.source = some source ∧ LoadedAlone parser ws p source
      else loaded.source = none := by
  have hone : loadOne parser ws p none = .ok (load parser ws p l) := by rw [loadOne, h]; rfl
  refine ⟨_, hone, ?_⟩
  rw [load] at hone ⊢
  rw [Workspace.canRead]
  cases hread : ws.read p with
  | error e => exact rfl
  | ok bytes =>
    rw [hread] at hone
    exact ⟨_, rfl, rfl, hread, ⟨l, _, _, h, newParser_name parser l, rfl⟩, _, hone⟩

lemma mapM_loadOne (parser : Parser) (ws : Workspace) {paths : List Path}
    (h : ∀ p ∈ paths, ∃ l, p.language = .ok l) :
    ∃ loaded, paths.mapM (fun p => loadOne parser ws p none) = .ok loaded ∧
      List.Forall₂ (LoadedAlone parser ws) (paths.filter ws.canRead)
        (loaded.filterMap Loaded.source) := by
  induction paths with
  | nil => exact ⟨[], rfl, .nil⟩
  | cons p paths ih =>
    obtain ⟨⟨l, hl⟩, hrest⟩ := List.forall_mem_cons.mp h
    obtain ⟨first, hone, hsource⟩ := loadOne_of_language parser ws hl
    obtain ⟨loaded, hloaded, hall⟩ := ih hrest
    refine ⟨first :: loaded, by rw [List.mapM_cons, hone, hloaded]; rfl, ?_⟩
    split at hsource
    · next hread =>
      obtain ⟨source, hsome, halone⟩ := hsource
      rw [List.filter_cons_of_pos hread, List.filterMap_cons_some hsome]
      exact .cons halone hall
    · next hread =>
      rw [List.filter_cons_of_neg hread, List.filterMap_cons_none hsource]
      exact hall

end

/-- The loader and the search sort files alike. A file is taken for a source if its suffix selects a grammar, and for
one of the two kinds by which grammar that is. So what a search finds in a directory can all be loaded. Files in known
languages give one source each in their order, except those that cannot be read, and each is what comes of its file
alone. A file in no known language ends the loading, and the first such file is named. None of this changes if parsers
are kept from file to file. -/
theorem find_loadAll (parser : Parser) (ws : Workspace) :
    (∀ p : Path, (p.isSource true = true ↔ ∃ l, p.language = .ok l) ∧
      (p.isJavascript = true ↔ p.language = .ok .javascript) ∧
      (p.isTypescript = true ↔ ∃ l, p.language = .ok l ∧ l ≠ .javascript)) ∧
    (∀ (s : Search) (root : Path) (name : String) (linked : Bool) (entries : List Entry)
      (interruption : Option Interruption), ∃ files loaded,
        s.find root (some (.directory name linked entries interruption)) = .ok files ∧
          loadAll parser ws files = .ok loaded) ∧
    (∀ paths : List Path, (∀ p ∈ paths, ∃ l, p.language = .ok l) → ∃ sources log,
      loadAll parser ws paths = .ok (sources, log) ∧
        List.Forall₂ (LoadedAlone parser ws) (paths.filter ws.canRead) sources) ∧
    (∀ (before : List Path) (p : Path) (after : List Path), (∀ q ∈ before, ∃ l, q.language = .ok l) →
      (¬ ∃ l, p.language = .ok l) → loadAll parser ws (before ++ p :: after) = .error (.unsupportedFile p)) ∧
    ∀ paths : List Path, loadAll parser ws paths =
      (loadKeeping parser ws [] paths).map fun loaded =>
        (loaded.filterMap Loaded.source, loaded.flatMap Loaded.log) := by
  have hloads {paths : List Path} (h : ∀ p ∈ paths, ∃ l, p.language = .ok l) : ∃ sources log,
      loadAll parser ws paths = .ok (sources, log) ∧
        List.Forall₂ (LoadedAlone parser ws) (paths.filter ws.canRead) sources := by
    obtain ⟨loaded, hloaded, hall⟩ := mapM_loadOne parser ws h
    exact ⟨_, _, by rw [loadAll, hloaded]; rfl, hall⟩
  refine ⟨fun p => ⟨Path.isSource_iff, Path.isJavascript_iff, Path.isTypescript_iff⟩, ?_, fun paths => hloads, ?_, ?_⟩
  · intro s root name linked entries interruption
    have hfiles : ∀ p ∈ Search.sort (s.start root entries interruption).files, ∃ l, p.language = .ok l := by
      intro p hp
      rcases List.mem_append.mp (List.mem_mergeSort.mp hp) with hp | hp
      · cases hp
      · exact Path.language_of_isSource (Walk.isSource_of_mem_listing hp)
    obtain ⟨sources, log, hload, -⟩ := hloads hfiles
    exact ⟨_, _, rfl, hload⟩
  · intro before p after hbefore hp
    obtain ⟨loaded, hloaded, -⟩ := mapM_loadOne parser ws hbefore
    rw [loadAll, List.mapM_append, List.mapM_cons, hloaded, loadOne, Path.language_eq_error hp]
    rfl
  · intro paths
    rw [loadKeeping_eq (by simp [OfLanguages]) ws paths, loadAll]
    cases paths.mapM fun p => loadOne parser ws p none <;> rfl

/-! ### Files of several languages -/

/-- Three files, of which one must not be read. -/
def mixedWorkspace : Workspace where
  directory := ⟨.absolute, ["w"]⟩
  items := [(⟨.absolute, ["w", "a.js"]⟩, .file [] ⟨true, true⟩),
    (⟨.absolute, ["w", "c.mts"]⟩, .file [] ⟨false, true⟩), (⟨.absolute, ["w", "B.TSX"]⟩, .file [0x20] ⟨true, true⟩)]

/-- Their paths in another order. -/
def mixedPaths : List Path :=
  [⟨.absolute, ["w", "B.TSX"]⟩, ⟨.absolute, ["w", "c.mts"]⟩, ⟨.absolute, ["w", "a.js"]⟩]

lemma language_of_mixedPaths : ∀ p ∈ mixedPaths, ∃ l, p.language = .ok l := by
  have hsource : ∀ p ∈ mixedPaths, p.isSource true = true := by decide +kernel
  exact fun p hp => Path.language_of_isSource (hsource p hp)

lemma filter_mixedPaths : mixedPaths.filter mixedWorkspace.canRead =
    [⟨.absolute, ["w", "B.TSX"]⟩, ⟨.absolute, ["w", "a.js"]⟩] := by
  have hlaw : mixedWorkspace.Lawful := ⟨by decide, by decide, by decide, by decide, by decide⟩
  have hread {p : Path} {bytes : Bytes} {access : Access} (hp : mixedWorkspace.FileAt p bytes access) :
      mixedWorkspace.canRead p = access.readable := hp.canRead_eq hlaw.nested
  have htsx := hread (p := ⟨.absolute, ["w", "B.TSX"]⟩) ⟨rfl, by decide, rfl, by decide⟩
  have hmts := hread (p := ⟨.absolute, ["w", "c.mts"]⟩) ⟨rfl, by decide, rfl, by decide⟩
  have hjs := hread (p := ⟨.absolute, ["w", "a.js"]⟩) ⟨rfl, by decide, rfl, by decide⟩
  simp [mixedPaths, List.filter, htsx, hmts, hjs]

/-- The file that must not be read is left out, the others come in the order of their paths, and the first path in no
known language is named. -/
theorem find_loadAll_mixedPaths :
    (∃ sources log, loadAll Grammar.parse mixedWorkspace mixedPaths = .ok (sources, log) ∧
      sources.map Source.path = [⟨.absolute, ["w", "B.TSX"]⟩, ⟨.absolute, ["w", "a.js"]⟩]) ∧
    loadAll Grammar.parse mixedWorkspace
        (mixedPaths ++ [⟨.absolute, ["w", "notes.txt"]⟩, ⟨.absolute, ["w", ".js"]⟩]) =
      .error (.unsupportedFile ⟨.absolute, ["w", "notes.txt"]⟩) := by
  obtain ⟨hsorts, -, hloads, hnames, -⟩ := find_loadAll Grammar.parse mixedWorkspace
  constructor
  · obtain ⟨sources, log, hload, hall⟩ := hloads mixedPaths language_of_mixedPaths
    rw [filter_mixedPaths] at hall
    have hpaths : List.Forall₂ (· = ·) _ (sources.map Source.path) :=
      List.forall₂_map_right_iff.mpr (hall.imp fun p source h => h.path.symm)
    rw [List.forall₂_eq_eq_eq] at hpaths
    exact ⟨sources, log, hload, hpaths.symm⟩
  · refine hnames mixedPaths _ _ language_of_mixedPaths fun h => ?_
    exact absurd ((hsorts _).1.mpr h) (by decide +kernel)

end Loading

end AsyncActions
