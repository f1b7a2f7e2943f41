import AsyncActions.Discovery
import AsyncActions.Proofs.Lookup
import Mathlib.Data.List.Nodup
import Mathlib.Tactic.Common

/-!
# Which sources a walk finds

`Entry.Leads` says where names lead from a directory when no link is followed and no ignored directory
is entered. A walk that the system does not refuse finds the files to which names lead, those of them
that are sources and accepted, each once and in the order of their names.
-/

namespace AsyncActions

/-- The path that leads on by these names. -/
def Path.descend (p : Path) (names : List String) : Path := ⟨p.root, p.parts ++ names⟩

/-- The suffix, in lower case, is in the table; without TypeScript only those of JavaScript count. -/
def Path.Supported (p : Path) (includeTypescript : Bool) : Prop :=
  ∃ l, (Text.lower p.suffix, l) ∈ Language.suffixes ∧ (includeTypescript = false → l = .javascript)

namespace Entry

/-- No two entries of a directory have the same name. -/
def Distinct (entries : List Entry) : Prop := entries.Pairwise (·.name ≠ ·.name)

/-- The system refuses nothing at the entry or below, as far as no link is followed. -/
inductive Answered : Entry → Prop
  | link {e : Entry} : e.linked = true → Answered e
  | file {name : String} : Answered (.file name false)
  | special {name : String} : Answered (.special name false)
  | directory {name : String} {entries : List Entry} :
      (∀ e ∈ entries, Answered e) → Distinct entries → Answered (.directory name false entries none)

/-- From a directory the names lead to an entry. On the way are real directories that are not ignored. -/
inductive Leads (ignored : List String) : List Entry → List String → Entry → Prop
  | here {entries : List Entry} {e : Entry} : e ∈ entries → Leads ignored entries [e.name] e
  | enter {entries inner : List Entry} {name : String} {interruption : Option Interruption}
      {names : List String} {e : Entry} :
      .directory name false inner interruption ∈ entries → name ∉ ignored →
        Leads ignored inner names e → Leads ignored entries (name :: names) e

/-- The same entries in another order, in the directory and in those below. -/
inductive Reordered : List Entry → List Entry → Prop
  | nil : Reordered [] []
  | cons (e : Entry) {es es' : List Entry} : Reordered es es' → Reordered (e :: es) (e :: es')
  | inside {name : String} {linked : Bool} {interruption : Option Interruption}
      {inner inner' es : List Entry} :
      Reordered inner inner' →
        Reordered (.directory name linked inner interruption :: es)
          (.directory name linked inner' interruption :: es)
  | swap (d e : Entry) (es : List Entry) : Reordered (d :: e :: es) (e :: d :: es)
  | trans {es es' es'' : List Entry} : Reordered es es' → Reordered es' es'' → Reordered es es''

section

variable {ignored : List String} {es : List Entry} {names : List String} {e : Entry}

lemma leads_iff : Leads ignored es names e ↔ e ∈ es ∧ names = [e.name] ∨
    ∃ name inner interruption rest, .directory name false inner interruption ∈ es ∧ name ∉ ignored ∧
      names = name :: rest ∧ Leads ignored inner rest e := by
  constructor
  · intro h
    cases h with
    | here he => exact Or.inl ⟨he, rfl⟩
    | enter hd hn hl => exact Or.inr ⟨_, _, _, _, hd, hn, rfl, hl⟩
  · rintro (⟨he, rfl⟩ | ⟨name, inner, interruption, rest, hd, hn, rfl, hl⟩)
    · exact Leads.here he
    · exact Leads.enter hd hn hl

lemma Leads.head (h : Leads ignored es names e) : ∃ d ∈ es, ∃ rest, names = d.name :: rest := by
  cases h with
  | here he => exact ⟨e, he, [], rfl⟩
  | enter hd _ _ => exact ⟨_, hd, _, rfl⟩

lemma Leads.ne_nil (h : Leads ignored es names e) : names ≠ [] := by
  obtain ⟨d, -, rest, rfl⟩ := h.head
  exact List.cons_ne_nil _ _

lemma Leads.mono {es' : List Entry} (h : Leads ignored es names e) (hsub : ∀ d ∈ es, d ∈ es') :
    Leads ignored es' names e := by
  cases h with
  | here he => exact Leads.here (hsub _ he)
  | enter hd hn hl => exact Leads.enter (hsub _ hd) hn hl

/-- Names lead from the first entry or from the others. -/
lemma leads_cons {d : Entry} :
    Leads ignored (d :: es) names e ↔ Leads ignored [d] names e ∨ Leads ignored es names e := by
  constructor
  · intro h
    cases h with
    | here he =>
      rcases List.mem_cons.mp he with rfl | he
      · exact Or.inl (Leads.here List.mem_cons_self)
      · exact Or.inr (Leads.here he)
    | enter hd hn hl =>
      rcases List.mem_cons.mp hd with rfl | hd
      · exact Or.inl (Leads.enter List.mem_cons_self hn hl)
      · exact Or.inr (Leads.enter hd hn hl)
  · rintro (h | h)
    · exact h.mono fun c hc => List.mem_cons.mpr (Or.inl (List.mem_singleton.mp hc))
    · exact h.mono fun c hc => List.mem_cons_of_mem _ hc

lemma leads_link {d : Entry} (hd : d.linked = true) :
    Leads ignored [d] names e ↔ names = [d.name] ∧ e = d := by
  constructor
  · intro h
    cases h with
    | here he =>
      rw [List.mem_singleton.mp he]
      exact ⟨rfl, rfl⟩
    | enter hm _ _ =>
      rw [← List.mem_singleton.mp hm] at hd
      cases hd
  · rintro ⟨rfl, rfl⟩
    exact Leads.here List.mem_cons_self

lemma leads_directory {name : String} {inner : List Entry} {interruption : Option Interruption}
    {file : String} {linked : Bool} :
    Leads ignored [.directory name false inner interruption] names (.file file linked) ↔
      name ∉ ignored ∧
        ∃ rest, names = name :: rest ∧ Leads ignored inner rest (.file file linked) := by
  constructor
  · intro h
    cases h with
    | here he => cases List.mem_singleton.mp he
    | enter hm hn hl =>
      cases List.mem_singleton.mp hm
      exact ⟨hn, _, rfl, hl⟩
  · rintro ⟨hn, rest, rfl, hl⟩
    exact Leads.enter List.mem_cons_self hn hl

lemma Distinct.eq_of_name (hd : Distinct es) {c d : Entry} (hc : c ∈ es) (hm : d ∈ es)
    (hname : c.name = d.name) : c = d := by
  have hnodup : (es.map Entry.name).Nodup := List.pairwise_map.mpr hd
  exact List.inj_on_of_nodup_map hnodup hc hm hname

/-- Names lead to one entry at most. -/
lemma Leads.unique (h : Leads ignored es names e) (hd : Distinct es) (ha : ∀ d ∈ es, d.Answered)
    {e' : Entry} (h' : Leads ignored es names e') : e = e' := by
  induction h with
  | here he =>
    rcases leads_iff.mp h' with ⟨he', hnames⟩ | ⟨_, _, _, rest, _, _, hnames, hl⟩
    · exact hd.eq_of_name he he' (List.cons.inj hnames).1
    · exact absurd (List.cons.inj hnames).2.symm hl.ne_nil
  | enter hm hn hl ih =>
    rcases leads_iff.mp h' with ⟨_, hnames⟩ | ⟨_, _, _, rest, hm', _, hnames, hl'⟩
    · exact absurd (List.cons.inj hnames).2 hl.ne_nil
    · obtain ⟨rfl, rfl⟩ := List.cons.inj hnames
      cases hd.eq_of_name hm hm' rfl
      cases ha _ hm with
      | link hlink => cases hlink
      | directory hinner hdistinct => exact ih hdistinct hinner hl'

end

namespace Reordered

variable {es es' : List Entry}

lemma symm (h : Reordered es es') : Reordered es' es := by
  induction h with
  | nil => exact nil
  | cons e _ ih => exact ih.cons e
  | inside _ ih => exact ih.inside
  | swap d e es => exact swap e d es
  | trans _ _ ih ih' => exact ih'.trans ih

lemma names_perm (h : Reordered es es') : (es.map name).Perm (es'.map name) := by
  induction h with
  | nil => exact List.Perm.nil
  | cons e _ ih => exact ih.cons e.name
  | inside _ _ => exact List.Perm.refl _
  | swap d e es => exact List.Perm.swap e.name d.name (es.map name)
  | trans _ _ ih ih' => exact ih.trans ih'

lemma distinct (h : Reordered es es') (hd : Distinct es) : Distinct es' := by
  have hnames : (es.map name).Nodup := List.pairwise_map.mpr hd
  exact List.pairwise_map.mp (h.names_perm.nodup_iff.mp hnames)

lemma answered (h : Reordered es es') (ha : ∀ e ∈ es, e.Answered) : ∀ e ∈ es', e.Answered := by
  induction h with
  | nil => exact ha
  | cons e _ ih =>
    have ih := ih fun d hd => ha d (List.mem_cons_of_mem _ hd)
    exact List.forall_mem_cons.mpr ⟨ha e List.mem_cons_self, ih⟩
  | @inside name linked interruption inner inner' es hinner ih =>
    refine List.forall_mem_cons.mpr ⟨?_, fun e he => ha e (List.mem_cons_of_mem _ he)⟩
    cases ha _ List.mem_cons_self with
    | link hl => exact Answered.link hl
    | directory hall hdistinct => exact Answered.directory (ih hall) (hinner.distinct hdistinct)
  | swap d e es =>
    intro c hc
    exact ha c ((List.Perm.swap d e es).mem_iff.mp hc)
  | trans _ _ ih ih' => exact ih' (ih ha)

lemma leads (h : Reordered es es') {ignored names : List String} {file : String} {linked : Bool}
    (hl : Leads ignored es names (.file file linked)) : Leads ignored es' names (.file file linked) := by
  induction h generalizing names with
  | nil => exact hl
  | cons e _ ih =>
    rcases leads_cons.mp hl with hl | hl
    · exact leads_cons.mpr (Or.inl hl)
    · exact leads_cons.mpr (Or.inr (ih hl))
  | @inside _ isLink _ inner inner' es _ ih =>
    rcases leads_cons.mp hl with hl | hl
    · refine leads_cons.mpr (Or.inl ?_)
      cases isLink with
      | true =>
        have := ((leads_link rfl).mp hl).2
        cases this
      | false =>
        obtain ⟨hn, rest, rfl, hl'⟩ := leads_directory.mp hl
        exact leads_directory.mpr ⟨hn, rest, rfl, ih hl'⟩
    · exact leads_cons.mpr (Or.inr hl)
  | swap d e es => exact hl.mono fun c hc => (List.Perm.swap e d es).mem_iff.mp hc
  | trans _ _ ih ih' => exact ih' (ih hl)

end Reordered

end Entry

lemma Language.ofSuffix?_eq_some_iff {suffix : String} {l : Language} :
    ofSuffix? suffix = some l ↔ (suffix, l) ∈ suffixes :=
  ⟨mem_of_lookup, lookup_of_mem (by decide)⟩

lemma Path.language_eq_ok_iff {p : Path} {l : Language} :
    p.language = .ok l ↔ (Text.lower p.suffix, l) ∈ Language.suffixes := by
  rw [← Language.ofSuffix?_eq_some_iff]
  unfold language fileType
  cases Language.ofSuffix? (Text.lower p.suffix) <;> simp

/-- A suffix that is looked for selects a language. -/
lemma Path.Supported.language {p : Path} {includeTypescript : Bool} (h : p.Supported includeTypescript) :
    ∃ l, p.language = .ok l := by
  obtain ⟨l, hl, -⟩ := h
  exact ⟨l, Path.language_eq_ok_iff.mpr hl⟩

lemma Path.isJavascript_eq_true_iff {p : Path} :
    p.isJavascript = true ↔ (Text.lower p.suffix, .javascript) ∈ Language.suffixes := by
  simp [isJavascript, Language.javascriptSuffixes, fileType]

lemma Path.isTypescript_eq_true_iff {p : Path} :
    p.isTypescript = true ↔ ∃ l, (Text.lower p.suffix, l) ∈ Language.suffixes ∧ l ≠ .javascript := by
  simp [isTypescript, Language.typescriptSuffixes, fileType]

lemma Path.isSource_eq_true_iff {p : Path} {includeTypescript : Bool} :
    p.isSource includeTypescript = true ↔ p.Supported includeTypescript := by
  rw [isSource, Bool.or_eq_true, Bool.and_eq_true, isJavascript_eq_true_iff, isTypescript_eq_true_iff, Supported]
  constructor
  · rintro (h | ⟨rfl, l, h, -⟩)
    · exact ⟨_, h, fun _ => rfl⟩
    · exact ⟨l, h, nofun⟩
  · rintro ⟨l, h, hl⟩
    by_cases hj : l = .javascript
    · subst hj
      exact Or.inl h
    · cases includeTypescript with
      | false => exact absurd (hl rfl) hj
      | true => exact Or.inr ⟨rfl, l, h, hj⟩

/-! ### The walk -/

namespace Walk

open Entry

variable {s : Search}

lemma append_files (a b : Walk) : (a ++ b).files = a.files ++ b.files := rfl

lemma not_mem_refused {dir p : Path} {refusal : Refusal} {text : String} : p ∉ (refused dir refusal text).files := by
  cases refusal <;> exact List.not_mem_nil

/-- Names lead from these entries to a file that the search is for. -/
def Finds (s : Search) (dir : Path) (es : List Entry) (p : Path) : Prop :=
  ∃ names file, Leads s.ignored es names (.file file false) ∧ p = dir.descend names ∧
    p.Supported s.includeTypescript ∧ s.accepts p = true

lemma finds_cons {dir : Path} {d : Entry} {es : List Entry} {p : Path} :
    Finds s dir (d :: es) p ↔ Finds s dir [d] p ∨ Finds s dir es p := by
  constructor
  · rintro ⟨names, file, hl, hp⟩
    rcases leads_cons.mp hl with hl | hl
    · exact Or.inl ⟨names, file, hl, hp⟩
    · exact Or.inr ⟨names, file, hl, hp⟩
  · rintro (⟨names, file, hl, hp⟩ | ⟨names, file, hl, hp⟩)
    · exact ⟨names, file, leads_cons.mpr (Or.inl hl), hp⟩
    · exact ⟨names, file, leads_cons.mpr (Or.inr hl), hp⟩

lemma mem_file_iff {path p : Path} :
    p ∈ (file s path).files ↔ p = path ∧ p.Supported s.includeTypescript ∧ s.accepts p = true := by
  rw [← Path.isSource_eq_true_iff, file]
  by_cases hsource : path.isSource s.includeTypescript = true
  · by_cases haccepts : s.accepts path = true
    · simp only [hsource, haccepts, Bool.not_true, Bool.false_eq_true, if_false, List.mem_singleton]
      exact ⟨fun h => ⟨h, h ▸ hsource, h ▸ haccepts⟩, fun h => h.1⟩
    · simp only [hsource, haccepts, Bool.not_true, Bool.false_eq_true, if_false, Bool.not_false, if_true]
      exact ⟨fun h => absurd h List.not_mem_nil, fun ⟨h, _, ha⟩ => absurd (h ▸ ha) haccepts⟩
  · simp only [hsource, Bool.not_false, if_true]
    exact ⟨fun h => absurd h List.not_mem_nil, fun ⟨h, hs, _⟩ => absurd (h ▸ hs) hsource⟩

lemma mem_file {dir : Path} {name : String} {p : Path} :
    p ∈ (file s (dir.push name)).files ↔ Finds s dir [.file name false] p := by
  rw [mem_file_iff]
  constructor
  · rintro ⟨rfl, hsource, haccepts⟩
    exact ⟨[name], name, Leads.here List.mem_cons_self, rfl, hsource, haccepts⟩
  · rintro ⟨names, other, hl, rfl, hsource, haccepts⟩
    cases hl with
    | here he =>
      cases List.mem_singleton.mp he
      exact ⟨rfl, hsource, haccepts⟩
    | enter hm _ _ => cases List.mem_singleton.mp hm

lemma finds_directory {dir : Path} {name : String} {inner : List Entry} {interruption : Option Interruption}
    {p : Path} : Finds s dir [.directory name false inner interruption] p ↔
      name ∉ s.ignored ∧ Finds s (dir.push name) inner p := by
  simp only [Finds, leads_directory]
  constructor
  · rintro ⟨_, file, ⟨hn, rest, rfl, hl⟩, rfl, hp⟩
    exact ⟨hn, rest, file, hl, by simp [Path.descend, Path.push], hp⟩
  · rintro ⟨hn, rest, file, hl, rfl, hp⟩
    exact ⟨name :: rest, file, ⟨hn, rest, rfl, hl⟩, by simp [Path.descend, Path.push], hp⟩

lemma isIgnored_push {dir : Path} {name : String} {ignored : List String} :
    (dir.push name).isIgnored ignored = true ↔ name ∈ ignored := by
  simp [Path.isIgnored, Path.name, Path.push]

lemma Finds.head {dir : Path} {es : List Entry} {p : Path} (h : Finds s dir es p) :
    ∃ e ∈ es, ∃ rest, p.parts = dir.parts ++ e.name :: rest := by
  obtain ⟨names, file, hl, rfl, -⟩ := h
  obtain ⟨e, he, rest, rfl⟩ := hl.head
  exact ⟨e, he, rest, rfl⟩

lemma not_finds_nil {dir : Path} {p : Path} : ¬ Finds s dir [] p := by
  intro h
  obtain ⟨_, he, _⟩ := h.head
  cases he

lemma not_finds_link {dir : Path} {e : Entry} (he : e.linked = true) {p : Path} : ¬ Finds s dir [e] p := by
  rintro ⟨names, file, hl, -⟩
  obtain ⟨-, rfl⟩ := (leads_link he).mp hl
  cases he

lemma not_finds_special {dir : Path} {name : String} {p : Path} :
    ¬ Finds s dir [.special name false] p := by
  rintro ⟨names, file, hl, -⟩
  rcases leads_iff.mp hl with ⟨hm, -⟩ | ⟨_, _, _, _, hm, -⟩
  · cases List.mem_singleton.mp hm
  · cases List.mem_singleton.mp hm

lemma listing_link (hs : s.followLinks = false) {e : Entry} (he : e.linked = true) (dir : Path)
    (done : Nat) (es : List Entry) :
    (listing s dir none done (e :: es)).files = (listing s dir none (done + 1) es).files := by
  rw [listing.eq_def]
  simp only [Option.filter_none, he, hs, Bool.not_false, Bool.and_self, if_true]
  rfl

lemma listing_special (name : String) (dir : Path) (done : Nat) (es : List Entry) :
    listing s dir none done (.special name false :: es) = listing s dir none (done + 1) es := by
  rw [listing.eq_def]
  rfl

lemma listing_file (name : String) (dir : Path) (done : Nat) (es : List Entry) :
    listing s dir none done (.file name false :: es) =
      file s (dir.push name) ++ listing s dir none (done + 1) es := by
  rw [listing.eq_def]
  rfl

lemma listing_directory (name : String) (inner : List Entry) (interruption : Option Interruption) (dir : Path)
    (done : Nat) (es : List Entry) :
    listing s dir none done (.directory name false inner interruption :: es) =
      (if (dir.push name).isIgnored s.ignored then say .debug s!"Ignoring directory: {dir.push name}"
        else listing s (dir.push name) interruption 0 inner) ++ listing s dir none (done + 1) es := by
  rw [listing.eq_def]
  rfl

/-- The first entry of a listing gives files of its own, each once, and the listing goes on after it. -/
def Splits (s : Search) (e : Entry) : Prop :=
  ∃ own : Path → List Path, ∀ dir,
    (∀ done es, (listing s dir none done (e :: es)).files =
      own dir ++ (listing s dir none (done + 1) es).files) ∧
    (∀ p, p ∈ own dir ↔ Finds s dir [e] p) ∧ (own dir).Nodup

lemma listing_of_splits {es : List Entry} (h : ∀ e ∈ es, Splits s e) (hd : Distinct es) (dir : Path)
    (done : Nat) :
    (∀ p, p ∈ (listing s dir none done es).files ↔ Finds s dir es p) ∧
      (listing s dir none done es).files.Nodup := by
  induction es generalizing done with
  | nil =>
    rw [listing]
    refine ⟨fun p => ?_, List.nodup_nil⟩
    exact ⟨fun h => absurd h List.not_mem_nil, fun h => absurd h not_finds_nil⟩
  | cons e es ih =>
    obtain ⟨hfirst, hd⟩ := List.pairwise_cons.mp hd
    obtain ⟨hmem, hnodup⟩ := ih (fun d hd => h d (List.mem_cons_of_mem _ hd)) hd (done + 1)
    obtain ⟨own, hown⟩ := h e List.mem_cons_self
    obtain ⟨hsplit, hownMem, hownNodup⟩ := hown dir
    rw [hsplit]
    constructor
    · intro p
      rw [List.mem_append, hownMem, hmem]
      exact finds_cons.symm
    · refine List.nodup_append.mpr ⟨hownNodup, hnodup, ?_⟩
      -- what two entries give differs in the name of the entry
      rintro p hp q hq rfl
      obtain ⟨c, hc, rest, hparts⟩ := ((hownMem p).mp hp).head
      obtain ⟨d, hd, rest', hparts'⟩ := ((hmem p).mp hq).head
      rw [hparts] at hparts'
      have hname := (List.cons.inj (List.append_cancel_left hparts')).1
      rw [List.mem_singleton.mp hc] at hname
      exact hfirst d hd hname

lemma file_nodup (path : Path) : (file s path).files.Nodup := by
  unfold file
  split
  · exact List.nodup_nil
  · split
    · exact List.nodup_nil
    · exact List.nodup_singleton path

/-- The files of a listing are those to which names lead from its entries, each once. -/
def Lists (s : Search) (interruption : Option Interruption) (es : List Entry) : Prop :=
  ∀ dir, (∀ p, p ∈ (listing s dir interruption 0 es).files ↔ Finds s dir es p) ∧
    (listing s dir interruption 0 es).files.Nodup

lemma splits_directory {interruption : Option Interruption} {inner : List Entry}
    (h : Lists s interruption inner) (name : String) :
    Splits s (.directory name false inner interruption) := by
  by_cases hignored : name ∈ s.ignored
  · refine ⟨fun _ => [], fun dir => ⟨fun done es => ?_, fun p => ?_, List.nodup_nil⟩⟩
    · rw [listing_directory, if_pos (isIgnored_push.mpr hignored)]
      rfl
    · rw [finds_directory]
      exact ⟨fun h => absurd h List.not_mem_nil, fun h => absurd hignored h.1⟩
  · refine ⟨fun dir => (listing s (dir.push name) interruption 0 inner).files, fun dir => ?_⟩
    obtain ⟨hmem, hnodup⟩ := h (dir.push name)
    refine ⟨fun done es => ?_, fun p => ?_, hnodup⟩
    · rw [listing_directory, if_neg fun h => hignored (isIgnored_push.mp h), append_files]
    · rw [hmem, finds_directory]
      exact (and_iff_right hignored).symm

lemma splits_link (hs : s.followLinks = false) {e : Entry} (he : e.linked = true) : Splits s e := by
  refine ⟨fun _ => [], fun dir => ⟨fun done es => listing_link hs he dir done es, fun p => ?_,
    List.nodup_nil⟩⟩
  exact ⟨fun h => absurd h List.not_mem_nil, fun h => absurd h (not_finds_link he)⟩

lemma splits_file (name : String) : Splits s (.file name false) := by
  refine ⟨fun dir => (Walk.file s (dir.push name)).files, fun dir => ⟨fun done es => ?_,
    fun p => mem_file, file_nodup _⟩⟩
  rw [listing_file, append_files]

lemma splits_special (name : String) : Splits s (.special name false) := by
  refine ⟨fun _ => [], fun dir => ⟨fun done es => ?_, fun p => ?_, List.nodup_nil⟩⟩
  · rw [listing_special, List.nil_append]
  · exact ⟨fun h => absurd h List.not_mem_nil, fun h => absurd h not_finds_special⟩

lemma splits_of_answered (hs : s.followLinks = false) {e : Entry} (h : e.Answered) : Splits s e := by
  induction h with
  | link he => exact splits_link hs he
  | file => exact splits_file _
  | special => exact splits_special _
  | directory _ hdistinct ih => exact splits_directory (fun dir => listing_of_splits ih hdistinct dir 0) _

/-- A walk that is not refused finds what it is for, and nothing twice. -/
lemma listing_of_answered (hs : s.followLinks = false) {es : List Entry} (ha : ∀ e ∈ es, e.Answered)
    (hd : Distinct es) (dir : Path) (done : Nat) :
    (∀ p, p ∈ (listing s dir none done es).files ↔ Finds s dir es p) ∧
      (listing s dir none done es).files.Nodup :=
  listing_of_splits (fun e he => splits_of_answered hs (ha e he)) hd dir done

end Walk

/-! ### The order of paths -/

namespace Path

lemma namesLe_eq_true_iff {as bs : List String} : namesLe as bs = true ↔ as = bs ∨ as < bs := by
  induction as generalizing bs with
  | nil => cases bs <;> simp [namesLe]
  | cons a as ih =>
    cases bs with
    | nil => simp [namesLe]
    | cons b bs =>
      rw [namesLe, List.cons_lt_cons_iff, List.cons_eq_cons]
      by_cases h : a = b
      · rw [if_pos h, ih]
        simp [h]
      · have hlt : a ≤ b ↔ a < b := by
          constructor
          · intro hle
            exact String.not_le.mp fun hge => h (String.le_antisymm hle hge)
          · intro hlt
            exact String.not_lt.mp (String.lt_asymm hlt)
        rw [if_neg h, decide_eq_true_iff, hlt]
        simp [h]

lemma namesLe_total (as bs : List String) : (namesLe as bs || namesLe bs as) = true := by
  induction as generalizing bs with
  | nil => rfl
  | cons a as ih =>
    cases bs with
    | nil => rfl
    | cons b bs =>
      rw [namesLe, namesLe]
      by_cases h : a = b
      · rw [if_pos h, if_pos h.symm]
        exact ih bs
      · rw [if_neg h, if_neg (Ne.symm h), Bool.or_eq_true, decide_eq_true_iff, decide_eq_true_iff]
        exact String.le_total a b

lemma le_trans {p q r : Path} (hpq : p.le q = true) (hqr : q.le r = true) : p.le r = true := by
  rw [le, namesLe_eq_true_iff] at *
  rcases hpq with hpq | hpq
  · rw [hpq]
    exact hqr
  · rcases hqr with hqr | hqr
    · rw [← hqr]
      exact Or.inr hpq
    · exact Or.inr (List.lt_trans hpq hqr)

lemma le_total (p q : Path) : (p.le q || q.le p) = true := namesLe_total _ _

lemma parts_lt_of_le {p q : Path} (hroot : p.root = q.root) (hne : p ≠ q) (h : p.le q = true) :
    p.parts < q.parts := by
  rw [le, namesLe_eq_true_iff, hroot] at h
  rcases h with h | h
  · have hparts := (List.cons.inj h).2
    exact absurd (by cases p; cases q; simp_all) hne
  · rcases List.cons_lt_cons_iff.mp h with h | h
    · exact absurd h (String.lt_irrefl _)
    · exact h.2

end Path

namespace Search

/-- Paths from one root, each once, are put in strict order. -/
lemma sort_pairwise {files : List Path} (root : PathRoot) (hroot : ∀ p ∈ files, p.root = root)
    (hnodup : files.Nodup) : (sort files).Pairwise (·.parts < ·.parts) := by
  have hle : (sort files).Pairwise fun p q => p.le q = true :=
    List.pairwise_mergeSort (fun p q r => Path.le_trans (p := p) (q := q) (r := r))
      (fun p q => Path.le_total p q) files
  have hne : (sort files).Nodup := (List.mergeSort_perm files Path.le).nodup_iff.mpr hnodup
  refine (hle.and hne).imp_of_mem fun {p q} hp hq h => ?_
  have hp := hroot p (List.mem_mergeSort.mp hp)
  have hq := hroot q (List.mem_mergeSort.mp hq)
  exact Path.parts_lt_of_le (hp.trans hq.symm) h.2 h.1

lemma nodup_of_sorted {files : List Path} (h : files.Pairwise (·.parts < ·.parts)) : files.Nodup := by
  refine h.imp fun {p q} hlt he => ?_
  rw [he] at hlt
  exact List.lt_irrefl _ hlt

/-- Lists in strict order are the same if they have the same members. -/
lemma eq_of_mem_iff {files files' : List Path} (h : files.Pairwise (·.parts < ·.parts))
    (h' : files'.Pairwise (·.parts < ·.parts)) (hmem : ∀ p, p ∈ files ↔ p ∈ files') :
    files = files' := by
  have hperm := (List.perm_ext_iff_of_nodup (nodup_of_sorted h) (nodup_of_sorted h')).mpr hmem
  refine hperm.eq_of_pairwise (fun p q _ _ hpq hqp => ?_) h h'
  exact absurd hqp (List.lt_asymm hpq)

/-- What a search finds where names lead to the files of the first listing. -/
lemma sort_start_of_lists {s : Search} {entries : List Entry} (h : Walk.Lists s none entries) (root : Path) :
    (∀ p, p ∈ sort (s.start root entries none).files ↔ Walk.Finds s root entries p) ∧
      (sort (s.start root entries none).files).Pairwise (·.parts < ·.parts) := by
  obtain ⟨hmem, hnodup⟩ := h root
  have hfiles : (s.start root entries none).files = (Walk.listing s root none 0 entries).files := rfl
  rw [hfiles]
  refine ⟨fun p => List.mem_mergeSort.trans (hmem p), sort_pairwise root.root ?_ hnodup⟩
  intro p hp
  obtain ⟨names, file, -, rfl, -⟩ := (hmem p).mp hp
  rfl

/-- What a search that follows no links finds where the system refuses nothing, and in which order. -/
lemma sort_start {s : Search} (hs : s.followLinks = false) (root : Path) {entries : List Entry}
    (ha : ∀ e ∈ entries, e.Answered) (hd : Entry.Distinct entries) :
    (∀ p, p ∈ sort (s.start root entries none).files ↔ Walk.Finds s root entries p) ∧
      (sort (s.start root entries none).files).Pairwise (·.parts < ·.parts) :=
  sort_start_of_lists (fun dir => Walk.listing_of_answered hs ha hd dir 0) root

/-- On a tree on which the system refuses nothing, a search that follows no links finds the files to
which names lead and that are sources and accepted, and nothing else to which they lead. Each is found
once, in the order of names, and the order in which directories are listed does not matter. -/
theorem find_exact (s : Search) (hs : s.followLinks = false) (root : Path) (name : String) (linked : Bool)
    (entries : List Entry) (ha : ∀ e ∈ entries, e.Answered) (hd : Entry.Distinct entries) :
    ∃ files, s.find root (some (.directory name linked entries none)) = .ok files ∧
      (∀ p, p ∈ files ↔ ∃ names file, Entry.Leads s.ignored entries names (.file file false) ∧
        p = root.descend names ∧ p.Supported s.includeTypescript ∧ s.accepts p = true) ∧
      (∀ names e, Entry.Leads s.ignored entries names e → root.descend names ∈ files →
        ∃ file, e = .file file false) ∧
      files.Pairwise (·.parts < ·.parts) ∧
      ∀ entries', Entry.Reordered entries entries' →
        s.find root (some (.directory name linked entries' none)) = .ok files := by
  obtain ⟨hmem, hsorted⟩ := sort_start hs root ha hd
  refine ⟨_, rfl, hmem, ?_, hsorted, ?_⟩
  · intro names e hl hp
    obtain ⟨names', file, hl', hp, -⟩ := (hmem _).mp hp
    have hnames := List.append_cancel_left (congrArg Path.parts hp)
    rw [← hnames] at hl'
    exact ⟨file, hl.unique hd ha hl'⟩
  · intro entries' hr
    obtain ⟨hmem', hsorted'⟩ := sort_start hs root (hr.answered ha) (hr.distinct hd)
    refine congrArg Except.ok (eq_of_mem_iff hsorted' hsorted fun p => ?_)
    rw [hmem, hmem']
    constructor
    · rintro ⟨names, file, hl, hp⟩
      exact ⟨names, file, hr.symm.leads hl, hp⟩
    · rintro ⟨names, file, hl, hp⟩
      exact ⟨names, file, hr.leads hl, hp⟩

/-- A directory that is named like a source and holds a file that is named like an ignored directory,
a directory that is ignored, and a link. -/
def namedTree : List Entry :=
  [.directory "page.ts" false [.file "dist.JS" false] none,
    .directory "dist.JS" false [.file "a.js" false] none, .file "b.js" true]

/-- The file is found, and the directory and the link are not. -/
theorem find_exact_namedTree :
    let s : Search := ⟨false, ["dist.JS"], false, fun _ => true⟩
    let root : Path := ⟨.absolute, ["dist.JS"]⟩
    (s.followLinks = false ∧ (∀ e ∈ namedTree, e.Answered) ∧ Entry.Distinct namedTree) ∧
      ∃ files, s.find root (some (.directory "dist.JS" false namedTree none)) = .ok files ∧
        root.descend ["page.ts", "dist.JS"] ∈ files ∧ root.descend ["page.ts"] ∉ files ∧
        root.descend ["dist.JS", "a.js"] ∉ files ∧ root.descend ["b.js"] ∉ files := by
  intro s root
  have ha : ∀ e ∈ namedTree, e.Answered := by
    refine List.forall_mem_cons.mpr ⟨?_, List.forall_mem_cons.mpr ⟨?_,
      List.forall_mem_cons.mpr ⟨?_, nofun⟩⟩⟩
    · exact Entry.Answered.directory (by simp [Entry.Answered.file]) (List.pairwise_singleton _ _)
    · exact Entry.Answered.directory (by simp [Entry.Answered.file]) (List.pairwise_singleton _ _)
    · exact Entry.Answered.link rfl
  have hd : Entry.Distinct namedTree := by
    unfold Entry.Distinct
    decide
  obtain ⟨files, hfind, hmem, honly, -, -⟩ := find_exact s rfl root "dist.JS" false namedTree ha hd
  refine ⟨⟨rfl, ha, hd⟩, files, hfind, ?_, ?_, ?_, ?_⟩
  · have hin : Entry.Leads s.ignored namedTree ["page.ts", "dist.JS"] (.file "dist.JS" false) :=
      Entry.Leads.enter List.mem_cons_self (by decide) (Entry.Leads.here List.mem_cons_self)
    have hsource : (root.descend ["page.ts", "dist.JS"]).Supported false :=
      ⟨.javascript, by decide +kernel, fun _ => rfl⟩
    exact (hmem _).mpr ⟨_, _, hin, rfl, hsource, rfl⟩
  · intro hp
    obtain ⟨file, he⟩ := honly ["page.ts"] _ (Entry.Leads.here List.mem_cons_self) hp
    cases he
  · intro hp
    obtain ⟨names, file, hl, hnames, -⟩ := (hmem _).mp hp
    have hnames := List.append_cancel_left (congrArg Path.parts hnames)
    subst hnames
    rcases Entry.leads_iff.mp hl with ⟨-, h⟩ | ⟨d, _, _, _, -, hn, h, -⟩
    · cases h
    · obtain ⟨rfl, -⟩ := List.cons.inj h
      exact hn (by decide)
  · intro hp
    have hlink : Entry.Leads s.ignored namedTree ["b.js"] (.file "b.js" true) :=
      Entry.Leads.here (List.mem_cons_of_mem _ (List.mem_cons_of_mem _ List.mem_cons_self))
    obtain ⟨file, he⟩ := honly _ _ hlink hp
    cases he

end Search

end AsyncActions
