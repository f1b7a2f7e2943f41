import AsyncActions.Proofs.FoundSources

/-!
# Searches that are refused

A refusal ends the listing in which it happens, and nothing else. `Entry.Reaches` says to which files
names lead before that, and a search finds these files whatever the system refuses. What is listed after
an entry that cannot be looked at is lost with it, and what is listed before a listing breaks off is kept;
so a refusal costs just what it is about where nothing is listed after it or before.
-/

namespace AsyncActions

namespace Entry

/-- The system refuses to say what the entry is. A link that is not followed is not looked at. -/
def Refused (s : Search) (e : Entry) : Prop :=
  (∃ name linked refusal, e = .unreadable name linked refusal) ∧ (e.linked = true → s.followLinks = true)

/-- None of the entries is refused, and the listing, which gives `left` entries, goes on after them. -/
def Heard (s : Search) (left : Option Nat) (entries : List Entry) : Prop :=
  (∀ e ∈ entries, ¬ e.Refused s) ∧ ∀ n ∈ left, entries.length < n

/-- The names lead to a file through listings that give each of them before they are refused. -/
inductive Reaches (s : Search) : Option Nat → List Entry → List String → Prop
  | file {left : Option Nat} {before after : List Entry} {name : String} {linked : Bool} :
      Heard s left before → (linked = true → s.followLinks = true) →
        Reaches s left (before ++ .file name linked :: after) [name]
  | enter {left : Option Nat} {before after inner : List Entry} {name : String} {linked : Bool}
      {interruption : Option Interruption} {names : List String} :
      Heard s left before → (linked = true → s.followLinks = true) → name ∉ s.ignored →
        Reaches s (interruption.map (·.after)) inner names →
          Reaches s left (before ++ .directory name linked inner interruption :: after) (name :: names)

/-- The entries without those that cannot be looked at. A directory that cannot be listed is empty. -/
def spared : Option Interruption → List Entry → List Entry
  | some _, _ => []
  | none, [] => []
  | none, .unreadable .. :: es => spared none es
  | none, .directory name linked inner interruption :: es =>
    .directory name linked (spared interruption inner) none :: spared none es
  | none, .file name linked :: es => .file name linked :: spared none es
  | none, .special name linked :: es => .special name linked :: spared none es

/-- A directory that cannot be listed gives no entry, and no entry is listed after one that is refused. -/
inductive RefusedLast (s : Search) : Option Interruption → List Entry → Prop
  | unlisted {i : Interruption} {es : List Entry} : i.after = 0 → RefusedLast s (some i) es
  | nil : RefusedLast s none []
  | last {e : Entry} : e.Refused s → RefusedLast s none [e]
  | cons {e : Entry} {es : List Entry} : ¬ e.Refused s →
      (∀ name linked inner interruption, e = .directory name linked inner interruption →
        RefusedLast s interruption inner) →
      RefusedLast s none es → RefusedLast s none (e :: es)

/-- The names lead to a file that is the entry or below it. -/
def Gives (s : Search) (e : Entry) (names : List String) : Prop :=
  (e.linked = true → s.followLinks = true) ∧
    match e with
    | .file name _ => names = [name]
    | .directory name _ inner interruption =>
      name ∉ s.ignored ∧ ∃ rest, names = name :: rest ∧ Reaches s (interruption.map (·.after)) inner rest
    | _ => False

section

variable {s : Search} {left : Option Nat} {e : Entry} {es : List Entry} {names : List String}

lemma reaches_iff : Reaches s left es names ↔
    ∃ before e after, es = before ++ e :: after ∧ Heard s left before ∧ e.Gives s names := by
  constructor
  · intro h
    cases h with
    | file hheard hlink => exact ⟨_, _, _, rfl, hheard, hlink, rfl⟩
    | enter hheard hlink hname hinner => exact ⟨_, _, _, rfl, hheard, hlink, hname, _, rfl, hinner⟩
  · rintro ⟨before, e, after, rfl, hheard, hlink, hgives⟩
    cases e with
    | file name linked =>
      subst hgives
      exact Reaches.file hheard hlink
    | special => cases hgives
    | directory name linked inner interruption =>
      obtain ⟨hname, rest, rfl, hinner⟩ := hgives
      exact Reaches.enter hheard hlink hname hinner
    | unreadable => cases hgives

lemma not_reaches_nil : ¬ Reaches s left [] names := by
  rw [reaches_iff]
  rintro ⟨before, e, after, hes, -⟩
  simp at hes

lemma heard_nil : Heard s left [] ↔ left ≠ some 0 := by
  cases left <;> simp [Heard, Nat.pos_iff_ne_zero]

lemma heard_cons : Heard s left (e :: es) ↔
    left ≠ some 0 ∧ ¬ e.Refused s ∧ Heard s (left.map (· - 1)) es := by
  cases left with
  | none => simp [Heard]
  | some n =>
    simp only [Heard, List.forall_mem_cons, List.length_cons, Option.mem_some_iff, forall_eq',
      Option.map_some, ne_eq, Option.some.injEq]
    constructor
    · rintro ⟨⟨he, hes⟩, hn⟩
      exact ⟨by omega, he, hes, by omega⟩
    · rintro ⟨hn, he, hes, hlt⟩
      exact ⟨⟨he, hes⟩, by omega⟩

/-- Names lead to a file through the first entry of a listing or, if that is not refused, through others. -/
lemma reaches_cons : Reaches s left (e :: es) names ↔ left ≠ some 0 ∧
    (e.Gives s names ∨ ¬ e.Refused s ∧ Reaches s (left.map (· - 1)) es names) := by
  simp only [reaches_iff]
  constructor
  · rintro ⟨before, d, after, hes, hheard, hgives⟩
    cases before with
    | nil =>
      obtain ⟨rfl, -⟩ := List.cons.inj hes
      exact ⟨heard_nil.mp hheard, Or.inl hgives⟩
    | cons c before =>
      obtain ⟨rfl, rfl⟩ := List.cons.inj hes
      obtain ⟨hleft, he, hrest⟩ := heard_cons.mp hheard
      exact ⟨hleft, Or.inr ⟨he, before, d, after, rfl, hrest, hgives⟩⟩
  · rintro ⟨hleft, hgives | ⟨he, before, d, after, rfl, hrest, hgives⟩⟩
    · exact ⟨[], e, es, rfl, heard_nil.mpr hleft, hgives⟩
    · exact ⟨e :: before, d, after, rfl, heard_cons.mpr ⟨hleft, he, hrest⟩, hgives⟩

lemma not_refused_of_skipped (hlink : e.linked = true) (hs : s.followLinks = false) : ¬ e.Refused s := by
  intro h
  rw [h.2 hlink] at hs
  cases hs

lemma not_gives_of_skipped (hlink : e.linked = true) (hs : s.followLinks = false) : ¬ e.Gives s names := by
  intro h
  rw [h.1 hlink] at hs
  cases hs

end

end Entry

/-! ### What a listing gives -/

namespace Walk

open Entry

variable {s : Search}

/-- Before they are refused, listings lead from these entries to a file that the search is for. -/
def Reached (s : Search) (dir : Path) (left : Option Nat) (es : List Entry) (p : Path) : Prop :=
  ∃ names, Reaches s left es names ∧ p = dir.descend names ∧ p.Supported s.includeTypescript ∧
    s.accepts p = true

/-- How many entries are still listed before the listing breaks off. -/
def leftAfter (interruption : Option Interruption) (done : Nat) : Option Nat :=
  interruption.map (·.after - done)

lemma leftAfter_succ (interruption : Option Interruption) (done : Nat) :
    leftAfter interruption (done + 1) = (leftAfter interruption done).map (· - 1) := by
  cases interruption with
  | none => rfl
  | some i => simp [leftAfter, Nat.sub_sub]

lemma leftAfter_eq_zero {interruption : Option Interruption} {done : Nat} {i : Interruption}
    (h : interruption.filter (·.after = done) = some i) : leftAfter interruption done = some 0 := by
  obtain ⟨rfl, hafter⟩ := Option.filter_eq_some_iff.mp h
  have hafter : i.after = done := of_decide_eq_true hafter
  simp [leftAfter, hafter]

/-- A listing that does not break off here goes on for at least one entry. -/
lemma leftAfter_ne_zero {interruption : Option Interruption} {done : Nat}
    (hdone : ∀ i ∈ interruption, done ≤ i.after) (h : interruption.filter (·.after = done) = none) :
    leftAfter interruption done ≠ some 0 ∧ ∀ i ∈ interruption, done + 1 ≤ i.after := by
  cases interruption with
  | none => simp [leftAfter]
  | some i =>
    have hle := hdone i rfl
    have hne : i.after ≠ done := by simpa [Option.filter] using h
    simp only [leftAfter, Option.map_some, ne_eq, Option.some.injEq, Option.mem_some_iff, forall_eq']
    omega

/-- The entry is or holds, before listings below it are refused, a file that the search is for. -/
def Given (s : Search) (dir : Path) (e : Entry) (p : Path) : Prop :=
  ∃ names, e.Gives s names ∧ p = dir.descend names ∧ p.Supported s.includeTypescript ∧ s.accepts p = true

lemma reached_step {dir p : Path} {interruption : Option Interruption} {done : Nat} {e : Entry}
    {es : List Entry} (hdone : ∀ i ∈ interruption, done ≤ i.after)
    (h : interruption.filter (·.after = done) = none) :
    Reached s dir (leftAfter interruption done) (e :: es) p ↔
      Given s dir e p ∨ ¬ e.Refused s ∧ Reached s dir (leftAfter interruption (done + 1)) es p := by
  simp only [Reached, Given, reaches_cons, leftAfter_succ, (leftAfter_ne_zero hdone h).1, ne_eq,
    not_false_eq_true, true_and, or_and_right, exists_or, and_assoc, exists_and_left]

lemma given_file {dir p : Path} {name : String} {linked : Bool} (hlink : linked = true → s.followLinks = true) :
    Given s dir (.file name linked) p ↔ p ∈ (file s (dir.push name)).files := by
  rw [mem_file_iff]
  constructor
  · rintro ⟨names, ⟨-, rfl⟩, rfl, hp⟩
    exact ⟨rfl, hp⟩
  · rintro ⟨rfl, hp⟩
    exact ⟨[name], ⟨hlink, rfl⟩, rfl, hp⟩

lemma given_directory {dir p : Path} {name : String} {linked : Bool} {inner : List Entry}
    {interruption : Option Interruption} (hlink : linked = true → s.followLinks = true) :
    Given s dir (.directory name linked inner interruption) p ↔
      name ∉ s.ignored ∧ Reached s (dir.push name) (leftAfter interruption 0) inner p := by
  have hpath (names : List String) : dir.descend (name :: names) = (dir.push name).descend names := by
    simp [Path.descend, Path.push]
  constructor
  · rintro ⟨names, ⟨-, hname, rest, rfl, hinner⟩, rfl, hp⟩
    exact ⟨hname, rest, hinner, hpath rest, hp⟩
  · rintro ⟨hname, rest, hinner, rfl, hp⟩
    exact ⟨name :: rest, ⟨hlink, hname, rest, rfl, hinner⟩, (hpath rest).symm, hp⟩

/-- A listing gives the files to which names lead before it is refused. -/
lemma mem_listing_iff {dir p : Path} {interruption : Option Interruption} {done : Nat} {es : List Entry}
    (hdone : ∀ i ∈ interruption, done ≤ i.after) :
    p ∈ (listing s dir interruption done es).files ↔ Reached s dir (leftAfter interruption done) es p := by
  have hlinked {e : Entry} (h : ¬ (e.linked && !s.followLinks) = true) : e.linked = true → s.followLinks = true := by
    simpa using h
  have hempty {left : Option Nat} {dir : Path} : ¬ Reached s dir left [] p :=
    fun ⟨_, h, _⟩ => not_reaches_nil h
  fun_induction listing s dir interruption done es with
  | case1 => exact iff_of_false not_mem_refused hempty
  | case2 => exact iff_of_false List.not_mem_nil hempty
  | case3 dir interruption done e es i hbreak =>
    refine iff_of_false not_mem_refused fun ⟨names, h, _⟩ => ?_
    exact (reaches_cons.mp h).1 (leftAfter_eq_zero hbreak)
  | case4 dir interruption done e es path hgoes hskip ih =>
    have ih : _ ↔ _ := ih (leftAfter_ne_zero hdone hgoes).2
    obtain ⟨hlink, hs⟩ : e.linked = true ∧ s.followLinks = false := by simpa using hskip
    rw [append_files, List.mem_append, reached_step hdone hgoes, ih]
    have hnone : ¬ Given s dir e p := fun ⟨_, h, _⟩ => not_gives_of_skipped hlink hs h
    simp [say, hnone, not_refused_of_skipped hlink hs]
  | case5 dir interruption done es hgoes name linked refusal path hlook =>
    have hrefused : Entry.Refused s (.unreadable name linked refusal) := ⟨⟨_, _, _, rfl⟩, hlinked hlook⟩
    rw [reached_step hdone hgoes]
    refine iff_of_false not_mem_refused ?_
    rintro (⟨names, ⟨-, h⟩, -⟩ | ⟨h, -⟩)
    · exact h
    · exact h hrefused
  | case6 dir interruption done es hgoes name linked hlook ih =>
    have ih : _ ↔ _ := ih (leftAfter_ne_zero hdone hgoes).2
    have hheard : ¬ Entry.Refused s (.special name linked) := by simp [Entry.Refused]
    have hnone : ¬ Given s dir (.special name linked) p := fun ⟨_, ⟨_, h⟩, _⟩ => h
    rw [reached_step hdone hgoes, ih]
    simp [hheard, hnone]
  | case7 dir interruption done es hgoes name linked path hlook ih =>
    have ih : _ ↔ _ := ih (leftAfter_ne_zero hdone hgoes).2
    have hlink : linked = true → s.followLinks = true := hlinked hlook
    have hheard : ¬ Entry.Refused s (.file name linked) := by simp [Entry.Refused]
    rw [append_files, List.mem_append, reached_step hdone hgoes, ih,
      given_file hlink]
    simp only [hheard, not_false_eq_true, true_and]
    rfl
  | case8 dir interruption done es hgoes name linked inner innerInterruption path hlook ihinner ih =>
    have ih : _ ↔ _ := ih (leftAfter_ne_zero hdone hgoes).2
    have hlink : linked = true → s.followLinks = true := hlinked hlook
    have hheard : ¬ Entry.Refused s (.directory name linked inner innerInterruption) := by
      simp [Entry.Refused]
    rw [append_files, List.mem_append, reached_step hdone hgoes, ih,
      given_directory hlink]
    simp only [hheard, not_false_eq_true, true_and]
    refine or_congr ?_ Iff.rfl
    have hignored : path.isIgnored s.ignored = true ↔ name ∈ s.ignored := isIgnored_push
    by_cases hname : name ∈ s.ignored
    · rw [if_pos (hignored.mpr hname)]
      simp [say, hname]
    · rw [if_neg fun h => hname (hignored.mp h)]
      exact (ihinner fun i _ => Nat.zero_le _).trans (and_iff_right hname).symm

/-! ### Refusals that cost just what they are about -/

/-- The files that an entry gives if it is not refused. -/
def own (s : Search) (dir : Path) (e : Entry) : List Path :=
  if e.linked && !s.followLinks then []
  else
    match e with
    | .file name _ => (file s (dir.push name)).files
    | .directory name _ inner interruption =>
      if (dir.push name).isIgnored s.ignored then []
      else (listing s (dir.push name) interruption 0 inner).files
    | .special .. | .unreadable .. => []

lemma files_listing_cons {e : Entry} (he : ¬ e.Refused s) (dir : Path) (done : Nat) (es : List Entry) :
    (listing s dir none done (e :: es)).files = own s dir e ++ (listing s dir none (done + 1) es).files := by
  by_cases hskip : (e.linked && !s.followLinks) = true
  · obtain ⟨hlink, hs⟩ : e.linked = true ∧ s.followLinks = false := by simpa using hskip
    rw [listing_link hs hlink, own.eq_def, if_pos hskip, List.nil_append]
  · rw [listing.eq_def, own.eq_def, if_neg hskip]
    simp only [Option.filter_none]
    rw [if_neg hskip]
    cases e with
    | file => exact append_files _ _
    | special => rfl
    | directory name linked inner interruption =>
      rw [append_files, apply_ite Walk.files]
      rfl
    | unreadable name linked refusal => exact absurd ⟨⟨_, _, _, rfl⟩, by simpa using hskip⟩ he

lemma files_listing_refused {e : Entry} (he : e.Refused s) (dir : Path) (done : Nat) (es : List Entry) :
    (listing s dir none done (e :: es)).files = [] := by
  have hlook : ¬ (e.linked && !s.followLinks) = true := by simpa using he.2
  rw [listing.eq_def]
  simp only [Option.filter_none]
  rw [if_neg hlook]
  obtain ⟨⟨name, linked, refusal, rfl⟩, -⟩ := he
  exact List.eq_nil_iff_forall_not_mem.mpr fun p => not_mem_refused

lemma files_listing_unlisted {i : Interruption} (hi : i.after = 0) (dir : Path) (es : List Entry) :
    (listing s dir (some i) 0 es).files = [] := by
  refine List.eq_nil_iff_forall_not_mem.mpr fun p => ?_
  rw [listing.eq_def]
  cases es with
  | nil => exact not_mem_refused
  | cons e es =>
    have hbreak : (some i).filter (fun j => decide (j.after = 0)) = some i := by simp [Option.filter, hi]
    simp only [hbreak]
    exact not_mem_refused

lemma files_listing_nil (dir : Path) (done : Nat) : (listing s dir none done []).files = [] := by
  rw [listing]
  rfl

/-- Where nothing is listed after a refusal, the files are those of the entries without what is refused. -/
lemma files_listing_spared {interruption : Option Interruption} {es : List Entry}
    (h : RefusedLast s interruption es) (dir : Path) (done : Nat) (hdone : interruption ≠ none → done = 0)
    (done' : Nat) :
    (listing s dir interruption done es).files = (listing s dir none done' (spared interruption es)).files := by
  induction h generalizing dir done done' with
  | @unlisted i es hafter =>
    rw [hdone (by simp), files_listing_unlisted hafter, spared, files_listing_nil]
  | nil => rw [spared, files_listing_nil, files_listing_nil]
  | last he =>
    rw [files_listing_refused he]
    obtain ⟨⟨name, linked, refusal, rfl⟩, -⟩ := he
    rw [spared, spared, files_listing_nil]
  | @cons e es he _ _ ihinner ih =>
    have ih := ih dir (done + 1) (by simp)
    rw [files_listing_cons he]
    cases e with
    | file name linked =>
      rw [spared, files_listing_cons (by simp [Entry.Refused]), ih (done' + 1)]
    | special name linked =>
      rw [spared, files_listing_cons (by simp [Entry.Refused]), ih (done' + 1)]
    | directory name linked inner interruption =>
      have hinner := ihinner name linked inner interruption rfl (dir.push name) 0 (by simp) 0
      have hown : own s dir (.directory name linked inner interruption) =
          own s dir (.directory name linked (spared interruption inner) none) := by
        simp only [own, hinner]
        rfl
      rw [spared, files_listing_cons (by simp [Entry.Refused]), ih (done' + 1), hown]
    | unreadable name linked refusal =>
      rw [spared, own, ite_self, List.nil_append, ih done']

end Walk

namespace Search

/-- A search of a directory gives files whatever the system refuses: those to which names lead before a
listing is refused, in the order of names. If nothing is listed after a refusal, they are the files that
there would be without what is refused. -/
theorem find_reached (s : Search) (root : Path) (name : String) (linked : Bool) (entries : List Entry)
    (interruption : Option Interruption) :
    ∃ files, s.find root (some (.directory name linked entries interruption)) = .ok files ∧
      (∀ p, p ∈ files ↔ ∃ names, Entry.Reaches s (interruption.map (·.after)) entries names ∧
        p = root.descend names ∧ p.Supported s.includeTypescript ∧ s.accepts p = true) ∧
      files.Pairwise (fun p q => p.le q = true) ∧
      (Entry.RefusedLast s interruption entries →
        s.find root (some (.directory name linked (Entry.spared interruption entries) none)) = .ok files) := by
  refine ⟨_, rfl, fun p => ?_, ?_, fun h => ?_⟩
  · exact List.mem_mergeSort.trans (Walk.mem_listing_iff fun i _ => Nat.zero_le _)
  · exact List.pairwise_mergeSort (fun p q r => Path.le_trans (p := p) (q := q) (r := r))
      (fun p q => Path.le_total p q) _
  · exact congrArg (Except.ok ∘ sort) (Walk.files_listing_spared h root 0 (fun _ => rfl) 0).symm

/-- A link to what may not be looked at, listed before a source. -/
def forwardedTree : List Entry := [.unreadable "bad" true .denied, .file "z.js" false]

/-- A directory whose listing breaks off after the first of its sources, where names are handed out as they
are read. -/
def brokenTree : List Entry :=
  [.directory "sub" false [.file "a.js" false, .file "z.js" false] (some ⟨1, .denied⟩)]

/-- What a refusal is about is not all that it changes. The source after the link is lost, which is there
without the link. A listing that breaks off keeps the source before the break, which an empty directory does
not have. -/
theorem find_forwardedTree_brokenTree :
    let s : Search := ⟨false, [], true, fun _ => true⟩
    let root : Path := ⟨.absolute, ["p"]⟩
    let found (entries : List Entry) := s.find root (some (.directory "p" false entries none))
    (found forwardedTree = .ok [] ∧
      found (Entry.spared none forwardedTree) = .ok [root.descend ["z.js"]]) ∧
    found brokenTree = .ok [root.descend ["sub", "a.js"]] ∧ found (Entry.spared none brokenTree) = .ok [] := by
  intro s root found
  have hfound {entries : List Entry} {files : List Path}
      (h : (Walk.listing s root none 0 entries).files = files) (hsort : sort files = files) :
      found entries = .ok files :=
    congrArg Except.ok ((congrArg sort h).trans hsort)
  have hkept {path : Path} (h : path.isSource false = true) : (Walk.file s path).files = [path] := by
    rw [Walk.file, h]
    rfl
  have hz : (root.push "z.js").isSource false = true := by decide +kernel
  have ha : ((root.push "sub").push "a.js").isSource false = true := by decide +kernel
  have hsub : (Walk.listing s (root.push "sub") (some ⟨1, .denied⟩) 0
      [.file "a.js" false, .file "z.js" false]).files = [root.descend ["sub", "a.js"]] := by
    have hbreak : (Walk.listing s (root.push "sub") (some ⟨1, .denied⟩) 1 [.file "z.js" false]).files = [] := by
      rw [Walk.listing.eq_def]
      rfl
    rw [Walk.listing.eq_def]
    exact (Walk.append_files _ _).trans (congrArg₂ List.append (hkept ha) hbreak)
  refine ⟨⟨hfound ?_ List.mergeSort_nil, hfound ?_ (List.mergeSort_singleton _)⟩,
    hfound ?_ (List.mergeSort_singleton _), hfound ?_ List.mergeSort_nil⟩
  · exact Walk.files_listing_refused ⟨⟨_, _, _, rfl⟩, fun _ => rfl⟩ _ _ _
  · rw [forwardedTree, Entry.spared, Entry.spared, Entry.spared, Walk.listing_file, Walk.append_files,
      hkept hz, Walk.files_listing_nil]
    rfl
  · rw [brokenTree, Walk.files_listing_cons (by simp [Entry.Refused]), Walk.files_listing_nil]
    exact (List.append_nil _).trans hsub
  · rw [brokenTree, Entry.spared, Entry.spared, Entry.spared, Walk.files_listing_cons (by simp [Entry.Refused]),
      Walk.files_listing_nil]
    exact (List.append_nil _).trans (Walk.files_listing_nil _ _)

end Search

end AsyncActions
