import AsyncActions.Proofs.Lookup
import AsyncActions.Workspace
import Mathlib.Data.List.Basic
import Mathlib.Data.List.Infix
import Mathlib.Tactic.Common

/-!
# Paths on which nothing is a link

A path is direct if no step on it is seen to be a link and none leads back. Resolving a path gives a direct
one, and where everything stands in a directory the system finds at a direct path what the workspace holds
there, unless a directory above may not be searched. So reading and writing a file concern its own item and
no other.
-/

namespace AsyncActions.Workspace

/-- No step of the path is seen to be a link, and none leads back. -/
structure Direct (ws : Workspace) (p : Path) : Prop where
  root : p.root = .absolute
  forward : ".." ∉ p.parts
  linkless : ∀ parts, parts <+: p.parts → ws.linkAt? ⟨p.root, parts⟩ = none

def IsDirectory (ws : Workspace) (p : Path) : Prop := ∃ access, ws.item? p = some (.directory access)

instance (ws : Workspace) (p : Path) : Decidable (ws.IsDirectory p) :=
  match h : ws.item? p with
  | some (.directory access) => isTrue ⟨access, h⟩
  | some (.file ..) => isFalse fun ⟨_, h'⟩ => nomatch h.symm.trans h'
  | some (.link _) => isFalse fun ⟨_, h'⟩ => nomatch h.symm.trans h'
  | some .pipe => isFalse fun ⟨_, h'⟩ => nomatch h.symm.trans h'
  | none => isFalse fun ⟨_, h'⟩ => nomatch h.symm.trans h'

/-- Everything stands in a directory. -/
def Nested (ws : Workspace) : Prop :=
  ∀ p i, ws.item? p = some i → ws.IsDirectory p.parent

/-- A file of the workspace that the system finds. -/
structure FileAt (ws : Workspace) (p : Path) (bytes : Bytes) (access : Access) : Prop where
  root : p.root = .absolute
  forward : ".." ∉ p.parts
  item : ws.item? p = some (.file bytes access)
  opened : ws.isOpen p = true

section

variable {ws : Workspace} {p : Path}

lemma isSearchable_of_directory {access : DirectoryAccess} (h : ws.item? p = some (.directory access)) :
    ws.isSearchable p = access.searchable := by
  rw [isSearchable, h]

lemma isOpen_push (name : String) : ws.isOpen (p.push name) = (ws.isOpen p && ws.isSearchable p) := by
  have hlast : (p.parts ++ [name]).take p.parts.length = p.parts := List.take_left
  have hrest : ∀ n ∈ List.range p.parts.length, (p.parts ++ [name]).take n = p.parts.take n := fun n hn =>
    List.take_append_of_le_length (List.mem_range.mp hn).le
  simp only [isOpen, Path.push, List.length_append, List.length_singleton, List.range_succ, List.all_append,
    List.all_cons, List.all_nil, Bool.and_true, hlast]
  rw [Bool.eq_iff_iff]
  simp only [Bool.and_eq_true, List.all_eq_true]
  exact and_congr_left' (forall₂_congr fun n hn => by rw [hrest n hn])

lemma linkAt?_eq_some {target : Path} :
    ws.linkAt? p = some target ↔ ws.item? p = some (.link target) ∧ ws.isOpen p = true := by
  unfold linkAt?
  split
  · next other hitem => simp [hitem, and_comm]
  · next hitem =>
    refine iff_of_false nofun fun h => hitem target h.1

lemma linkAt?_eq_none : ws.linkAt? p = none ↔
    ∀ target, ws.item? p = some (.link target) → ws.isOpen p ≠ true := by
  rw [Option.eq_none_iff_forall_ne_some]
  exact forall_congr' fun target => by rw [ne_eq, linkAt?_eq_some, not_and]

lemma barrier?_eq_none : ws.barrier? p = none ↔ ws.IsDirectory p ∧ ws.isSearchable p = true := by
  unfold barrier? isSearchable IsDirectory
  cases ws.item? p with
  | none => simp
  | some i => cases i <;> simp

lemma isDirectory_of_isAbove (h : ws.isAbove p = true) : ws.IsDirectory p := ⟨_, by rw [item?, if_pos h]⟩

lemma isDirectory_nil (root : PathRoot) : ws.IsDirectory ⟨root, []⟩ := isDirectory_of_isAbove rfl

lemma linkAt?_of_isDirectory (h : ws.IsDirectory p) : ws.linkAt? p = none := by
  obtain ⟨access, h⟩ := h
  rw [linkAt?, h]

lemma direct_root : ws.Direct ⟨.absolute, []⟩ where
  root := rfl
  forward := List.not_mem_nil
  linkless parts h := by
    rw [List.prefix_nil.mp h]
    exact linkAt?_of_isDirectory (isDirectory_nil _)

/-- In a workspace without links paths lead straight on. -/
lemma direct_of_linkless (h : ∀ q target, ws.items.lookup q ≠ some (.link target)) (hroot : p.root = .absolute)
    (hforward : ".." ∉ p.parts) : ws.Direct p where
  root := hroot
  forward := hforward
  linkless parts _ := by
    refine linkAt?_eq_none.mpr fun target hitem => ?_
    unfold item? at hitem
    split at hitem
    · cases hitem
    · exact absurd hitem (h _ target)

lemma Direct.push (h : ws.Direct p) {name : String} (hname : name ≠ "..")
    (hlink : ws.linkAt? (p.push name) = none) : ws.Direct (p.push name) where
  root := h.root
  forward := by
    intro hmem
    rcases List.mem_append.mp hmem with hmem | hmem
    · exact h.forward hmem
    · exact hname (List.mem_singleton.mp hmem).symm
  linkless parts hparts := by
    rcases List.prefix_concat_iff.mp hparts with rfl | hparts
    · exact hlink
    · exact h.linkless parts hparts

lemma Direct.parent (h : ws.Direct p) : ws.Direct p.parent where
  root := h.root
  forward hmem := h.forward (List.mem_of_mem_dropLast hmem)
  linkless parts hparts := h.linkless parts (hparts.trans (List.dropLast_prefix _))

/-- Every step of a direct path leads on to something that is not seen to be a link. -/
lemma Direct.step {root : PathRoot} {done rest : List String} {name : String}
    (h : ws.Direct ⟨root, done ++ name :: rest⟩) :
    name ≠ ".." ∧ ws.linkAt? ((⟨root, done⟩ : Path).push name) = none := by
  refine ⟨fun he => h.forward (by simp [he]), h.linkless (done ++ [name]) ?_⟩
  exact ⟨rest, by simp⟩

lemma direct_linkStart (h : ws.Direct p) (target : Path) : ws.Direct (linkStart p target) := by
  unfold linkStart
  split
  · exact direct_root
  · exact h

/-- Wherever a walk ends, nothing on the way there is a link. -/
lemma direct_of_walk {depth : Nat} {pending : List Path} {place q : Path} {steps : List String}
    (h : ws.walk depth pending place steps = .ok q) (hplace : ws.Direct place) : ws.Direct q := by
  fun_induction walk ws depth pending place steps generalizing q with
  | case1 => exact Except.ok.inj h ▸ hplace
  | case2 _ _ _ _ ih => exact ih h hplace.parent
  | case3 => cases h
  | case4 => cases h
  | case5 _ _ _ _ _ target _ _ _ _ hinner ihinner ih =>
    exact ih h (ihinner hinner (direct_linkStart hplace target))
  | case6 => cases h
  | case7 _ _ _ _ _ hname hlink ih => exact ih h (hplace.push hname hlink)

lemma direct_of_resolve {q : Path} (h : ws.resolve p = .ok q) : ws.Direct q :=
  direct_of_walk h direct_root

lemma absolute_of_direct (h : ws.Direct p) : ws.absolute p = p := by
  cases p
  cases h.root
  rfl

/-- A walk along a direct path stays on it. -/
lemma walk_of_direct (depth : Nat) (pending : List Path) {done steps : List String}
    (h : ws.Direct ⟨.absolute, done ++ steps⟩) :
    ws.walk depth pending ⟨.absolute, done⟩ steps = .ok ⟨.absolute, done ++ steps⟩ := by
  induction steps generalizing done with
  | nil => rw [walk, List.append_nil]
  | cons name rest ih =>
    obtain ⟨hname, hlink⟩ := h.step
    have hparts : done ++ name :: rest = (done ++ [name]) ++ rest := by simp
    rw [hparts] at h ⊢
    rw [walk, if_neg hname, hlink]
    exact ih h

lemma resolve_of_direct (h : ws.Direct p) : ws.resolve p = .ok p := by
  rw [resolve, absolute_of_direct h]
  obtain ⟨root, parts⟩ := p
  cases h.root
  exact walk_of_direct _ _ h

/-- A path is resolved as its absolute form is. -/
lemma resolve_of_direct_absolute (h : ws.Direct (ws.absolute p)) : ws.resolve p = .ok (ws.absolute p) := by
  have hresolve := resolve_of_direct h
  rwa [resolve, absolute_of_direct h] at hresolve

/-! ### Looking up -/

/-- What the system finds along a direct path is at that path, and the way there is open. -/
lemma eq_of_locateFrom {create : Bool} {depth : Nat} {done steps : List String} {place : Path}
    (h : ws.Direct ⟨.absolute, done ++ steps⟩) (hopen : ws.isOpen ⟨.absolute, done⟩ = true)
    (hfound : ws.locateFrom create depth ⟨.absolute, done⟩ steps = .ok place) :
    place = ⟨.absolute, done ++ steps⟩ ∧ ws.isOpen place = true := by
  -- A link behind a directory that may not be searched is not seen, but then the system does not get there.
  induction steps generalizing done with
  | nil =>
    rw [locateFrom] at hfound
    cases hfound
    rw [List.append_nil]
    exact ⟨rfl, hopen⟩
  | cons name rest ih =>
    obtain ⟨hname, hlink⟩ := h.step
    have hparts : done ++ name :: rest = (done ++ [name]) ++ rest := by simp
    rw [locateFrom] at hfound
    rw [hparts] at h ⊢
    cases hbarrier : ws.barrier? ⟨.absolute, done⟩ with
    | some e =>
      rw [hbarrier] at hfound
      cases hfound
    | none =>
      have hnext : ws.isOpen ((⟨.absolute, done⟩ : Path).push name) = true := by
        rw [isOpen_push, hopen, (barrier?_eq_none.mp hbarrier).2]
        rfl
      simp only [hbarrier, if_neg hname] at hfound
      split at hfound
      · split at hfound
        · next hcreate =>
          rw [Bool.and_eq_true, List.isEmpty_iff] at hcreate
          rw [hcreate.2, List.append_nil]
          cases hfound
          exact ⟨rfl, hnext⟩
        · cases hfound
      · next target hitem => exact absurd hnext (linkAt?_eq_none.mp hlink target hitem)
      · exact ih h hnext hfound

lemma isOpen_nil (root : PathRoot) : ws.isOpen ⟨root, []⟩ = true := rfl

lemma item?_of_status (h : ws.Direct p) {i : Item} (hs : ws.status p = .ok i) :
    ws.item? p = some i ∧ ws.isOpen p = true := by
  rw [status, absolute_of_direct h] at hs
  obtain ⟨root, parts⟩ := p
  cases h.root
  cases hplace : ws.locateFrom false ws.linkDepth ⟨.absolute, []⟩ parts with
  | error e =>
    rw [hplace] at hs
    cases hs
  | ok place =>
    obtain ⟨rfl, hopen⟩ := eq_of_locateFrom h (isOpen_nil _) hplace
    simp only [hplace, bind, Except.bind] at hs
    split at hs
    · next hitem => exact ⟨Except.ok.inj hs ▸ hitem, hopen⟩
    · cases hs

end

section

variable {ws : Workspace} {p : Path} {bytes contents : Bytes} {access : Access}

lemma isAbove_parent (h : ws.isAbove p = true) : ws.isAbove p.parent = true := by
  rw [isAbove, List.isPrefixOf_iff_prefix] at h ⊢
  exact (List.dropLast_prefix _).trans h

/-- All directories on the way to an item are there. -/
lemma Nested.ancestor (h : ws.Nested) {root : PathRoot} {done steps : List String} {i : Item}
    (hi : ws.item? ⟨root, done ++ steps⟩ = some i) (hne : steps ≠ []) : ws.IsDirectory ⟨root, done⟩ := by
  induction steps using List.reverseRecOn generalizing i with
  | nil => exact absurd rfl hne
  | append_singleton steps name ih =>
    have hparent := h _ _ hi
    rw [Path.parent, ← List.append_assoc, List.dropLast_concat] at hparent
    by_cases hsteps : steps = []
    · rwa [hsteps, List.append_nil] at hparent
    · exact ih hparent.choose_spec hsteps

lemma Nested.direct (h : ws.Nested) (hroot : p.root = .absolute) (hforward : ".." ∉ p.parts) {i : Item}
    (hi : ws.item? p = some i) (hlink : ∀ target, i ≠ .link target) : ws.Direct p where
  root := hroot
  forward := hforward
  linkless parts hparts := by
    obtain ⟨rest, hrest⟩ := hparts
    obtain ⟨root, all⟩ := p
    subst hrest
    by_cases hne : rest = []
    · rw [hne, List.append_nil] at hi
      refine linkAt?_eq_none.mpr fun target hitem => ?_
      exact absurd (Option.some.inj (hi.symm.trans hitem)) (hlink target)
    · exact linkAt?_of_isDirectory (h.ancestor hi hne)

lemma FileAt.direct (hp : ws.FileAt p bytes access) (h : ws.Nested) : ws.Direct p :=
  h.direct hp.root hp.forward hp.item nofun

lemma isOpen_of_append {root : PathRoot} {done steps : List String}
    (h : ws.isOpen ⟨root, done ++ steps⟩ = true) :
    ws.isOpen ⟨root, done⟩ = true ∧ (steps ≠ [] → ws.isSearchable ⟨root, done⟩ = true) := by
  induction steps using List.reverseRecOn with
  | nil => exact ⟨by rwa [List.append_nil] at h, fun hne => absurd rfl hne⟩
  | append_singleton steps name ih =>
    have hpush : (⟨root, done ++ (steps ++ [name])⟩ : Path) = (⟨root, done ++ steps⟩ : Path).push name := by
      simp only [Path.push, List.append_assoc]
    rw [hpush, isOpen_push, Bool.and_eq_true] at h
    obtain ⟨hdone, hsearchable⟩ := ih h.1
    refine ⟨hdone, fun _ => ?_⟩
    by_cases hsteps : steps = []
    · have hlast := h.2
      rwa [hsteps, List.append_nil] at hlast
    · exact hsearchable hsteps

/-- The system finds an item that is there, if the way is open. -/
lemma Nested.locateFrom (h : ws.Nested) (create : Bool) (depth : Nat) {done steps : List String} {i : Item}
    (hdirect : ws.Direct ⟨.absolute, done ++ steps⟩) (hi : ws.item? ⟨.absolute, done ++ steps⟩ = some i)
    (hopen : ws.isOpen ⟨.absolute, done ++ steps⟩ = true) :
    ws.locateFrom create depth ⟨.absolute, done⟩ steps = .ok ⟨.absolute, done ++ steps⟩ := by
  induction steps generalizing done with
  | nil => rw [Workspace.locateFrom, List.append_nil]
  | cons name rest ih =>
    obtain ⟨hname, hlink⟩ := hdirect.step
    have hbarrier : ws.barrier? ⟨.absolute, done⟩ = none := barrier?_eq_none.mpr
      ⟨h.ancestor hi (List.cons_ne_nil _ _), (isOpen_of_append hopen).2 (List.cons_ne_nil _ _)⟩
    have hparts : done ++ name :: rest = (done ++ [name]) ++ rest := by simp
    rw [hparts] at hdirect hi hopen ⊢
    simp only [Workspace.locateFrom, hbarrier, if_neg hname]
    split
    · next hnone =>
      exfalso
      by_cases hrest : rest = []
      · rw [hrest, List.append_nil] at hi
        exact Option.some_ne_none _ (hi.symm.trans hnone)
      · obtain ⟨access, hdirectory⟩ := h.ancestor hi hrest
        exact Option.some_ne_none _ (hdirectory.symm.trans hnone)
    · next target hitem => exact absurd (isOpen_of_append hopen).1 (linkAt?_eq_none.mp hlink target hitem)
    · exact ih hdirect hi hopen

lemma FileAt.locateFrom (hp : ws.FileAt p bytes access) (h : ws.Nested) (create : Bool) (depth : Nat) :
    ws.locateFrom create depth ⟨.absolute, []⟩ (ws.absolute p).parts = .ok p := by
  have hdirect := hp.direct h
  have hitem := hp.item
  have hopen := hp.opened
  rw [absolute_of_direct hdirect]
  obtain ⟨root, parts⟩ := p
  cases hdirect.root
  exact h.locateFrom create depth hdirect hitem hopen

lemma FileAt.status (hp : ws.FileAt p bytes access) (h : ws.Nested) :
    ws.status p = .ok (.file bytes access) := by
  simp only [Workspace.status, hp.locateFrom h, bind, Except.bind, hp.item]

lemma FileAt.read (hp : ws.FileAt p bytes access) (h : ws.Nested) :
    ws.read p = if access.readable then .ok bytes else .error .denied := by
  simp only [Workspace.read, hp.status h, bind, Except.bind]

lemma FileAt.write (hp : ws.FileAt p bytes access) (h : ws.Nested) (contents : Bytes) :
    ws.write p contents =
      if access.writable then .ok (ws.put p (.file contents access)) else .error .denied := by
  simp only [Workspace.write, hp.locateFrom h, bind, Except.bind, hp.item]

/-! ### Putting a file in the place of another -/

lemma FileAt.not_isAbove (hp : ws.FileAt p bytes access) : ws.isAbove p = false := by
  by_contra habove
  have hitem := hp.item
  rw [item?, if_pos (by simpa using habove)] at hitem
  cases hitem

/-- No other item changes. -/
lemma FileAt.item?_put (hp : ws.FileAt p bytes access) (q : Path) :
    (ws.put p (.file contents access)).item? q =
      if q = p then some (.file contents access) else ws.item? q := by
  by_cases hq : q = p
  · have habove : (ws.put p (.file contents access)).isAbove p = false := hp.not_isAbove
    rw [if_pos hq, hq, item?, if_neg (by rw [habove]; simp), put, List.lookup_cons_self]
  · have hbeq : (q == p) = false := by simpa using hq
    have hlookup : (ws.put p (.file contents access)).items.lookup q = ws.items.lookup q := by
      rw [put, List.lookup_cons, hbeq]
      exact lookup_filter_ne hq
    rw [if_neg hq, item?, item?, accessAbove, accessAbove, hlookup]
    rfl

/-- What can be searched does not depend on files. -/
lemma isOpen_congr {ws' : Workspace} (h : ∀ q, ws'.isSearchable q = ws.isSearchable q) (p : Path) :
    ws'.isOpen p = ws.isOpen p := by
  simp only [isOpen, h]

lemma FileAt.isSearchable_put (hp : ws.FileAt p bytes access) (q : Path) :
    (ws.put p (.file contents access)).isSearchable q = ws.isSearchable q := by
  rw [isSearchable, isSearchable, hp.item?_put]
  by_cases hq : q = p
  · rw [if_pos hq, hq, hp.item]
  · rw [if_neg hq]

lemma FileAt.nested_put (hp : ws.FileAt p bytes access) (h : ws.Nested) :
    (ws.put p (.file contents access)).Nested := by
  intro q i hi
  have hparent : ws.IsDirectory q.parent := by
    rw [hp.item?_put] at hi
    by_cases hq : q = p
    · rw [hq]
      exact h _ _ hp.item
    · rw [if_neg hq] at hi
      exact h q i hi
  have hne : q.parent ≠ p := by
    rintro he
    obtain ⟨access', hdirectory⟩ := hparent
    rw [he, hp.item] at hdirectory
    cases hdirectory
  rwa [IsDirectory, hp.item?_put, if_neg hne]

lemma FileAt.put_other (hp : ws.FileAt p bytes access) {q : Path} (hne : q ≠ p) {b : Bytes}
    {a : Access} (hq : ws.FileAt q b a) : (ws.put p (.file contents access)).FileAt q b a where
  root := hq.root
  forward := hq.forward
  item := by rw [hp.item?_put, if_neg hne, hq.item]
  opened := by rw [isOpen_congr hp.isSearchable_put, hq.opened]

end

end AsyncActions.Workspace
