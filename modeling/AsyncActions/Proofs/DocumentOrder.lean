import AsyncActions.Tree.Node
import Mathlib.Data.List.Forall2

/-!
# Document order

A place in a tree is the path to it: the numbers of the children to step to, one after the other.
Document order is the lexicographic order of paths, in which a node stands before all that is below
it. The walk over a tree meets each place once, in this order.
-/

namespace AsyncActions.Node

/-- What holds of a node if it holds of its children holds of all nodes. -/
@[elab_as_elim]
theorem induction_children {motive : Node → Prop}
    (step : ∀ n : Node, (∀ c ∈ n.children, motive c) → motive n) : ∀ n, motive n
  | mk _ _ _ _ cs => step _ fun c _ => induction_children step c
termination_by n => sizeOf n
decreasing_by
  have hc : c ∈ cs := by assumption
  have := List.sizeOf_lt_of_mem hc
  simp only [mk.sizeOf_spec]
  omega

lemma preorderAll_eq_flatMap (cs : List Node) : preorderAll cs = cs.flatMap preorder := by
  induction cs with
  | nil => rfl
  | cons c cs ih => rw [preorderAll, ih, List.flatMap_cons]

lemma preorder_eq (n : Node) : n.preorder = n :: n.children.flatMap preorder := by
  cases n with
  | mk t named field extent cs => rw [preorder, preorderAll_eq_flatMap, children]

lemma self_mem_preorder (n : Node) : n ∈ n.preorder := by
  rw [preorder_eq]
  exact List.mem_cons_self

lemma mem_preorder {m n : Node} : m ∈ n.preorder ↔ m = n ∨ ∃ c ∈ n.children, m ∈ c.preorder := by
  rw [preorder_eq, List.mem_cons, List.mem_flatMap]

lemma mem_preorder_of_child {m c n : Node} (hc : c ∈ n.children) (hm : m ∈ c.preorder) :
    m ∈ n.preorder :=
  mem_preorder.mpr (Or.inr ⟨c, hc, hm⟩)

lemma mem_preorder_trans {m n root : Node} (hm : m ∈ n.preorder) (hn : n ∈ root.preorder) :
    m ∈ root.preorder := by
  induction root using induction_children with
  | step root ih =>
    rcases mem_preorder.mp hn with rfl | ⟨c, hc, hn⟩
    · exact hm
    · exact mem_preorder_of_child hc (ih c hc hn)

lemma child_mem_preorder {c n root : Node} (hc : c ∈ n.children) (hn : n ∈ root.preorder) :
    c ∈ root.preorder :=
  mem_preorder_trans (mem_preorder_of_child hc (self_mem_preorder c)) hn

/-! ### Paths -/

/-- The node at the end of a path. -/
def get? : Node → List Nat → Option Node
  | n, [] => some n
  | n, i :: path => n.children[i]?.bind fun c => c.get? path

mutual

/-- The paths to all nodes of a tree, in the order of the walk. -/
def paths : Node → List (List Nat)
  | mk _ _ _ _ cs => [] :: pathsFrom 0 cs

/-- The paths that lead through children of which the first has that number. -/
def pathsFrom : Nat → List Node → List (List Nat)
  | _, [] => []
  | i, c :: cs => c.paths.map (i :: ·) ++ pathsFrom (i + 1) cs

end

lemma mem_pathsFrom {cs : List Node} {i : Nat} {path : List Nat} :
    path ∈ pathsFrom i cs ↔ ∃ k rest, path = (i + k) :: rest ∧ ∃ c, cs[k]? = some c ∧ rest ∈ c.paths := by
  induction cs generalizing i with
  | nil => simp [pathsFrom]
  | cons c cs ih =>
    rw [pathsFrom, List.mem_append, List.mem_map, ih]
    constructor
    · rintro (⟨rest, hrest, rfl⟩ | ⟨k, rest, rfl, d, hd, hrest⟩)
      · exact ⟨0, rest, rfl, c, rfl, hrest⟩
      · exact ⟨k + 1, rest, by rw [Nat.add_right_comm, Nat.add_assoc], d, hd, hrest⟩
    · rintro ⟨k, rest, rfl, d, hd, hrest⟩
      cases k with
      | zero =>
        cases hd
        exact Or.inl ⟨rest, hrest, rfl⟩
      | succ k => exact Or.inr ⟨k, rest, by rw [Nat.add_right_comm, Nat.add_assoc], d, hd, hrest⟩

lemma mem_paths {n : Node} {path : List Nat} : path ∈ n.paths ↔ (n.get? path).isSome := by
  induction path generalizing n with
  | nil => cases n; simp [paths, get?]
  | cons i path ih =>
    cases n with
    | mk t named field extent cs =>
      rw [paths, List.mem_cons, mem_pathsFrom, get?, children]
      constructor
      · rintro (h | ⟨k, rest, h, c, hc, hrest⟩)
        · cases h
        · rw [Nat.zero_add] at h
          cases h
          rw [hc]
          exact ih.mp hrest
      · intro h
        obtain ⟨m, hm⟩ := Option.isSome_iff_exists.mp h
        obtain ⟨c, hc, hm⟩ := Option.bind_eq_some_iff.mp hm
        refine Or.inr ⟨i, path, by rw [Nat.zero_add], c, hc, ih.mpr ?_⟩
        rw [hm]
        rfl

lemma pathsFrom_pairwise {cs : List Node} (h : ∀ c ∈ cs, c.paths.Pairwise (· < ·)) (i : Nat) :
    (pathsFrom i cs).Pairwise (· < ·) := by
  induction cs generalizing i with
  | nil => exact List.Pairwise.nil
  | cons c cs ih =>
    rw [pathsFrom]
    refine List.pairwise_append.mpr ⟨?_, ih (fun d hd => h d (List.mem_cons_of_mem _ hd)) (i + 1), ?_⟩
    · exact (h c List.mem_cons_self).map _ fun p q hpq => List.cons_lt_cons_self.mpr hpq
    · intro p hp q hq
      obtain ⟨p, -, rfl⟩ := List.mem_map.mp hp
      obtain ⟨k, q, rfl, -⟩ := mem_pathsFrom.mp hq
      exact List.cons_lt_cons_iff.mpr (Or.inl (by omega))

/-- The walk follows document order and meets no place twice. -/
lemma paths_pairwise (n : Node) : n.paths.Pairwise (· < ·) := by
  induction n using induction_children with
  | step n ih =>
    cases n with
    | mk t named field extent cs =>
      rw [paths]
      refine List.pairwise_cons.mpr ⟨fun p hp => ?_, pathsFrom_pairwise ih 0⟩
      obtain ⟨k, rest, rfl, -⟩ := mem_pathsFrom.mp hp
      exact List.nil_lt_cons _ _

lemma map_get?_pathsFrom {cs : List Node} (h : ∀ c ∈ cs, c.paths.map c.get? = c.preorder.map some)
    (n : Node) (before : List Node) (hn : n.children = before ++ cs) :
    (pathsFrom before.length cs).map n.get? = (preorderAll cs).map some := by
  induction cs generalizing before with
  | nil => rfl
  | cons c cs ih =>
    have hc : n.children[before.length]? = some c := by
      rw [hn, List.getElem?_append_right (Nat.le_refl _), Nat.sub_self]
      rfl
    have hstep : (fun path => n.get? (before.length :: path)) = c.get? := by
      funext path
      rw [get?, hc]
      rfl
    have hrest := ih (fun d hd => h d (List.mem_cons_of_mem _ hd)) (before ++ [c]) (by simp [hn])
    rw [List.length_append] at hrest
    rw [pathsFrom, preorderAll, List.map_append, List.map_append, List.map_map,
      ← h c List.mem_cons_self, ← hrest]
    exact congrArg (· ++ _) (List.map_congr_left fun path _ => congrFun hstep path)

lemma map_get?_paths (n : Node) : n.paths.map n.get? = n.preorder.map some := by
  induction n using induction_children with
  | step n ih =>
    cases n with
    | mk t named field extent cs =>
      rw [paths, preorder, List.map_cons, List.map_cons]
      exact congrArg (_ :: ·) (map_get?_pathsFrom ih (mk t named field extent cs) [] rfl)

lemma mem_preorder_iff_get? {m n : Node} : m ∈ n.preorder ↔ ∃ path, n.get? path = some m := by
  have hmem : m ∈ n.preorder ↔ some m ∈ n.preorder.map some := by simp
  rw [hmem, ← map_get?_paths, List.mem_map]
  constructor
  · rintro ⟨path, -, h⟩
    exact ⟨path, h⟩
  · rintro ⟨path, h⟩
    exact ⟨path, mem_paths.mpr (by rw [h]; rfl), h⟩

/-! ### Choosing nodes on the walk -/

lemma forall₂_filterMap {β : Type} (get : List Nat → Option Node) (choose : Node → Option β)
    {paths : List (List Nat)} {nodes : List Node} (h : paths.map get = nodes.map some) :
    List.Forall₂ (fun path b => ∃ n, get path = some n ∧ choose n = some b)
      (paths.filter fun path => ((get path).bind choose).isSome) (nodes.filterMap choose) := by
  induction paths generalizing nodes with
  | nil =>
    rw [List.map_nil] at h
    rw [List.map_eq_nil_iff.mp h.symm]
    exact List.Forall₂.nil
  | cons path paths ih =>
    cases nodes with
    | nil => cases h
    | cons n nodes =>
      obtain ⟨hn, h⟩ := List.cons.inj h
      cases hb : choose n with
      | none =>
        rw [List.filterMap_cons_none hb, List.filter_cons_of_neg (by simp [hn, hb])]
        exact ih h
      | some b =>
        rw [List.filterMap_cons_some hb, List.filter_cons_of_pos (by simp [hn, hb])]
        exact List.Forall₂.cons ⟨n, hn, hb⟩ (ih h)

/-- What a walk chooses stands in document order, one thing for each place that gives one. -/
lemma filterMap_preorder {β : Type} (root : Node) (choose : Node → Option β) :
    ∃ places : List (List Nat), places.Pairwise (· < ·) ∧
      (∀ path, path ∈ places ↔ ∃ n, root.get? path = some n ∧ (choose n).isSome) ∧
      List.Forall₂ (fun path b => ∃ n, root.get? path = some n ∧ choose n = some b) places
        (root.preorder.filterMap choose) := by
  refine ⟨root.paths.filter fun path => ((root.get? path).bind choose).isSome,
    (paths_pairwise root).filter _, fun path => ?_, forall₂_filterMap _ _ (map_get?_paths root)⟩
  rw [List.mem_filter, mem_paths]
  constructor
  · rintro ⟨h, hb⟩
    obtain ⟨n, hn⟩ := Option.isSome_iff_exists.mp h
    rw [hn] at hb
    exact ⟨n, hn, hb⟩
  · rintro ⟨n, hn, hb⟩
    rw [hn]
    exact ⟨rfl, hb⟩

end AsyncActions.Node
