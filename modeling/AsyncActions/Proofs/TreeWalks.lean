import AsyncActions.Proofs.Flagging

/-!
# Walks over a tree

The nodes of a tree are listed, counted and counted again if they define functions, each by a recursion of its own.
All of them meet each place of the tree once. The list has them in document order, which `Precedes` spells out: a node
before all that is below it, and what is below a node before all that is below its later siblings.
-/

namespace AsyncActions

namespace Node

/-! ### Document order -/

/-- The first place is above the second, or the ways to them part at two siblings, of which the earlier is on the way to
the first. -/
inductive Precedes : (first second : List Nat) → Prop
  | above {path more : List Nat} : more ≠ [] → Precedes path (path ++ more)
  | beside {path rest rest' : List Nat} {i j : Nat} : i < j → Precedes (path ++ i :: rest) (path ++ j :: rest')

lemma Precedes.cons {p q : List Nat} (h : Precedes p q) (i : Nat) : Precedes (i :: p) (i :: q) := by
  cases h with
  | above hne => exact .above hne
  | @beside path rest rest' j k hlt => exact @Precedes.beside (i :: path) rest rest' j k hlt

lemma Precedes.ne {p q : List Nat} (h : Precedes p q) : p ≠ q := by
  cases h with
  | above hne => simpa using hne
  | beside hlt =>
    intro heq
    have := (List.cons.inj (List.append_cancel_left heq)).1
    omega

lemma precedes_of_lt {p q : List Nat} (h : p < q) : Precedes p q := by
  induction p generalizing q with
  | nil =>
    have hne : q ≠ [] := by
      rintro rfl
      cases h
    exact @Precedes.above [] q hne
  | cons i p ih =>
    cases q with
    | nil => cases h
    | cons j q =>
      rcases List.cons_lt_cons_iff.mp h with hlt | ⟨rfl, hlt⟩
      · exact @Precedes.beside [] p q i j hlt
      · exact (ih hlt).cons i

/-! ### Counts -/

/-- What counts a node and then goes on below it counts the nodes on the walk. -/
lemma eq_countP_preorder (p : Node → Bool) {count : Node → Nat} {countAll : List Node → Nat}
    (hnode : ∀ n, count n = (if p n then 1 else 0) + countAll n.children) (hnil : countAll [] = 0)
    (hcons : ∀ c cs, countAll (c :: cs) = count c + countAll cs) (n : Node) : count n = n.preorder.countP p := by
  induction n using induction_children with
  | step n ih =>
    have hchildren : ∀ cs, (∀ c ∈ cs, count c = c.preorder.countP p) →
        countAll cs = (cs.flatMap preorder).countP p := by
      intro cs hcs
      induction cs with
      | nil => exact hnil
      | cons c cs ihs =>
        rw [hcons, List.flatMap_cons, List.countP_append, hcs c List.mem_cons_self,
          ihs fun d hd => hcs d (List.mem_cons_of_mem c hd)]
    rw [hnode, preorder_eq, List.countP_cons, hchildren n.children ih, Nat.add_comm]

lemma size_eq_length (n : Node) : n.size = n.preorder.length := by
  have hnode : ∀ n : Node, n.size = (if true then 1 else 0) + sizeAll n.children := by
    rintro ⟨⟩
    rfl
  rw [eq_countP_preorder (fun _ => true) hnode rfl fun c cs => rfl, List.countP_true]

lemma functionCount_eq_countP (n : Node) : n.functionCount = n.preorder.countP isFunction := by
  have hnode : ∀ n : Node, n.functionCount = (if n.isFunction then 1 else 0) + functionCountAll n.children := by
    rintro ⟨⟩
    rfl
  exact eq_countP_preorder isFunction hnode rfl (fun c cs => rfl) n

/-- Whether there is a view of a node does not depend on the source. -/
lemma isSome_function? (n : Node) (source : Bytes) : (n.function? source).isSome = n.isFunction := Option.isSome_map

end Node

namespace AsyncAction

lemma length_findings_le (source : Source) (severity : String) :
    (run source severity).findings.length ≤ source.root.functionCount := by
  have hflagged : (flagged source).length ≤ source.root.functionCount := by
    refine Nat.le_trans (List.length_filter_le _ _) (Nat.le_of_eq ?_)
    rw [Node.functions, List.length_filterMap_eq_countP, Node.functionCount_eq_countP]
    simp only [Node.isSome_function?]
  -- a run that fails reports nothing, any other what was flagged
  by_cases h : ∀ f ∈ flagged source, f.Placed
  · rw [(run_of_placed severity h).1, List.length_map]
    exact hflagged
  · rw [(run_of_not_placed severity (by simpa using h)).1]
    exact Nat.zero_le _

/-- The size of a tree is the length of the walk over it, and its number of functions is that of the nodes on the walk
that are named and of one of the function types. These are the nodes that have a view as a function, so keywords have
none, and no run reports more. The walk meets every place of the tree once, in document order. -/
theorem walks_agree (source : Source) (severity : String) :
    let root := source.root
    root.size = root.preorder.length ∧
    root.functionCount = root.preorder.countP Node.isFunction ∧
    (∀ n : Node, n.isFunction = true ↔ n.named = true ∧ n.type ∈ Node.functionTypes) ∧
    (∀ (n : Node) (bytes : Bytes), (n.function? bytes).isSome ↔ n.named = true ∧ n.type ∈ Node.functionTypes) ∧
    (∀ field extent children bytes, (Node.mk "function" false field extent children).function? bytes = none) ∧
    (run source severity).findings.length ≤ root.functionCount ∧
    ∃ places : List (List Nat), places.Nodup ∧ places.Pairwise Node.Precedes ∧
      (∀ path, path ∈ places ↔ ∃ n, root.get? path = some n) ∧ root.preorder.map some = places.map root.get? := by
  intro root
  have hordered : root.paths.Pairwise Node.Precedes := root.paths_pairwise.imp Node.precedes_of_lt
  refine ⟨root.size_eq_length, root.functionCount_eq_countP, fun n => ?_, fun n bytes => Node.function?_isSome_iff,
    fun field extent children bytes => rfl, length_findings_le source severity, root.paths,
    hordered.imp Node.Precedes.ne, hordered, fun path => ?_, root.map_get?_paths.symm⟩
  · rw [← n.isSome_function? [], Node.function?_isSome_iff]
  · rw [Node.mem_paths, Option.isSome_iff_exists]

end AsyncAction

end AsyncActions
