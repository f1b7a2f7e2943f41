import AsyncActions.Proofs.Flagging
import AsyncActions.Proofs.Splice
import Mathlib.Data.List.Pairwise

/-!
# Where the keyword goes

A tree fits its source if the places of its nodes nest as the nodes do, and if each function starts
its keyword before a child that has text of its own. In such a tree no two functions take the keyword
at the same byte, so a run offers only insertions that can all be made.
-/

namespace AsyncActions

namespace Node

/-- The child before which the keyword of a function belongs: the key of a method, or the first. -/
def insertionToken? (n : Node) : Option Node :=
  if n.type = "method_definition" then (n.child? "name").or n.children.head? else n.children.head?

/-- The keyword can go before this node: it starts there, has text, and no function starts with it. -/
structure Takes (t : Node) (offset : Int) : Prop where
  startByte : t.startByte = offset
  wide : t.startByte < t.endByte
  clear : ∀ m ∈ t.preorder, m.isFunction = true → m.startByte ≠ t.startByte

/-- The node lies in the source, its children lie in it one after the other, and if it is a function,
the keyword can go where it belongs. -/
structure Fits (n : Node) (source : Bytes) : Prop where
  inside : 0 ≤ n.startByte ∧ n.startByte ≤ n.endByte ∧ n.endByte ≤ source.length
  ordered : n.children.Pairwise fun a b => a.endByte ≤ b.startByte
  enclosed : ∀ c ∈ n.children, n.startByte ≤ c.startByte ∧ c.endByte ≤ n.endByte
  token : ∀ f ∈ n.function? source, ∃ t ∈ n.insertionToken?, t.Takes f.asyncByte

/-- Neither node reaches into the other. -/
def Apart (a b : Node) : Prop := a.endByte ≤ b.startByte ∨ b.endByte ≤ a.startByte

/-- Every node of the tree fits. -/
def WellFormed (root : Node) (source : Bytes) : Prop := ∀ n ∈ root.preorder, n.Fits source

instance : Std.Symm Apart := ⟨fun _ _ => Or.symm⟩

instance (t : Node) (offset : Int) : Decidable (t.Takes offset) :=
  decidable_of_iff (t.startByte = offset ∧ t.startByte < t.endByte ∧
      ∀ m ∈ t.preorder, m.isFunction = true → m.startByte ≠ t.startByte)
    ⟨fun ⟨hs, hw, hc⟩ => ⟨hs, hw, hc⟩, fun ⟨hs, hw, hc⟩ => ⟨hs, hw, hc⟩⟩

instance (n : Node) (source : Bytes) : Decidable (n.Fits source) :=
  decidable_of_iff ((0 ≤ n.startByte ∧ n.startByte ≤ n.endByte ∧ n.endByte ≤ source.length) ∧
      (n.children.Pairwise fun a b => a.endByte ≤ b.startByte) ∧
      (∀ c ∈ n.children, n.startByte ≤ c.startByte ∧ c.endByte ≤ n.endByte) ∧
      ∀ f ∈ n.function? source, ∃ t ∈ n.insertionToken?, t.Takes f.asyncByte)
    ⟨fun ⟨hi, ho, he, ht⟩ => ⟨hi, ho, he, ht⟩, fun ⟨hi, ho, he, ht⟩ => ⟨hi, ho, he, ht⟩⟩

instance (root : Node) (source : Bytes) : Decidable (root.WellFormed source) :=
  inferInstanceAs (Decidable (∀ n ∈ root.preorder, n.Fits source))

section

variable {source : Bytes} {n : Node}

lemma isFunction_of_function? {f : Function} (h : n.function? source = some f) : n.isFunction = true := by
  rw [isFunction, ← Option.isSome_map, ← function?, h]
  rfl

lemma insertionToken?_mem {t : Node} (h : t ∈ n.insertionToken?) : t ∈ n.children := by
  unfold insertionToken? at h
  split at h
  · rcases Option.or_eq_some_iff.mp h with h | ⟨-, h⟩
    · exact List.mem_of_find?_eq_some h
    · exact List.mem_of_mem_head? h
  · exact List.mem_of_mem_head? h

lemma Fits.apart (h : n.Fits source) {c d : Node} (hc : c ∈ n.children) (hd : d ∈ n.children)
    (hne : c ≠ d) : c.Apart d := by
  have hall : n.children.Pairwise Apart := h.ordered.imp Or.inl
  exact hall.forall hc hd hne

lemma WellFormed.fits (h : n.WellFormed source) : n.Fits source := h n (self_mem_preorder n)

lemma WellFormed.child (h : n.WellFormed source) {c : Node} (hc : c ∈ n.children) :
    c.WellFormed source :=
  fun m hm => h m (mem_preorder_of_child hc hm)

lemma WellFormed.below (h : n.WellFormed source) {m : Node} (hm : m ∈ n.preorder) :
    m.WellFormed source :=
  fun k hk => h k (mem_preorder_trans hk hm)

lemma WellFormed.within (h : n.WellFormed source) {m : Node} (hm : m ∈ n.preorder) :
    n.startByte ≤ m.startByte ∧ m.endByte ≤ n.endByte := by
  induction n using induction_children with
  | step n ih =>
    rcases mem_preorder.mp hm with rfl | ⟨c, hc, hm⟩
    · exact ⟨Int.le_refl _, Int.le_refl _⟩
    · have hchild := h.fits.enclosed c hc
      have hbelow := ih c hc (h.child hc) hm
      omega

/-- The keyword of a function goes before one of its bytes. -/
lemma WellFormed.asyncByte_within (h : n.WellFormed source) {m : Node} (hm : m ∈ n.preorder)
    {f : Function} (hf : m.function? source = some f) :
    n.startByte ≤ f.asyncByte ∧ f.asyncByte < n.endByte := by
  have hin := h.within hm
  obtain ⟨t, ht, htakes⟩ := (h m hm).token f hf
  have henc := (h m hm).enclosed t (insertionToken?_mem ht)
  have hstart := htakes.startByte
  have hwide := htakes.wide
  omega

/-- The keyword of a function goes elsewhere than those of the functions below it. -/
lemma WellFormed.asyncByte_ne_of_below (h : n.WellFormed source) {f g : Function}
    (hf : n.function? source = some f) {c m : Node} (hc : c ∈ n.children) (hm : m ∈ c.preorder)
    (hg : m.function? source = some g) : f.asyncByte ≠ g.asyncByte := by
  obtain ⟨t, ht, htakes⟩ := h.fits.token f hf
  have hwithin := (h.child hc).asyncByte_within hm hg
  have hstart := htakes.startByte
  have hwide := htakes.wide
  by_cases hct : c = t
  · -- below the token every function starts after its first byte
    subst hct
    have hne := htakes.clear m hm (isFunction_of_function? hg)
    have hmin := (h.child hc).within hm
    have hself := (h.below (mem_preorder_of_child hc hm)).asyncByte_within (self_mem_preorder m) hg
    omega
  · rcases h.fits.apart hc (insertionToken?_mem ht) hct with hapart | hapart
    · omega
    · omega

/-- No two functions of a tree take the keyword at the same byte. -/
lemma WellFormed.functions_pairwise (h : n.WellFormed source) :
    (n.functions source).Pairwise (·.asyncByte ≠ ·.asyncByte) := by
  induction n using induction_children with
  | step n ih =>
    have hbelow : ((n.children.flatMap preorder).filterMap (function? source)).Pairwise
        (·.asyncByte ≠ ·.asyncByte) := by
      rw [List.filterMap_flatMap, List.pairwise_flatMap]
      refine ⟨fun c hc => ih c hc (h.child hc), ?_⟩
      -- of two siblings one takes all its keywords before the other starts
      refine h.fits.ordered.imp_of_mem fun {c d} hc hd hcd f hf g hg => ?_
      obtain ⟨m, hm, hf⟩ := List.mem_filterMap.mp hf
      obtain ⟨k, hk, hg⟩ := List.mem_filterMap.mp hg
      have hin := (h.child hc).asyncByte_within hm hf
      have hin' := (h.child hd).asyncByte_within hk hg
      omega
    rw [functions, preorder_eq]
    cases hf : n.function? source with
    | none =>
      rw [List.filterMap_cons_none hf]
      exact hbelow
    | some f =>
      rw [List.filterMap_cons_some hf]
      refine List.pairwise_cons.mpr ⟨fun g hg => ?_, hbelow⟩
      obtain ⟨m, hm, hg⟩ := List.mem_filterMap.mp hg
      obtain ⟨c, hc, hm⟩ := List.mem_flatMap.mp hm
      exact h.asyncByte_ne_of_below hf hc hm hg

end

end Node

/-! ### Applying everything that is offered -/

namespace Fix

lemma firsts_of_distinct {fixes : List Fix} (hd : fixes.Pairwise (·.offset ≠ ·.offset)) :
    firsts fixes = fixes := by
  induction fixes with
  | nil => rfl
  | cons f fixes ih =>
    obtain ⟨hf, hd⟩ := List.pairwise_cons.mp hd
    rw [firsts, ih hd, List.filter_eq_self.mpr fun g hg => by simpa using (hf g hg).symm]

lemma applied_perm {fixes : List Fix} (hd : fixes.Pairwise (·.offset ≠ ·.offset)) :
    (applied fixes).Perm fixes := by
  rw [applied, firsts_of_distinct hd]
  exact List.mergeSort_perm _ _

lemma applyLog_eq_nil {fixes : List Fix} (hd : fixes.Pairwise (·.offset ≠ ·.offset)) :
    applyLog fixes = [] := by
  have hcount := length_applyLog fixes
  rw [(applied_perm hd).length_eq] at hcount
  exact List.eq_nil_of_length_eq_zero (by omega)

lemma insertedBefore_eq_mul {fixes : List Fix} {size width : Nat}
    (hb : ∀ f ∈ fixes, f.offset < size) (hw : ∀ f ∈ fixes, f.bytes.length = width) :
    insertedBefore fixes size = width * fixes.length := by
  induction fixes with
  | nil => rfl
  | cons f fixes ih =>
    have hf := hb f List.mem_cons_self
    rw [insertedBefore_cons, if_pos hf, hw f List.mem_cons_self, List.length_cons,
      ih (fun g hg => hb g (List.mem_cons_of_mem _ hg)) fun g hg => hw g (List.mem_cons_of_mem _ hg),
      Nat.mul_add_one, Nat.add_comm]

lemma length_splice {fixes : List Fix} (hd : fixes.Pairwise (·.offset ≠ ·.offset)) {source : Bytes}
    {width : Nat} (hb : ∀ f ∈ fixes, f.offset < source.length)
    (hw : ∀ f ∈ fixes, f.bytes.length = width) :
    (splice fixes source).length = source.length + width * fixes.length := by
  have h := length_spliceFrom hd source 0
  have hall : insertedBefore fixes (0 + source.length + 1) = width * fixes.length :=
    insertedBefore_eq_mul (fun f hf => by have := hb f hf; omega) hw
  simp only [place, insertedBefore_zero, hall] at h
  rw [splice]
  omega

end Fix

namespace AsyncAction

lemma bytes_insertion (f : Function) : (insertion f).bytes.length = 6 :=
  (by decide : (Utf8.encodeString keyword).length = 6)

lemma fix?_findingOf (source : Source) (severity : String) (f : Function) :
    (findingOf source severity f).fix? = some (insertion f) := rfl

/-- What a run reports are flagged functions, or none of them. -/
lemma run_findings (source : Source) (severity : String) :
    ∃ fs : List Function, fs.Sublist (flagged source) ∧
      (run source severity).findings = fs.map (findingOf source severity) := by
  by_cases h : ∀ f ∈ flagged source, f.Placed
  · exact ⟨flagged source, List.Sublist.refl _, (run_of_placed severity h).1⟩
  · refine ⟨[], List.nil_sublist _, (run_of_not_placed severity ?_).1⟩
    simpa using h

lemma chosenFixes_map_findingOf (source : Source) (severity : String) (fs : List Function) :
    chosenFixes (fs.map (findingOf source severity)) = fs.map insertion := by
  rw [chosenFixes, List.filterMap_map]
  exact congrFun List.filterMap_eq_map' fs

lemma asyncByte_of_flagged {source : Source} (h : source.root.WellFormed source.bytes) {f : Function}
    (hf : f ∈ flagged source) : 0 ≤ f.asyncByte ∧ f.asyncByte < source.bytes.length := by
  obtain ⟨n, hn, hfn⟩ := List.mem_filterMap.mp (List.mem_of_mem_filter hf)
  have hroot := h.fits.inside
  have hin := h.asyncByte_within hn hfn
  omega

lemma insertion_pairwise {source : Source} (h : source.root.WellFormed source.bytes) :
    ((flagged source).map insertion).Pairwise (·.offset ≠ ·.offset) := by
  rw [List.pairwise_map]
  refine (h.functions_pairwise.filter _).imp_of_mem fun {f g} hf hg hne => ?_
  have hf := asyncByte_of_flagged h hf
  have hg := asyncByte_of_flagged h hg
  simp only [insertion]
  omega

/-- On a well-formed tree a run offers only insertions that can all be made: each is at a byte of the
source, and no two are at the same. Applied together none is passed over, and the keyword is in once
for each finding. -/
theorem applySuggestions_run (source : Source) (severity : String)
    (h : source.root.WellFormed source.bytes) :
    (∀ x ∈ (run source severity).findings, ∃ fix, x.fix? = some fix ∧ fix.offset < source.bytes.length) ∧
      (run source severity).findings.Pairwise
        (fun x y => x.fix?.map Fix.offset ≠ y.fix?.map Fix.offset) ∧
      Fix.applyLog (chosenFixes (run source severity).findings) = [] ∧
      ∃ edited, applySuggestions source.bytes (run source severity).findings = .ok edited ∧
        (edited.applied.map some).Perm ((run source severity).findings.map Finding.fix?) ∧
        edited.source.length = source.bytes.length + 6 * (run source severity).findings.length := by
  obtain ⟨fs, hsub, hfindings⟩ := run_findings source severity
  have hlt : ∀ f ∈ fs, (insertion f).offset < source.bytes.length := fun f hf => by
    have := asyncByte_of_flagged h (hsub.subset hf)
    simp only [insertion]
    omega
  have hd : (fs.map insertion).Pairwise (·.offset ≠ ·.offset) :=
    (insertion_pairwise h).sublist (hsub.map _)
  have hb : ∀ x ∈ fs.map insertion, x.offset < source.bytes.length := List.forall_mem_map.mpr hlt
  have hw : ∀ x ∈ fs.map insertion, x.bytes.length = 6 :=
    List.forall_mem_map.mpr fun f _ => bytes_insertion f
  have hok := Fix.applyAll_eq fun x hx => Nat.le_of_lt (hb x hx)
  have hlen := Fix.length_splice hd hb hw
  rw [hfindings, applySuggestions, chosenFixes_map_findingOf, List.map_map]
  refine ⟨List.forall_mem_map.mpr fun f hf => ⟨_, rfl, hlt f hf⟩, ?_, Fix.applyLog_eq_nil hd, _, hok,
    ?_, ?_⟩
  · rw [List.pairwise_map] at hd ⊢
    exact hd.imp fun hne he => hne (Option.some.inj he)
  · have hperm := (Fix.applied_perm hd).map some
    rwa [List.map_map] at hperm
  · rw [List.length_map] at hlen ⊢
    exact hlen

/-! ### Both of the nested actions -/

lemma outerAction_isSyncAction : nestedActions.root.IsSyncAction nestedActions.bytes where
  named := rfl
  function := by decide
  notGenerator := by decide
  notAsync := by simp [Node.HasKeyword, nestedActions, onLine, Node.children, Node.type, Node.named]
  notStarred := by simp [Node.HasKeyword, nestedActions, onLine, Node.children, Node.type, Node.named]
  notAccessor := nofun
  directive := by
    have hplain : ∀ c ∈ "use server".toList.map CodePoint.ofChar, c ≠ Escape.backslash := by decide
    have htext : Node.text nestedActions.bytes (onLine "string" true none 13 25 []) =
        '\x27' :: "use server".toList ++ ['\x27'] := by
      rw [Node.text, Utf8.decode_of_ascii (by decide)]
      decide
    exact ⟨_, _, _, Node.child?_eq_some_iff.mp rfl, rfl, Node.firstStatement?_eq_some_iff.mp rfl, rfl,
      Node.firstStatement?_eq_some_iff.mp rfl, Or.inl rfl, '\x27', "use server".toList,
      by decide, htext, cook_of_plain hplain⟩

lemma flagged_nestedActions :
    flagged nestedActions = nestedActions.root.functions nestedActions.bytes := by
  refine List.filter_eq_self.mpr fun f hf => ?_
  obtain ⟨n, hn, hfn⟩ := List.mem_filterMap.mp hf
  refine (Node.isSyncAction_eq_true_iff hfn).mpr ?_
  have hfun := Node.isFunction_of_function? hfn
  have hboth : nestedActions.root.preorder.filter Node.isFunction = [nestedActions.root, innerAction] := rfl
  have hmem : n ∈ [nestedActions.root, innerAction] := hboth ▸ List.mem_filter.mpr ⟨hn, hfun⟩
  rcases List.mem_cons.mp hmem with rfl | hmem
  · exact outerAction_isSyncAction
  · rw [List.mem_singleton.mp hmem]
    exact innerAction_isSyncAction

lemma run_nestedActions (severity : String) :
    (run nestedActions severity).findings =
      (nestedActions.root.functions nestedActions.bytes).map (findingOf nestedActions severity) := by
  rw [← flagged_nestedActions]
  have hcounted : ∀ n ∈ nestedActions.root.preorder, n.Counted := by decide
  exact (run_of_placed severity fun f hf => placed_of_flagged hcounted hf).1

/-- Both keywords go in. -/
theorem applySuggestions_run_nestedActions :
    nestedActions.root.WellFormed nestedActions.bytes ∧
      ∃ edited, applySuggestions nestedActions.bytes (run nestedActions "error").findings = .ok edited ∧
        edited.source.length = 44 + 6 * 2 := by
  have h : nestedActions.root.WellFormed nestedActions.bytes := by decide
  obtain ⟨-, -, -, edited, hok, -, hlen⟩ := applySuggestions_run nestedActions "error" h
  have hcount : (run nestedActions "error").findings.length = 2 := by
    rw [run_nestedActions, List.length_map]
    rfl
  rw [hcount] at hlen
  exact ⟨h, edited, hok, hlen⟩

end AsyncAction

end AsyncActions
