import AsyncActions.Proofs.MendedShape

/-!
# Fixing some of the findings

When suggestions of some findings of a run are applied, the rule finds in the new source exactly the
other findings, as they were but moved on. Applying these too gives what applying all at once gives.
-/

namespace AsyncActions

open AsyncAction (findingOf flagged insertion run)

namespace Source

/-- The node is a function that one of the findings is about. -/
def isReported (source : Source) (severity : String) (found : List Finding) (n : Node) : Bool :=
  (n.syncAction? source.bytes).any fun f => decide (findingOf source severity f ∈ found)

/-- The source after the findings were fixed: the bytes as edited, and the tree with the keyword in
each function that one of them is about. -/
def mend (source : Source) (severity : String) (found : List Finding) (edited : Fix.Edited) : Source :=
  { source with
    bytes := edited.source
    root := source.root.mend edited.applied (source.isReported severity found) none }

@[simp] lemma bytes_mend (source : Source) (severity : String) (found : List Finding)
    (edited : Fix.Edited) : (source.mend severity found edited).bytes = edited.source := rfl

end Source

/-- The finding is made again, about the same function and in the same words, and its insertion is
moved on by what went in before it. -/
structure Finding.Carried (source source' : Source) (fixes : List Fix) (x x' : Finding) : Prop where
  function : ∃ f ∈ flagged source, x = findingOf source x.severity f ∧
    x' = findingOf source' x.severity (f.mend fixes)
  ruleId : x'.ruleId = x.ruleId
  message : x'.message = x.message
  messageId : x'.messageId = x.messageId
  severity : x'.severity = x.severity
  path : x'.location.path = x.location.path
  line : x'.location.line = x.location.line
  endLine : x'.location.endLine = x.location.endLine
  suggestion : ∃ s s', x.suggestions = [s] ∧ x'.suggestions = [s'] ∧ s'.messageId = s.messageId ∧
    s'.description = s.description ∧ s'.fix.line = s.fix.line ∧ Fix.Rebased fixes s.fix s'.fix

lemma applySuggestions_nil (source : Bytes) : applySuggestions source [] = .ok ⟨source, []⟩ := by
  have hnone : ∀ f ∈ ([] : List Fix), f.offset ≤ source.length := fun f hf => by cases hf
  have hap : Fix.applied [] = [] := List.mergeSort_nil
  rw [applySuggestions, chosenFixes, List.filterMap_nil, Fix.applyAll_eq hnone, Fix.splice_nil, hap]

namespace Node

lemma eq_of_fields {m n : Node} (type : m.type = n.type) (named : m.named = n.named)
    (field : m.field = n.field) (extent : m.extent = n.extent) (children : m.children = n.children) :
    m = n := by
  cases m
  cases n
  cases type
  cases named
  cases field
  cases extent
  cases children
  rfl

lemma mend_nil {source : Bytes} {marked : Node → Bool} {n : Node} (h : n.WellFormed source)
    (hm : ∀ m ∈ n.preorder, marked m = false) : n.mend [] marked none = n := by
  have hmoved (b : Int) (hb : 0 ≤ b) : Fix.moved [] none b = b := by
    have hne : none ≠ some b := nofun
    rw [Fix.moved_of_ne hne, Fix.place_nil, Int.toNat_of_nonneg hb]
  have hpoint (b : Int) (p : Point) : p.moved [] b b = p := by
    simp [Point.moved, Fix.insertedBefore]
  induction n using induction_children with
  | step n ih =>
    refine eq_of_fields type_mend named_mend field_mend ?_ ?_
    · have hin := h.fits.inside
      have hs : 0 ≤ n.extent.startByte := hin.1
      have he : 0 ≤ n.extent.endByte := Int.le_trans hin.1 hin.2.1
      rw [extent_mend, Extent.mend, hmoved _ hs, hmoved _ he, hpoint, hpoint]
    · rw [children_mend_of_not (by simp [hm n (self_mem_preorder n)])]
      refine (List.map_congr_left fun c hc => ?_).trans (List.map_id _)
      exact ih c hc (h.child hc) fun m hmem => hm m (mem_preorder_of_child hc hmem)

end Node

namespace Function

lemma counted_moved {fixes : List Fix} {p : Point} (hp : p.Counted) {b : Int} (hb : 0 ≤ b) {b' : Nat}
    (hle : Fix.place fixes b.toNat ≤ b') : (p.moved fixes b b').Counted := by
  refine ⟨hp.1, ?_⟩
  have hcolumn := hp.2
  have hmono := Fix.insertedBefore_mono fixes (show (b - p.column).toNat ≤ b.toNat by omega)
  simp only [Fix.place] at hle
  simp only [Point.moved]
  omega

lemma placed_mend {fixes : List Fix} {f : Function} (h : f.Placed) (hs : 0 ≤ f.startByte)
    (he : 0 ≤ f.endByte) (hf : f.isMended fixes = false) : (f.mend fixes).Placed where
  asyncByte := by
    rw [asyncByte_mend h.asyncByte hf]
    exact Int.natCast_nonneg _
  asyncPoint := by
    have hpoint := h.asyncPoint
    cases hi : f.insertPoint with
    | none =>
      simp only [asyncPoint, hi, Option.getD_none] at hpoint
      simp only [asyncPoint, mend, hi, Option.map_none, Option.getD_none]
      exact counted_moved hpoint hs (Nat.le_refl _)
    | some p =>
      simp only [asyncPoint, hi, Option.getD_some] at hpoint
      simp only [asyncPoint, mend, hi, Option.map_some, Option.getD_some]
      exact counted_moved hpoint h.asyncByte (Fix.place_le_stand _ _)
  startPoint := counted_moved h.startPoint hs (Nat.le_refl _)
  endPoint := counted_moved h.endPoint he (Nat.le_refl _)

lemma asyncPoint_row_mend (fixes : List Fix) (f : Function) :
    (f.mend fixes).asyncPoint.row = f.asyncPoint.row := by
  cases hi : f.insertPoint with
  | none =>
    simp only [asyncPoint, mend, hi]
    rfl
  | some p =>
    simp only [asyncPoint, mend, hi]
    rfl

end Function

namespace AsyncAction

/-! ### Fixes of some findings -/

variable {source : Source} {severity : String} {found : List Finding}

instance : Std.Symm fun f g : Function => f.asyncByte ≠ g.asyncByte := ⟨fun _ _ => Ne.symm⟩

/-- A function of a tree is known by where its keyword goes. -/
lemma eq_of_asyncByte (h : source.root.WellFormed source.bytes) {f g : Function}
    (hf : f ∈ source.root.functions source.bytes) (hg : g ∈ source.root.functions source.bytes)
    (he : f.asyncByte = g.asyncByte) : f = g := by
  by_contra hne
  exact h.functions_pairwise.forall hf hg hne he

/-- The fixes of some findings of a run are the insertions for the functions that these are about. -/
lemma mem_applied_iff (h : source.root.WellFormed source.bytes)
    (hfound : ∀ x ∈ found, x ∈ (flagged source).map (findingOf source severity)) {x : Fix} :
    x ∈ Fix.applied (chosenFixes found) ↔
      ∃ f ∈ flagged source, findingOf source severity f ∈ found ∧ x = insertion f := by
  have hchosen {y : Fix} (hy : y ∈ chosenFixes found) :
      ∃ f ∈ flagged source, findingOf source severity f ∈ found ∧ y = insertion f := by
    obtain ⟨z, hz, hfix⟩ := List.mem_filterMap.mp hy
    obtain ⟨f, hf, rfl⟩ := List.mem_map.mp (hfound z hz)
    cases hfix
    exact ⟨f, hf, hz, rfl⟩
  constructor
  · intro hx
    exact hchosen (Fix.mem_of_mem_applied hx)
  · rintro ⟨f, hf, hmem, rfl⟩
    have hin : insertion f ∈ chosenFixes found := List.mem_filterMap.mpr ⟨_, hmem, rfl⟩
    rw [Fix.mem_applied]
    cases hfind : (chosenFixes found).find? (·.offset = (insertion f).offset) with
    | none =>
      have := List.find?_eq_none.mp hfind _ hin
      simp at this
    | some y =>
      -- the first fix at that offset is of the same function
      obtain ⟨g, hg, -, rfl⟩ := hchosen (List.mem_of_find?_eq_some hfind)
      have hoffset : (insertion g).offset = (insertion f).offset := by simpa using List.find?_some hfind
      simp only [insertion] at hoffset
      have hgb := (asyncByte_of_flagged h hg).1
      have hfb := (asyncByte_of_flagged h hf).1
      rw [eq_of_asyncByte h (List.mem_of_mem_filter hg) (List.mem_of_mem_filter hf) (by omega)]

lemma isMended_iff (h : source.root.WellFormed source.bytes)
    (hfound : ∀ x ∈ found, x ∈ (flagged source).map (findingOf source severity)) {f : Function}
    (hf : f ∈ source.root.functions source.bytes) :
    f.isMended (Fix.applied (chosenFixes found)) = true ↔
      f ∈ flagged source ∧ findingOf source severity f ∈ found := by
  rw [Function.isMended, List.any_eq_true]
  constructor
  · rintro ⟨x, hx, hbyte⟩
    obtain ⟨g, hg, hmem, rfl⟩ := (mem_applied_iff h hfound).mp hx
    have hgb := (asyncByte_of_flagged h hg).1
    have hbyte : (g.asyncByte.toNat : Int) = f.asyncByte := of_decide_eq_true hbyte
    rw [Int.toNat_of_nonneg hgb] at hbyte
    rw [← eq_of_asyncByte h (List.mem_of_mem_filter hg) hf hbyte]
    exact ⟨hg, hmem⟩
  · rintro ⟨hfl, hmem⟩
    refine ⟨insertion f, (mem_applied_iff h hfound).mpr ⟨f, hfl, hmem, rfl⟩, decide_eq_true ?_⟩
    exact Int.toNat_of_nonneg (asyncByte_of_flagged h hfl).1

lemma mendable (h : source.root.WellFormed source.bytes) (hsealed : source.root.Sealed)
    (hfound : ∀ x ∈ found, x ∈ (flagged source).map (findingOf source severity)) :
    Node.Mendable source.bytes (Fix.applied (chosenFixes found))
      (source.isReported severity found) source.root where
  wellFormed := h
  sealed := hsealed
  marked n hn := by
    have hfunction {f : Function} (hf : n.function? source.bytes = some f) :
        f ∈ source.root.functions source.bytes := List.mem_filterMap.mpr ⟨n, hn, hf⟩
    rw [Source.isReported, Option.any_eq_true]
    constructor
    · rintro ⟨f, hf, hmem⟩
      obtain ⟨hfun, hsync⟩ := Option.filter_eq_some_iff.mp hf
      refine ⟨f, hfun, (isMended_iff h hfound (hfunction hfun)).mpr ⟨?_, of_decide_eq_true hmem⟩⟩
      exact List.mem_filter.mpr ⟨hfunction hfun, hsync⟩
    · rintro ⟨f, hfun, hmended⟩
      obtain ⟨hfl, hmem⟩ := (isMended_iff h hfound (hfunction hfun)).mp hmended
      exact ⟨f, Option.filter_eq_some_iff.mpr ⟨hfun, (List.mem_filter.mp hfl).2⟩, decide_eq_true hmem⟩

lemma tracked (h : source.root.WellFormed source.bytes)
    (hfound : ∀ x ∈ found, x ∈ (flagged source).map (findingOf source severity)) :
    Node.Tracked source.bytes (Fix.applied (chosenFixes found)) none source.root where
  fixes x hx := by
    obtain ⟨f, hf, -, rfl⟩ := (mem_applied_iff h hfound).mp hx
    obtain ⟨n, hn, hfun⟩ := List.mem_filterMap.mp (List.mem_of_mem_filter hf)
    exact Or.inr ⟨n, hn, f, hfun, (Int.toNat_of_nonneg (asyncByte_of_flagged h hf).1).symm⟩
  edge_le := nofun
  edge_clear := nofun

lemma applySuggestions_eq (h : source.root.WellFormed source.bytes)
    (hfound : ∀ x ∈ found, x ∈ (flagged source).map (findingOf source severity)) :
    applySuggestions source.bytes found =
      .ok ⟨Fix.splice (Fix.applied (chosenFixes found)) source.bytes, Fix.applied (chosenFixes found)⟩ := by
  have hsame : Fix.splice (Fix.applied (chosenFixes found)) source.bytes =
      Fix.splice (chosenFixes found) source.bytes :=
    Fix.spliceFrom_congr source.bytes fun i _ => Fix.textAt_applied _ i
  rw [hsame, applySuggestions, Fix.applyAll_eq fun x hx => ?_]
  obtain ⟨z, hz, hfix⟩ := List.mem_filterMap.mp hx
  obtain ⟨f, hf, rfl⟩ := List.mem_map.mp (hfound z hz)
  cases hfix
  have hb := asyncByte_of_flagged h hf
  simp only [insertion]
  omega

/-! ### The run after the fixes -/

/-- The functions that are reported by none of the findings. -/
def rest (source : Source) (severity : String) (found : List Finding) : List Function :=
  (flagged source).filter fun f => findingOf source severity f ∉ found

lemma mem_rest {f : Function} :
    f ∈ rest source severity found ↔ f ∈ flagged source ∧ findingOf source severity f ∉ found := by
  rw [rest, List.mem_filter, decide_eq_true_iff]

lemma bytes_of_mem_functions (h : source.root.WellFormed source.bytes) {f : Function}
    (hf : f ∈ source.root.functions source.bytes) : 0 ≤ f.startByte ∧ 0 ≤ f.endByte := by
  obtain ⟨n, hn, hfun⟩ := List.mem_filterMap.mp hf
  have hv := Node.viewed_of_function? hfun
  have hin := (h n hn).inside
  rw [hv.startByte, hv.endByte]
  omega

lemma carried_findingOf {source' : Source} (hpath : source'.path = source.path) {fixes : List Fix}
    {f : Function} (hfl : f ∈ flagged source) (hb : 0 ≤ f.asyncByte) (hf : f.isMended fixes = false) :
    (findingOf source severity f).Carried source source' fixes
      (findingOf source' severity (f.mend fixes)) where
  function := ⟨f, hfl, rfl, rfl⟩
  ruleId := rfl
  message := rfl
  messageId := rfl
  severity := rfl
  path := hpath
  line := rfl
  endLine := rfl
  suggestion := by
    refine ⟨_, _, rfl, rfl, rfl, rfl, ?_, ?_, rfl⟩
    · exact congrArg (fun row : Int => Ordinal.after row.toNat) (Function.asyncPoint_row_mend fixes f)
    · simp only [insertion, Function.asyncByte_mend hb hf, Int.toNat_natCast]

section

variable (h : source.root.WellFormed source.bytes) (hsealed : source.root.Sealed)
  (hfound : ∀ x ∈ found, x ∈ (flagged source).map (findingOf source severity)) {edited : Fix.Edited}
  (hok : applySuggestions source.bytes found = .ok edited)

include h hfound hok

lemma edited_eq : edited =
    ⟨Fix.splice (Fix.applied (chosenFixes found)) source.bytes, Fix.applied (chosenFixes found)⟩ := by
  rw [applySuggestions_eq h hfound] at hok
  exact (Except.ok.inj hok).symm

lemma not_isMended {f : Function}
    (hf : f ∈ rest source severity found) : f ∈ flagged source ∧ f.isMended edited.applied = false := by
  obtain ⟨hfl, hnot⟩ := mem_rest.mp hf
  cases edited_eq h hfound hok
  refine ⟨hfl, Bool.eq_false_iff.mpr fun hmended => ?_⟩
  exact hnot ((isMended_iff h hfound (List.mem_of_mem_filter hfl)).mp hmended).2

/-- Fixing the rest gives what fixing all at once gives. -/
lemma splice_rest :
    Fix.splice (((rest source severity found).map (Function.mend edited.applied)).map insertion)
        edited.source = Fix.splice ((flagged source).map insertion) source.bytes := by
  have hnot {f : Function} (hf : f ∈ rest source severity found) := not_isMended h hfound hok hf
  have hpairwise := insertion_pairwise h
  cases edited_eq h hfound hok
  have hmem {x : Fix} := mem_applied_iff h hfound (x := x)
  have hd : (Fix.applied (chosenFixes found) ++ (rest source severity found).map insertion).Pairwise
      (·.offset ≠ ·.offset) := by
    refine List.pairwise_append.mpr ⟨Fix.applied_distinct _, ?_, ?_⟩
    · exact hpairwise.sublist (List.filter_sublist.map _)
    · intro x hx y hy heq
      obtain ⟨g, hg, hgmem, rfl⟩ := hmem.mp hx
      obtain ⟨f, hf, rfl⟩ := List.mem_map.mp hy
      obtain ⟨hfl, hnotfound⟩ := mem_rest.mp hf
      simp only [insertion] at heq
      have hgb := (asyncByte_of_flagged h hg).1
      have hfb := (asyncByte_of_flagged h hfl).1
      rw [eq_of_asyncByte h (List.mem_of_mem_filter hg) (List.mem_of_mem_filter hfl) (by omega)] at hgmem
      exact hnotfound hgmem
  have hrebased : List.Forall₂ (Fix.Rebased (Fix.applied (chosenFixes found)))
      ((rest source severity found).map insertion)
      (((rest source severity found).map (Function.mend (Fix.applied (chosenFixes found)))).map
        insertion) := by
    rw [List.map_map, List.forall₂_map_left_iff, List.forall₂_map_right_iff, List.forall₂_same]
    intro f hf
    obtain ⟨hfl, hmended⟩ := hnot hf
    refine ⟨?_, rfl⟩
    simp only [Function.comp_apply, insertion,
      Function.asyncByte_mend (asyncByte_of_flagged h hfl).1 hmended, Int.toNat_natCast]
  refine (Fix.splice_splice hd hrebased source.bytes).trans ?_
  refine Fix.spliceFrom_congr source.bytes fun i _ => Fix.textAt_congr hd hpairwise (fun x => ?_) i
  rw [List.mem_append, hmem, List.mem_map, List.mem_map]
  constructor
  · rintro (⟨f, hf, -, rfl⟩ | ⟨f, hf, rfl⟩)
    · exact ⟨f, hf, rfl⟩
    · exact ⟨f, (mem_rest.mp hf).1, rfl⟩
  · rintro ⟨f, hf, rfl⟩
    by_cases hfix : findingOf source severity f ∈ found
    · exact Or.inl ⟨f, hf, hfix, rfl⟩
    · exact Or.inr ⟨f, mem_rest.mpr ⟨hf, hfix⟩, rfl⟩

include hsealed

lemma functions_mend : (source.mend severity found edited).root.functions
      (source.mend severity found edited).bytes = (source.root.functions source.bytes).map (Function.mend edited.applied) := by
  cases edited_eq h hfound hok
  exact Node.functions_mend (Fix.applied_distinct _) (mendable h hsealed hfound) (tracked h hfound)

/-- What is flagged after the fixes is what was flagged and has not been fixed. -/
lemma flagged_mend : flagged (source.mend severity found edited) =
    (rest source severity found).map (Function.mend edited.applied) := by
  have hfunctions := functions_mend h hsealed hfound hok
  cases edited_eq h hfound hok
  unfold rest flagged
  rw [hfunctions, List.filter_map, List.filter_filter]
  refine congrArg _ (List.filter_congr fun f hf => ?_)
  have hiff := isMended_iff h hfound hf
  rw [Function.comp_apply, Function.isSyncAction_mend]
  by_cases hsync : f.isSyncAction = true
  · have hfl : f ∈ flagged source := List.mem_filter.mpr ⟨hf, hsync⟩
    rw [Bool.eq_iff_iff]
    simp [hsync, ← Bool.not_eq_true, hiff, hfl]
  · simp [hsync]

lemma run_mend_of_placed (hplaced : ∀ f ∈ flagged source, f.Placed) :
    (run (source.mend severity found edited) severity).failure = none ∧
      (run (source.mend severity found edited) severity).findings =
        ((rest source severity found).map (Function.mend edited.applied)).map
          (findingOf (source.mend severity found edited) severity) := by
  have hflagged := flagged_mend h hsealed hfound hok
  have hall : ∀ f ∈ flagged (source.mend severity found edited), f.Placed := by
    rw [hflagged]
    refine List.forall_mem_map.mpr fun f hf => ?_
    obtain ⟨hfl, hmended⟩ := not_isMended h hfound hok hf
    have hbytes := bytes_of_mem_functions h (List.mem_of_mem_filter hfl)
    exact Function.placed_mend (hplaced f hfl) hbytes.1 hbytes.2 hmended
  obtain ⟨hfindings, hfailure⟩ := run_of_placed severity hall
  rw [hfindings, hflagged]
  exact ⟨hfailure, rfl⟩

/-- The new tree is well-formed over the new source, and no function stands in a literal or name. -/
lemma shape_mend : (source.mend severity found edited).root.WellFormed
      (source.mend severity found edited).bytes ∧ (source.mend severity found edited).root.Sealed := by
  cases edited_eq h hfound hok
  have hd := Fix.applied_distinct (chosenFixes found)
  have hw : ∀ x ∈ Fix.applied (chosenFixes found), 5 ≤ x.bytes.length := fun x hx => by
    obtain ⟨f, -, -, rfl⟩ := (mem_applied_iff h hfound).mp hx
    rw [bytes_insertion]
    decide
  exact ⟨(mendable h hsealed hfound).wellFormed_mend hd hw (tracked h hfound),
    (mendable h hsealed hfound).sealed_mend hd (tracked h hfound)⟩

end

/-- A run that fails has no findings, so there is nothing to fix. -/
lemma mend_of_not_placed (h : source.root.WellFormed source.bytes)
    (hplaced : ¬ ∀ f ∈ flagged source, f.Placed)
    (hfound : ∀ x ∈ found, x ∈ (run source severity).findings) {edited : Fix.Edited}
    (hok : applySuggestions source.bytes found = .ok edited) :
    (run source severity).findings = [] ∧ edited.source = source.bytes ∧
      source.mend severity found edited = source := by
  have hnone : (run source severity).findings = [] := (run_of_not_placed severity (by simpa using hplaced)).1
  rw [hnone] at hfound
  have hnil : found = [] := List.eq_nil_iff_forall_not_mem.mpr fun x hx => List.not_mem_nil (hfound x hx)
  subst hnil
  rw [applySuggestions_nil] at hok
  cases hok
  refine ⟨hnone, rfl, ?_⟩
  have hroot : source.root.mend [] (source.isReported severity []) none = source.root :=
    Node.mend_nil h fun m _ => by simp [Source.isReported]
  rw [Source.mend, hroot]

lemma mem_findings (hfound : ∀ x ∈ found, x ∈ (run source severity).findings) :
    ∀ x ∈ found, x ∈ (flagged source).map (findingOf source severity) := by
  obtain ⟨fs, hsub, hfindings⟩ := run_findings source severity
  rw [hfindings] at hfound
  exact fun x hx => (hsub.map _).subset (hfound x hx)

lemma failure_mend (h : source.root.WellFormed source.bytes) (hsealed : source.root.Sealed)
    (hfound : ∀ x ∈ found, x ∈ (run source severity).findings) {edited : Fix.Edited}
    (hok : applySuggestions source.bytes found = .ok edited) :
    (run (source.mend severity found edited) severity).failure = (run source severity).failure := by
  by_cases hplaced : ∀ f ∈ flagged source, f.Placed
  · rw [(run_mend_of_placed h hsealed (mem_findings hfound) hok hplaced).1, (run_of_placed severity hplaced).2]
  · rw [(mend_of_not_placed h hplaced hfound hok).2.2]

lemma carried_mend (h : source.root.WellFormed source.bytes) (hsealed : source.root.Sealed)
    (hfound : ∀ x ∈ found, x ∈ (run source severity).findings) {edited : Fix.Edited}
    (hok : applySuggestions source.bytes found = .ok edited) :
    List.Forall₂ (Finding.Carried source (source.mend severity found edited) edited.applied)
      ((run source severity).findings.filter (· ∉ found))
      (run (source.mend severity found edited) severity).findings := by
  by_cases hplaced : ∀ f ∈ flagged source, f.Placed
  · have hmem := mem_findings hfound
    have hfilter : ((flagged source).map (findingOf source severity)).filter (· ∉ found) =
        (rest source severity found).map (findingOf source severity) := List.filter_map
    rw [(run_mend_of_placed h hsealed hmem hok hplaced).2, (run_of_placed severity hplaced).1, hfilter,
      List.map_map, List.forall₂_map_left_iff, List.forall₂_map_right_iff, List.forall₂_same]
    intro f hf
    obtain ⟨hfl, hmended⟩ := not_isMended h hmem hok hf
    have hpath : (source.mend severity found edited).path = source.path := rfl
    exact carried_findingOf hpath hfl (asyncByte_of_flagged h hfl).1 hmended
  · obtain ⟨hnone, -, hsame⟩ := mend_of_not_placed h hplaced hfound hok
    rw [hsame, hnone]
    exact List.Forall₂.nil

/-- The rest can be fixed, with the same bytes as if all were fixed at once. -/
lemma rest_mend (h : source.root.WellFormed source.bytes) (hsealed : source.root.Sealed)
    (hfound : ∀ x ∈ found, x ∈ (run source severity).findings) {edited : Fix.Edited}
    (hok : applySuggestions source.bytes found = .ok edited) :
    ∃ once again, applySuggestions source.bytes (run source severity).findings = .ok once ∧
      applySuggestions edited.source (run (source.mend severity found edited) severity).findings = .ok again ∧
      again.source = once.source := by
  by_cases hplaced : ∀ f ∈ flagged source, f.Placed
  · have hmem := mem_findings hfound
    have hb : ∀ x ∈ (flagged source).map insertion, x.offset ≤ source.bytes.length :=
      List.forall_mem_map.mpr fun f hf => by
        have := asyncByte_of_flagged h hf
        simp only [insertion]
        omega
    have hb' : ∀ x ∈ ((rest source severity found).map (Function.mend edited.applied)).map insertion,
        x.offset ≤ edited.source.length := by
      rw [List.map_map]
      refine List.forall_mem_map.mpr fun f hf => ?_
      obtain ⟨hfl, hmended⟩ := not_isMended h hmem hok hf
      have hbyte := asyncByte_of_flagged h hfl
      cases edited_eq h hmem hok
      simp only [Function.comp_apply, insertion, Function.asyncByte_mend hbyte.1 hmended, Int.toNat_natCast]
      exact Fix.place_le_length (Fix.applied_distinct _) (by omega)
    rw [(run_mend_of_placed h hsealed hmem hok hplaced).2, (run_of_placed severity hplaced).1,
      applySuggestions, applySuggestions, chosenFixes_map_findingOf, chosenFixes_map_findingOf,
      Fix.applyAll_eq hb, Fix.applyAll_eq hb']
    exact ⟨_, _, rfl, rfl, splice_rest h hmem hok⟩
  · obtain ⟨hnone, hsource, hsame⟩ := mend_of_not_placed h hplaced hfound hok
    rw [hsame, hnone, hsource, applySuggestions_nil]
    exact ⟨_, _, rfl, rfl, rfl⟩

/-- Fixing some findings of a run disturbs nothing else. The suggestions can be applied; the new tree
is well-formed over the new source; every function is seen as before, and async if it was or its
finding was fixed; a run then fails if it did before, and else finds what was not fixed, each finding
carried over in its order; if all was fixed it finds nothing; and fixing the rest gives the same bytes
as fixing everything at once. -/
theorem run_mend (source : Source) (severity : String) (found : List Finding)
    (h : source.root.WellFormed source.bytes) (hsealed : source.root.Sealed)
    (hfound : ∀ x ∈ found, x ∈ (run source severity).findings) :
    ∃ edited mended, applySuggestions source.bytes found = .ok edited ∧
      mended = source.mend severity found edited ∧
      mended.root.WellFormed mended.bytes ∧ mended.root.Sealed ∧
      mended.root.functions mended.bytes =
        (source.root.functions source.bytes).map (Function.mend edited.applied) ∧
      (run mended severity).failure = (run source severity).failure ∧
      List.Forall₂ (Finding.Carried source mended edited.applied)
        ((run source severity).findings.filter (· ∉ found)) (run mended severity).findings ∧
      ((∀ x ∈ (run source severity).findings, x ∈ found) → (run mended severity).findings = []) ∧
      ∃ once again, applySuggestions source.bytes (run source severity).findings = .ok once ∧
        applySuggestions mended.bytes (run mended severity).findings = .ok again ∧
        again.source = once.source := by
  have hmem := mem_findings hfound
  have hok := applySuggestions_eq h hmem
  have hcarried := carried_mend h hsealed hfound hok
  obtain ⟨hwf, hsealed'⟩ := shape_mend h hsealed hmem hok
  refine ⟨_, _, hok, rfl, hwf, hsealed', functions_mend h hsealed hmem hok,
    failure_mend h hsealed hfound hok, hcarried, fun hall => ?_, rest_mend h hsealed hfound hok⟩
  have hnone : (run source severity).findings.filter (· ∉ found) = [] :=
    List.filter_eq_nil_iff.mpr fun x hx => by simpa using hall x hx
  rw [hnone] at hcarried
  exact List.forall₂_nil_left_iff.mp hcarried

instance (n : Node) : Decidable n.FunctionFree :=
  inferInstanceAs (Decidable (∀ m ∈ n.preorder, m.isFunction = false))

instance (n : Node) : Decidable n.IsLiteral := inferInstanceAs (Decidable (_ ∨ _))

instance (root : Node) : Decidable root.Sealed :=
  decidable_of_iff ((∀ n ∈ root.preorder, n.IsLiteral → n.FunctionFree) ∧
      ∀ n ∈ root.preorder, n.isFunction = true → ∀ c ∈ n.child? "name",
        (n.type = "method_definition" → c.type ∈ Node.keyTypes) → c.FunctionFree)
    ⟨fun ⟨hl, hn⟩ => ⟨hl, fun n hmem hf c hc => hn n hmem hf c (Node.child?_eq_some_iff.mpr hc)⟩,
      fun ⟨hl, hn⟩ => ⟨hl, fun n hmem hf c hc => hn n hmem hf c (Node.child?_eq_some_iff.mp hc)⟩⟩

/-- Of the nested actions one is fixed and the other found again. -/
theorem run_mend_nestedActions :
    let found := (run nestedActions "error").findings.take 1
    nestedActions.root.WellFormed nestedActions.bytes ∧ nestedActions.root.Sealed ∧
      (∀ x ∈ found, x ∈ (run nestedActions "error").findings) ∧
      ∃ edited, applySuggestions nestedActions.bytes found = .ok edited ∧
        (run (nestedActions.mend "error" found edited) "error").findings.length = 1 := by
  intro found
  have h : nestedActions.root.WellFormed nestedActions.bytes := by decide
  have hsealed : nestedActions.root.Sealed := by decide
  have hfound : ∀ x ∈ found, x ∈ (run nestedActions "error").findings := fun x hx => List.mem_of_mem_take hx
  obtain ⟨edited, mended, hok, rfl, -, -, -, -, hcarried, -⟩ := run_mend nestedActions "error" found h hsealed hfound
  refine ⟨h, hsealed, hfound, edited, hok, ?_⟩
  have hlen : (nestedActions.root.functions nestedActions.bytes).length = 2 := rfl
  have hbytes : (nestedActions.root.functions nestedActions.bytes).map Function.asyncByte = [0, 26] := rfl
  obtain ⟨f, g, hfg⟩ := List.length_eq_two.mp hlen
  rw [hfg] at hbytes
  obtain ⟨hf, hg⟩ := List.cons.inj hbytes
  have hne : findingOf nestedActions "error" g ≠ findingOf nestedActions "error" f := fun heq => by
    have hoffset := congrArg (fun x => x.fix?.map Fix.offset) heq
    simp [fix?_findingOf, insertion, hf, (List.cons.inj hg).1] at hoffset
  rw [← hcarried.length_eq, show found = [findingOf nestedActions "error" f] by
    simp only [found, run_nestedActions, hfg]; rfl, run_nestedActions, hfg]
  simp [hne]

/-- Fixing anything leaves less to fix. -/
lemma length_findings_mend {source : Source} {severity : String} {found : List Finding}
    (h : source.root.WellFormed source.bytes) (hsealed : source.root.Sealed)
    (hfound : ∀ x ∈ found, x ∈ (run source severity).findings) (hne : found ≠ []) {edited : Fix.Edited}
    (hok : applySuggestions source.bytes found = .ok edited) :
    (run (source.mend severity found edited) severity).findings.length <
      (run source severity).findings.length := by
  obtain ⟨x, hx⟩ := List.exists_mem_of_ne_nil found hne
  rw [← (carried_mend h hsealed hfound hok).length_eq, List.length_filter_lt_length_iff_exists]
  exact ⟨x, hfound x hx, by simpa using hx⟩

/-- The second source comes about when findings are fixed in the first, then in what that gives, and
so on. -/
inductive FixedTo (severity : String) : Source → Source → Prop
  | refl (source : Source) : FixedTo severity source source
  | step {source last : Source} {found : List Finding} {edited : Fix.Edited}
      (hfound : ∀ x ∈ found, x ∈ (run source severity).findings)
      (hok : applySuggestions source.bytes found = .ok edited)
      (h : FixedTo severity (source.mend severity found edited) last) : FixedTo severity source last

/-- However the findings are fixed, when none is left the bytes are those of fixing all at once. -/
theorem FixedTo.bytes_eq {severity : String} {source last : Source} (h : FixedTo severity source last)
    (hwf : source.root.WellFormed source.bytes) (hsealed : source.root.Sealed)
    (hnone : (run last severity).findings = []) :
    ∃ once, applySuggestions source.bytes (run source severity).findings = .ok once ∧
      last.bytes = once.source := by
  induction h with
  | refl source =>
    rw [hnone, applySuggestions_nil]
    exact ⟨_, rfl, rfl⟩
  | step hfound hok _ ih =>
    obtain ⟨hwf', hsealed'⟩ := shape_mend hwf hsealed (mem_findings hfound) hok
    obtain ⟨once, again, honce, hagain, heq⟩ := rest_mend hwf hsealed hfound hok
    obtain ⟨once', honce', hlast⟩ := ih hwf' hsealed' hnone
    rw [Source.bytes_mend, hagain] at honce'
    cases honce'
    exact ⟨once, honce, hlast.trans heq⟩

end AsyncAction

end AsyncActions
