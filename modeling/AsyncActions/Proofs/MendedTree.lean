import AsyncActions.Proofs.InsertionPoints
import AsyncActions.Proofs.SplicedSource

/-!
# The tree of a mended source

`Node.mend` says how a tree changes when some of its functions take the keyword: each gets a token of
its own before the child where the keyword belongs, and all places move to where their text stands now.
If no function stands inside a literal or a name, what the rule looks at in a function is read again
from the new source as it was.
-/

namespace AsyncActions

/-- Where an offset moves. A text put in at the offset itself goes before what starts at the edge,
and is spanned by what starts at any other offset. -/
def Fix.moved (fixes : List Fix) (edge : Option Int) (byte : Int) : Int :=
  if edge = some byte then stand fixes byte.toNat else place fixes byte.toNat

/-- A point stays on its line, and moves on by what goes in before it there. The line starts as many
bytes before the point as its column says. -/
def Point.moved (fixes : List Fix) (byte byte' : Int) (p : Point) : Point :=
  ⟨p.row, p.column + (byte' - byte) - Fix.insertedBefore fixes (byte - p.column).toNat⟩

def Extent.mend (fixes : List Fix) (edge : Option Int) (x : Extent) : Extent where
  startByte := Fix.moved fixes edge x.startByte
  endByte := Fix.moved fixes edge x.endByte
  startPoint := x.startPoint.moved fixes x.startByte (Fix.moved fixes edge x.startByte)
  endPoint := x.endPoint.moved fixes x.endByte (Fix.moved fixes edge x.endByte)

/-- One of the fixes is where the keyword of the function belongs. -/
def Function.isMended (fixes : List Fix) (f : Function) : Bool :=
  fixes.any fun x => (x.offset : Int) = f.asyncByte

/-- The view of a function after the fixes. -/
def Function.mend (fixes : List Fix) (f : Function) : Function :=
  { f with
    isAsync := f.isAsync || f.isMended fixes
    startByte := Fix.place fixes f.startByte.toNat
    endByte := Fix.place fixes f.endByte.toNat
    startPoint := f.startPoint.moved fixes f.startByte (Fix.place fixes f.startByte.toNat)
    endPoint := f.endPoint.moved fixes f.endByte (Fix.place fixes f.endByte.toNat)
    insertByte := f.insertByte.map fun b => Fix.stand fixes b.toNat
    insertPoint := f.insertPoint.map
      fun p => p.moved fixes f.asyncByte (Fix.stand fixes f.asyncByte.toNat) }

namespace Node

/-! ### Trees -/

/-- The child is of the kind before whose first the keyword goes: a name if a method has one. -/
def isToken (n c : Node) : Bool :=
  !(n.type = "method_definition" && (n.child? "name").isSome) || c.field = some "name"

/-- The keyword as a token before a node. -/
def keywordToken (fixes : List Fix) (t : Node) : Node :=
  let start : Int := Fix.place fixes t.startByte.toNat
  let point := t.startPoint.moved fixes t.startByte start
  mk "async" false none ⟨start, start + 5, point, ⟨point.row, point.column + 5⟩⟩ []

mutual

/-- The tree after the fixes, where the marked functions take the keyword. What starts at the edge
starts after the text that goes in there. -/
def mend (fixes : List Fix) (marked : Node → Bool) (edge : Option Int) : Node → Node
  | mk type named field extent cs =>
    let n := mk type named field extent cs
    mk type named field (extent.mend fixes edge)
      (mendAll fixes marked (fun c => marked n && n.isToken c) edge cs)

/-- Children after the fixes, with the keyword before the first that it goes before. -/
def mendAll (fixes : List Fix) (marked : Node → Bool) (isToken : Node → Bool) (edge : Option Int) :
    List Node → List Node
  | [] => []
  | c :: cs =>
    if isToken c then
      keywordToken fixes c :: c.mend fixes marked (some c.startByte) ::
        mendAll fixes marked (fun _ => false) edge cs
    else c.mend fixes marked edge :: mendAll fixes marked isToken edge cs

end

variable {source : Bytes} {fixes : List Fix} {marked : Node → Bool} {edge : Option Int} {n : Node}

@[simp] lemma type_mend : (n.mend fixes marked edge).type = n.type := by
  cases n with
  | mk => rw [mend]; rfl

@[simp] lemma named_mend : (n.mend fixes marked edge).named = n.named := by
  cases n with
  | mk => rw [mend]; rfl

@[simp] lemma field_mend : (n.mend fixes marked edge).field = n.field := by
  cases n with
  | mk => rw [mend]; rfl

@[simp] lemma extent_mend : (n.mend fixes marked edge).extent = n.extent.mend fixes edge := by
  cases n with
  | mk => rw [mend]; rfl

lemma children_mend : (n.mend fixes marked edge).children =
    mendAll fixes marked (fun c => marked n && n.isToken c) edge n.children := by
  cases n with
  | mk => rw [mend]; rfl

/-- The children, each mended with an edge of which `P` holds, and keywords between them. -/
inductive Beside (fixes : List Fix) (marked : Node → Bool) (P : Option Int → Node → Prop) :
    List Node → List Node → Prop
  | nil : Beside fixes marked P [] []
  | node {edge : Option Int} {c : Node} {cs cs' : List Node} (hc : P edge c)
      (h : Beside fixes marked P cs cs') :
      Beside fixes marked P (c :: cs) (c.mend fixes marked edge :: cs')
  | keyword {t : Node} {cs cs' : List Node} (h : Beside fixes marked P cs cs') :
      Beside fixes marked P cs (keywordToken fixes t :: cs')

namespace Beside

variable {P : Option Int → Node → Prop} {cs cs' : List Node}

lemma append {ds ds' : List Node} (h : Beside fixes marked P cs cs')
    (h' : Beside fixes marked P ds ds') : Beside fixes marked P (cs ++ ds) (cs' ++ ds') := by
  induction h with
  | nil => exact h'
  | node hc _ ih => exact node hc ih
  | keyword _ ih => exact keyword ih

lemma map (h : ∀ c ∈ cs, P edge c) :
    Beside fixes marked P cs (cs.map (mend fixes marked edge)) := by
  induction cs with
  | nil => exact nil
  | cons c cs ih =>
    exact node (h c List.mem_cons_self) (ih fun d hd => h d (List.mem_cons_of_mem _ hd))

lemma find?_eq_some {p : Node → Bool} (hkeyword : ∀ t, p (keywordToken fixes t) = false)
    (hp : ∀ edge c, p (c.mend fixes marked edge) = p c) (h : Beside fixes marked P cs cs') {c : Node}
    (hc : cs.find? p = some c) : ∃ edge, P edge c ∧ cs'.find? p = some (c.mend fixes marked edge) := by
  induction h with
  | nil => cases hc
  | @node edge d cs cs' hd h ih =>
    by_cases hpd : p d = true
    · rw [List.find?_cons_of_pos hpd] at hc
      cases hc
      exact ⟨edge, hd, List.find?_cons_of_pos (by rwa [hp])⟩
    · rw [List.find?_cons_of_neg hpd] at hc
      obtain ⟨edge', hc', hfind⟩ := ih hc
      exact ⟨edge', hc', by rwa [List.find?_cons_of_neg (by rwa [hp])]⟩
  | @keyword t cs cs' h ih =>
    obtain ⟨edge', hc', hfind⟩ := ih hc
    exact ⟨edge', hc', by rwa [List.find?_cons_of_neg (by simp [hkeyword])]⟩

lemma any_eq {p : Node → Bool} (hkeyword : ∀ t, p (keywordToken fixes t) = false)
    (hp : ∀ edge c, p (c.mend fixes marked edge) = p c) (h : Beside fixes marked P cs cs') :
    cs'.any p = cs.any p := by
  induction h with
  | nil => rfl
  | node _ _ ih => rw [List.any_cons, List.any_cons, hp, ih]
  | keyword _ ih => rw [List.any_cons, hkeyword, ih, Bool.false_or]

lemma find?_eq_none {p : Node → Bool} (hkeyword : ∀ t, p (keywordToken fixes t) = false)
    (hp : ∀ edge c, p (c.mend fixes marked edge) = p c) (h : Beside fixes marked P cs cs')
    (hc : cs.find? p = none) : cs'.find? p = none := by
  have hany := h.any_eq hkeyword hp
  rw [List.find?_eq_none] at hc ⊢
  intro c hc' hpc
  have htrue := List.any_eq_true.mpr ⟨c, hc', hpc⟩
  rw [hany] at htrue
  obtain ⟨d, hd, hpd⟩ := List.any_eq_true.mp htrue
  exact hc d hd hpd

end Beside

/-! ### Which places may change -/

/-- No function stands in the node. -/
def FunctionFree (n : Node) : Prop := ∀ m ∈ n.preorder, m.isFunction = false

/-- No function stands inside a literal, or inside a node that gives a function its name. -/
structure Sealed (root : Node) : Prop where
  literal : ∀ n ∈ root.preorder, n.IsLiteral → n.FunctionFree
  name : ∀ n ∈ root.preorder, n.isFunction = true → ∀ c, n.FirstChild (InRole "name") c →
    (n.type = "method_definition" → c.type ∈ keyTypes) → c.FunctionFree

/-- The tree can be mended: the marked nodes are the functions that a fix makes async. -/
structure Mendable (source : Bytes) (fixes : List Fix) (marked : Node → Bool) (n : Node) : Prop where
  wellFormed : n.WellFormed source
  sealed : n.Sealed
  marked : ∀ m ∈ n.preorder, marked m = true ↔ ∃ f, m.function? source = some f ∧ f.isMended fixes = true

/-- What goes in at the offset goes in before the node or after it. -/
def Aside (n : Node) (edge : Option Int) (offset : Int) : Prop :=
  offset < n.startByte ∨ n.endByte ≤ offset ∨ offset = n.startByte ∧ edge = some offset

/-- What goes in goes in aside of the node, or makes a function in it async. The edge is no place
where a function in the node starts. -/
structure Tracked (source : Bytes) (fixes : List Fix) (edge : Option Int) (n : Node) : Prop where
  fixes : ∀ x ∈ fixes, n.Aside edge x.offset ∨
    ∃ m ∈ n.preorder, ∃ f, m.function? source = some f ∧ f.asyncByte = x.offset
  edge_le : ∀ o ∈ edge, o ≤ n.startByte
  edge_clear : ∀ o ∈ edge, ∀ m ∈ n.preorder, m.isFunction = true → m.startByte ≠ o

/-- The child is tracked with an edge, which is that of its parent or its own start. -/
structure TrackedChild (source : Bytes) (fixes : List Fix) (n : Node) (edge edge' : Option Int)
    (c : Node) : Prop where
  mem : c ∈ n.children
  edge : edge' = edge ∨ edge' = some c.startByte ∧ c.startByte < c.endByte
  tracked : Tracked source fixes edge' c

lemma insertionToken?_eq_head? (h : ¬ (n.type = "method_definition" ∧ (n.child? "name").isSome)) :
    n.insertionToken? = n.children.head? := by
  unfold insertionToken?
  split
  · next ht =>
    have hnone : n.child? "name" = none := by simpa [ht] using h
    rw [hnone, Option.none_or]
  · rfl

lemma insertionToken?_eq_find? : n.insertionToken? = n.children.find? n.isToken := by
  by_cases h : n.type = "method_definition" ∧ (n.child? "name").isSome
  · obtain ⟨key, hkey⟩ := Option.isSome_iff_exists.mp h.2
    have htoken : n.isToken = fun c => decide (c.field = some "name") := by
      funext c
      simp [isToken, h]
    rw [insertionToken?, if_pos h.1, htoken, ← child?, hkey, Option.some_or]
  · have htoken : n.isToken = fun _ => true := by
      funext c
      simp only [isToken, Bool.or_eq_true, Bool.not_eq_true', Bool.and_eq_false_imp,
        decide_eq_true_eq]
      left
      intro ht
      simpa [ht] using h
    rw [insertionToken?_eq_head? h, htoken]
    cases n.children <;> rfl

lemma mendAll_of_none {isToken : Node → Bool} {cs : List Node} (h : ∀ c ∈ cs, isToken c = false) :
    mendAll fixes marked isToken edge cs = cs.map (mend fixes marked edge) := by
  induction cs with
  | nil => rfl
  | cons c cs ih =>
    rw [mendAll, if_neg (by simp [h c List.mem_cons_self]), ih fun d hd => h d (List.mem_cons_of_mem _ hd),
      List.map_cons]

lemma mendAll_append {isToken : Node → Bool} {before after : List Node} {t : Node}
    (hb : ∀ b ∈ before, isToken b = false) (ht : isToken t = true) :
    mendAll fixes marked isToken edge (before ++ t :: after) =
      before.map (mend fixes marked edge) ++ keywordToken fixes t ::
        t.mend fixes marked (some t.startByte) :: after.map (mend fixes marked edge) := by
  induction before with
  | nil => rw [List.nil_append, mendAll, if_pos ht, mendAll_of_none fun _ _ => rfl]; rfl
  | cons b before ih =>
    rw [List.cons_append, mendAll, if_neg (by simp [hb b List.mem_cons_self]),
      ih fun d hd => hb d (List.mem_cons_of_mem _ hd), List.map_cons, List.cons_append]

lemma children_mend_of_not (h : ¬ marked n = true) :
    (n.mend fixes marked edge).children = n.children.map (mend fixes marked edge) := by
  rw [children_mend, mendAll_of_none (by simp [h])]

lemma children_mend_of_marked (h : marked n = true) {before after : List Node} {t : Node}
    (hcs : n.children = before ++ t :: after) (hb : ∀ b ∈ before, n.isToken b = false)
    (ht : n.isToken t = true) :
    (n.mend fixes marked edge).children =
      before.map (mend fixes marked edge) ++ keywordToken fixes t ::
        t.mend fixes marked (some t.startByte) :: after.map (mend fixes marked edge) := by
  rw [children_mend, hcs, mendAll_append (by simpa [h] using hb) (by simp [h, ht])]

namespace Mendable

lemma child (h : Mendable source fixes marked n) {c : Node} (hc : c ∈ n.children) :
    Mendable source fixes marked c where
  wellFormed := h.wellFormed.child hc
  sealed :=
    ⟨fun m hm => h.sealed.literal m (mem_preorder_of_child hc hm),
      fun m hm => h.sealed.name m (mem_preorder_of_child hc hm)⟩
  marked m hm := h.marked m (mem_preorder_of_child hc hm)

/-- A marked node is a function with a child before which the keyword goes. -/
lemma token_of_marked (h : Mendable source fixes marked n) (hm : marked n = true) :
    ∃ f, n.function? source = some f ∧ f.isMended fixes = true ∧ ∃ t, t.Takes f.asyncByte ∧
      ∃ before after, n.children = before ++ t :: after ∧ n.isToken t = true ∧
        ∀ b ∈ before, n.isToken b = false := by
  obtain ⟨f, hf, hmended⟩ := (h.marked n (self_mem_preorder n)).mp hm
  obtain ⟨t, ht, htakes⟩ := h.wellFormed.fits.token f hf
  rw [Option.mem_def, insertionToken?_eq_find?, List.find?_eq_some_iff_append] at ht
  obtain ⟨hit, before, after, hcs, hb⟩ := ht
  exact ⟨f, hf, hmended, t, htakes, before, after, hcs, hit, fun b hmem => by simpa using hb b hmem⟩

/-- What is tracked in a node is tracked in its children, if that holds of its own keyword. -/
lemma tracked_child (h : Mendable source fixes marked n) (ht : Tracked source fixes edge n) {c : Node}
    (hc : c ∈ n.children) {edge' : Option Int} (hedge : edge' = edge ∨ edge' = some c.startByte)
    (hclear : ∀ o ∈ edge', ∀ m ∈ c.preorder, m.isFunction = true → m.startByte ≠ o)
    (hown : marked n = true → ∀ f, n.function? source = some f → c.Aside edge' f.asyncByte) :
    Tracked source fixes edge' c where
  fixes x hx := by
    have hin := h.wellFormed.fits.enclosed c hc
    rcases ht.fixes x hx with haside | ⟨m, hm, f, hf, hb⟩
    · left
      rcases haside with hlt | hge | ⟨heq, he⟩
      · exact Or.inl (by omega)
      · exact Or.inr (Or.inl (by omega))
      · rcases Int.lt_or_eq_of_le hin.1 with hlt | hcs
        · exact Or.inl (by omega)
        · refine Or.inr (Or.inr ⟨heq.trans hcs, ?_⟩)
          rcases hedge with rfl | rfl
          · exact he
          · rw [heq, hcs]
    · rcases mem_preorder.mp hm with rfl | ⟨d, hd, hm⟩
      · have hmarked : marked m = true := by
          refine (h.marked m (self_mem_preorder m)).mpr ⟨f, hf, List.any_eq_true.mpr ⟨x, hx, ?_⟩⟩
          exact decide_eq_true hb.symm
        exact Or.inl (hb ▸ hown hmarked f hf)
      · -- a function in a sibling takes its keyword there
        by_cases hdc : d = c
        · exact Or.inr ⟨m, hdc ▸ hm, f, hf, hb⟩
        · have hwithin := (h.wellFormed.child hd).asyncByte_within hm hf
          rcases h.wellFormed.fits.apart hd hc hdc with hapart | hapart
          · exact Or.inl (Or.inl (by omega))
          · exact Or.inl (Or.inr (Or.inl (by omega)))
  edge_le o ho := by
    rcases hedge with rfl | rfl
    · exact Int.le_trans (ht.edge_le o ho) (h.wellFormed.fits.enclosed c hc).1
    · cases ho
      exact Int.le_refl _
  edge_clear := hclear

/-- A child that does not start with the keyword keeps the edge. -/
lemma tracked_of_ne (h : Mendable source fixes marked n) (ht : Tracked source fixes edge n) {c : Node}
    (hc : c ∈ n.children)
    (hown : marked n = true → ∀ f, n.function? source = some f →
      ∃ t ∈ n.children, t.Takes f.asyncByte ∧ c ≠ t) : Tracked source fixes edge c := by
  refine h.tracked_child ht hc (Or.inl rfl)
    (fun o ho m hm => ht.edge_clear o ho m (mem_preorder_of_child hc hm)) fun hmarked f hf => ?_
  obtain ⟨t, htc, htakes, hne⟩ := hown hmarked f hf
  have hstart := htakes.startByte
  have hwide := htakes.wide
  rcases h.wellFormed.fits.apart hc htc hne with hapart | hapart
  · exact Or.inr (Or.inl (by omega))
  · exact Or.inl (by omega)

lemma trackedChild_of_not (h : Mendable source fixes marked n) (ht : Tracked source fixes edge n)
    (hm : ¬ marked n = true) : ∀ c ∈ n.children, TrackedChild source fixes n edge edge c :=
  fun _ hc => ⟨hc, Or.inl rfl, h.tracked_of_ne ht hc fun hmarked => absurd hmarked hm⟩

/-- The children of a marked function: the keyword goes before a token, which it is the edge of. -/
lemma trackedChild_of_marked (h : Mendable source fixes marked n) (ht : Tracked source fixes edge n)
    (hm : marked n = true) :
    ∃ f, n.function? source = some f ∧ f.isMended fixes = true ∧ ∃ t before after,
      t.Takes f.asyncByte ∧ n.children = before ++ t :: after ∧
      (n.mend fixes marked edge).children =
        before.map (mend fixes marked edge) ++ keywordToken fixes t ::
          t.mend fixes marked (some t.startByte) :: after.map (mend fixes marked edge) ∧
      (∀ b ∈ before, TrackedChild source fixes n edge edge b) ∧
      TrackedChild source fixes n edge (some t.startByte) t ∧
      ∀ a ∈ after, TrackedChild source fixes n edge edge a := by
  obtain ⟨f, hf, hmended, t, htakes, before, after, hcs, hit, hb⟩ := h.token_of_marked hm
  have htakes' : ∀ g, n.function? source = some g → t.Takes g.asyncByte := fun g hg => by
    rw [hf] at hg
    cases hg
    exact htakes
  have htc : t ∈ n.children := by
    rw [hcs]
    exact List.mem_append_right _ List.mem_cons_self
  have hrest {c : Node} (hc : c ∈ n.children) (hne : c ≠ t) : TrackedChild source fixes n edge edge c :=
    ⟨hc, Or.inl rfl, h.tracked_of_ne ht hc fun _ g hg => ⟨t, htc, htakes' g hg, hne⟩⟩
  refine ⟨f, hf, hmended, t, before, after, htakes, hcs, children_mend_of_marked hm hcs hb hit,
    fun b hmem => hrest ?_ ?_, ⟨htc, Or.inr ⟨rfl, htakes.wide⟩, ?_⟩, fun a hmem => hrest ?_ ?_⟩
  · rw [hcs]
    exact List.mem_append_left _ hmem
  · rintro rfl
    rw [hb b hmem] at hit
    cases hit
  · refine h.tracked_child ht htc (Or.inr rfl) (fun o ho => ?_) fun _ g hg => ?_
    · cases ho
      exact htakes.clear
    · have hstart := (htakes' g hg).startByte
      exact Or.inr (Or.inr ⟨hstart.symm, by rw [hstart]⟩)
  · rw [hcs]
    exact List.mem_append_right _ (List.mem_cons_of_mem _ hmem)
  · rintro rfl
    have hord := h.wellFormed.fits.ordered
    rw [hcs, List.pairwise_append, List.pairwise_cons] at hord
    have := hord.2.1.1 a hmem
    have := htakes.wide
    omega

/-- What is tracked in a node is tracked in its children, each with its edge. -/
lemma beside_children (h : Mendable source fixes marked n) (ht : Tracked source fixes edge n) :
    Beside fixes marked (TrackedChild source fixes n edge) n.children
      (n.mend fixes marked edge).children := by
  by_cases hm : marked n = true
  · obtain ⟨f, -, -, t, before, after, -, hcs, hcs', hbefore, htoken, hafter⟩ :=
      h.trackedChild_of_marked ht hm
    rw [hcs', hcs]
    exact (Beside.map hbefore).append (Beside.keyword (Beside.node htoken (Beside.map hafter)))
  · rw [children_mend_of_not hm]
    exact Beside.map (h.trackedChild_of_not ht hm)

end Mendable

end Node

end AsyncActions
