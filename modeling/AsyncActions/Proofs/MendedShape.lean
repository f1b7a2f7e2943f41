import AsyncActions.Proofs.MendedFunctions

/-!
# The mended tree fits the mended source

Places keep their order when they move, and the keyword fits between a token and what stands before it.
So a mended tree is well-formed over the new source, and can be mended again.
-/

namespace AsyncActions

namespace Fix

lemma place_le_moved (fixes : List Fix) (edge : Option Int) (byte : Int) :
    (place fixes byte.toNat : Int) ≤ moved fixes edge byte := by
  have := place_le_stand fixes byte.toNat
  unfold moved
  split <;> omega

lemma moved_le_stand (fixes : List Fix) (edge : Option Int) (byte : Int) :
    moved fixes edge byte ≤ stand fixes byte.toNat := by
  have := place_le_stand fixes byte.toNat
  unfold moved
  split <;> omega

variable {fixes : List Fix} {edge edge' : Option Int}

/-- Different offsets keep their order, whatever their edges. -/
lemma stand_lt_moved (hd : fixes.Pairwise (·.offset ≠ ·.offset)) (edge : Option Int) {a b : Int}
    (ha : 0 ≤ a) (hab : a < b) : (stand fixes a.toNat : Int) < moved fixes edge b := by
  have hlt := stand_lt_place hd (show a.toNat < b.toNat by omega)
  have hle := place_le_moved fixes edge b
  omega

/-- Equal offsets do if the first is no edge or both are. -/
lemma moved_le_moved (hd : fixes.Pairwise (·.offset ≠ ·.offset)) {a b : Int} (ha : 0 ≤ a) (hab : a ≤ b)
    (he : a = b → edge = some a → edge' = some a) : moved fixes edge a ≤ moved fixes edge' b := by
  rcases Int.lt_or_eq_of_le hab with hlt | rfl
  · exact Int.le_of_lt (Int.lt_of_le_of_lt (moved_le_stand fixes edge a) (stand_lt_moved hd edge' ha hlt))
  · by_cases h : edge = some a
    · exact Int.le_of_eq (by rw [moved, moved, if_pos h, if_pos (he rfl h)])
    · rw [moved_of_ne h]
      exact place_le_moved fixes edge' a

lemma stand_le_length (hd : fixes.Pairwise (·.offset ≠ ·.offset)) {source : Bytes} {pos : Nat}
    (hp : pos ≤ source.length) : stand fixes pos ≤ (splice fixes source).length := by
  have hlen := length_spliceFrom hd source 0
  have hmono := place_mono fixes (show pos + 1 ≤ 0 + source.length + 1 by omega)
  rw [place_succ hd] at hmono
  simp only [place, insertedBefore_zero] at hlen hmono
  rw [splice]
  omega

end Fix

namespace Node

variable {source : Bytes} {fixes : List Fix} {marked : Node → Bool} {edge : Option Int} {n : Node}

lemma Beside.mem {P : Option Int → Node → Prop} {cs cs' : List Node} (h : Beside fixes marked P cs cs')
    {c' : Node} (hc : c' ∈ cs') :
    (∃ t, c' = keywordToken fixes t) ∨ ∃ e c, P e c ∧ c' = c.mend fixes marked e := by
  induction h with
  | nil => cases hc
  | node hd _ ih =>
    rcases List.mem_cons.mp hc with rfl | hc
    · exact Or.inr ⟨_, _, hd, rfl⟩
    · exact ih hc
  | keyword _ ih =>
    rcases List.mem_cons.mp hc with rfl | hc
    · exact Or.inl ⟨_, rfl⟩
    · exact ih hc

lemma children_keywordToken (t : Node) : (keywordToken fixes t).children = [] := rfl

lemma preorder_keywordToken (t : Node) : (keywordToken fixes t).preorder = [keywordToken fixes t] := rfl

/-- Below a mended node stand keywords and mended nodes. -/
lemma mem_preorder_mend {motive : Node → Prop} (h : Mendable source fixes marked n)
    (ht : Tracked source fixes edge n)
    (keyword : ∀ m ∈ n.preorder, ∀ e, Mendable source fixes marked m → Tracked source fixes e m →
      ∀ t, keywordToken fixes t ∈ (m.mend fixes marked e).children → motive (keywordToken fixes t))
    (node : ∀ m ∈ n.preorder, ∀ e, Mendable source fixes marked m → Tracked source fixes e m →
      motive (m.mend fixes marked e)) :
    ∀ m' ∈ (n.mend fixes marked edge).preorder, motive m' := by
  induction n using induction_children generalizing edge with
  | step n ih =>
    intro m' hm'
    rcases mem_preorder.mp hm' with rfl | ⟨c', hc', hm'⟩
    · exact node n (self_mem_preorder n) edge h ht
    · rcases (h.beside_children ht).mem hc' with ⟨t, rfl⟩ | ⟨e, c, hc, rfl⟩
      · rw [preorder_keywordToken, List.mem_singleton] at hm'
        rw [hm']
        exact keyword n (self_mem_preorder n) edge h ht t hc'
      · exact ih c hc.mem (h.child hc.mem) hc.tracked
          (fun m hm => keyword m (mem_preorder_of_child hc.mem hm))
          (fun m hm => node m (mem_preorder_of_child hc.mem hm)) m' hm'

/-! ### One node -/

variable (hd : fixes.Pairwise (·.offset ≠ ·.offset))

include hd

lemma TrackedChild.endByte_le {e e' : Option Int} {c d : Node} (hc : TrackedChild source fixes n edge e c)
    (hd' : TrackedChild source fixes n edge e' d) (hend : 0 ≤ c.endByte) (hle : c.endByte ≤ d.startByte) :
    (c.mend fixes marked e).endByte ≤ (d.mend fixes marked e').startByte := by
  rw [endByte_mend, startByte_mend]
  refine Fix.moved_le_moved hd hend hle fun heq he => ?_
  rcases hc.edge with rfl | ⟨rfl, hwide⟩
  · rcases hd'.edge with rfl | ⟨rfl, -⟩
    · exact he
    · rw [heq]
  · have := Option.some.inj he
    omega

omit hd

lemma Tracked.edge_ne (ht : Tracked source fixes edge n) {f : Function} (hf : n.function? source = some f)
    {byte : Int} (hb : n.startByte ≤ byte) : edge ≠ some byte := fun he => by
  have hle := ht.edge_le byte he
  have hne := ht.edge_clear byte he n (self_mem_preorder n) (isFunction_of_function? hf)
  omega

include hd

/-- The keyword has room before its token. -/
lemma keyword_le_stand (hw : ∀ x ∈ fixes, 5 ≤ x.bytes.length) {t : Node} {f : Function}
    (htakes : t.Takes f.asyncByte) (hf : f.isMended fixes = true) :
    (keywordToken fixes t).endByte ≤ Fix.stand fixes t.startByte.toNat := by
  obtain ⟨x, hx, hbyte⟩ := List.any_eq_true.mp hf
  have hbyte : (x.offset : Int) = f.asyncByte := of_decide_eq_true hbyte
  have hoffset : x.offset = t.startByte.toNat := by
    have := htakes.startByte
    omega
  have htext := Fix.textAt_offset hd hx
  have hlen := hw x hx
  rw [← htext, hoffset] at hlen
  have hend : (keywordToken fixes t).endByte = Fix.place fixes t.startByte.toNat + 5 := rfl
  rw [hend, Fix.stand]
  omega

lemma inside_mend (h : n.Fits source) :
    0 ≤ (n.mend fixes marked edge).startByte ∧
      (n.mend fixes marked edge).startByte ≤ (n.mend fixes marked edge).endByte ∧
      (n.mend fixes marked edge).endByte ≤ (Fix.splice fixes source).length := by
  have hin := h.inside
  rw [startByte_mend, endByte_mend]
  refine ⟨?_, Fix.moved_le_moved hd hin.1 hin.2.1 fun heq he => he, ?_⟩
  · exact Int.le_trans (Int.natCast_nonneg _) (Fix.place_le_moved fixes edge n.startByte)
  · refine Int.le_trans (Fix.moved_le_stand fixes edge n.endByte) ?_
    have hpos : n.endByte.toNat ≤ source.length := by omega
    have := Fix.stand_le_length hd hpos
    omega

namespace Mendable

lemma enclosed_child (h : Mendable source fixes marked n) {e : Option Int} {c : Node}
    (hc : TrackedChild source fixes n edge e c) (ht : Tracked source fixes edge n) :
    (n.mend fixes marked edge).startByte ≤ (c.mend fixes marked e).startByte ∧
      (c.mend fixes marked e).endByte ≤ (n.mend fixes marked edge).endByte := by
  have hin := h.wellFormed.fits.inside
  have hcin := (h.child hc.mem).wellFormed.fits.inside
  have henc := h.wellFormed.fits.enclosed c hc.mem
  simp only [startByte_mend, endByte_mend]
  refine ⟨Fix.moved_le_moved hd hin.1 henc.1 fun heq he => ?_,
    Fix.moved_le_moved hd (by omega) henc.2 fun heq he => ?_⟩
  · rcases hc.edge with rfl | ⟨rfl, -⟩
    · exact he
    · rw [heq]
  · rcases hc.edge with rfl | ⟨rfl, hwide⟩
    · exact he
    · have := Option.some.inj he
      omega

lemma enclosed_mend (hw : ∀ x ∈ fixes, 5 ≤ x.bytes.length) (h : Mendable source fixes marked n)
    (ht : Tracked source fixes edge n) : ∀ c ∈ (n.mend fixes marked edge).children,
      (n.mend fixes marked edge).startByte ≤ c.startByte ∧ c.endByte ≤ (n.mend fixes marked edge).endByte := by
  intro c' hc'
  by_cases hm : marked n = true
  · obtain ⟨f, hf, hmended, t, before, after, htakes, -, hcs', hbefore, htoken, hafter⟩ :=
      h.trackedChild_of_marked ht hm
    rw [hcs'] at hc'
    rcases List.mem_append.mp hc' with hc' | hc'
    · obtain ⟨b, hb, rfl⟩ := List.mem_map.mp hc'
      exact h.enclosed_child hd (hbefore b hb) ht
    rcases List.mem_cons.mp hc' with rfl | hc'
    · have hin := h.wellFormed.fits.inside
      have henc := h.wellFormed.fits.enclosed t htoken.mem
      have hend := (h.enclosed_child hd htoken ht).2
      have hroom := keyword_le_stand hd hw htakes hmended
      have hpast := Fix.stand_lt_moved hd (some t.startByte) (by omega) htakes.wide
      have hmono := Fix.place_mono fixes (show n.startByte.toNat ≤ t.startByte.toNat by omega)
      have hstart : (keywordToken fixes t).startByte = Fix.place fixes t.startByte.toNat := rfl
      rw [endByte_mend] at hend
      rw [startByte_mend, Fix.moved_of_ne (ht.edge_ne hf (Int.le_refl _)), hstart]
      omega
    rcases List.mem_cons.mp hc' with rfl | hc'
    · exact h.enclosed_child hd htoken ht
    · obtain ⟨a, ha, rfl⟩ := List.mem_map.mp hc'
      exact h.enclosed_child hd (hafter a ha) ht
  · rw [children_mend_of_not hm] at hc'
    obtain ⟨c, hc, rfl⟩ := List.mem_map.mp hc'
    exact h.enclosed_child hd (h.trackedChild_of_not ht hm c hc) ht

omit hd in
lemma le_keywordToken (h : Mendable source fixes marked n) (ht : Tracked source fixes edge n)
    {f : Function} (hf : n.function? source = some f) {b t : Node} (hb : b ∈ n.children)
    (hbt : b.endByte ≤ t.startByte) :
    (b.mend fixes marked edge).endByte ≤ (keywordToken fixes t).startByte := by
  have henc := h.wellFormed.fits.enclosed b hb
  have hin := (h.child hb).wellFormed.fits.inside
  have hmono := Fix.place_mono fixes (show b.endByte.toNat ≤ t.startByte.toNat by omega)
  have hstart : (keywordToken fixes t).startByte = Fix.place fixes t.startByte.toNat := rfl
  rw [endByte_mend, Fix.moved_of_ne (ht.edge_ne hf (by omega)), hstart]
  omega

lemma ordered_mend (hw : ∀ x ∈ fixes, 5 ≤ x.bytes.length) (h : Mendable source fixes marked n)
    (ht : Tracked source fixes edge n) :
    (n.mend fixes marked edge).children.Pairwise fun a b => a.endByte ≤ b.startByte := by
  have hle {e e' : Option Int} {c d : Node} (hc : TrackedChild source fixes n edge e c)
      (hd' : TrackedChild source fixes n edge e' d) (hcd : c.endByte ≤ d.startByte) :
      (c.mend fixes marked e).endByte ≤ (d.mend fixes marked e').startByte := by
    have hin := (h.child hc.mem).wellFormed.fits.inside
    exact hc.endByte_le hd hd' (by omega) hcd
  have hord := h.wellFormed.fits.ordered
  by_cases hm : marked n = true
  · obtain ⟨f, hf, hmended, t, before, after, htakes, hcs, hcs', hbefore, htoken, hafter⟩ :=
      h.trackedChild_of_marked ht hm
    have hroom := keyword_le_stand hd hw htakes hmended
    have htin := (h.child htoken.mem).wellFormed.fits.inside
    rw [hcs] at hord
    obtain ⟨hbb, hta, hcross⟩ := List.pairwise_append.mp hord
    obtain ⟨hta, haa⟩ := List.pairwise_cons.mp hta
    have hafter' : (after.map (mend fixes marked edge)).Pairwise fun a b => a.endByte ≤ b.startByte :=
      List.pairwise_map.mpr (haa.imp_of_mem fun ha ha' haa' => hle (hafter _ ha) (hafter _ ha') haa')
    have hbefore' : (before.map (mend fixes marked edge)).Pairwise fun a b => a.endByte ≤ b.startByte :=
      List.pairwise_map.mpr (hbb.imp_of_mem fun hb hb' hbb' => hle (hbefore _ hb) (hbefore _ hb') hbb')
    have htoken' : ∀ c ∈ after.map (mend fixes marked edge),
        (t.mend fixes marked (some t.startByte)).endByte ≤ c.startByte :=
      List.forall_mem_map.mpr fun a ha => hle htoken (hafter a ha) (hta a ha)
    have hkeyword : ∀ c ∈ t.mend fixes marked (some t.startByte) :: after.map (mend fixes marked edge),
        (keywordToken fixes t).endByte ≤ c.startByte := by
      refine List.forall_mem_cons.mpr ⟨?_, List.forall_mem_map.mpr fun a ha => ?_⟩
      · rw [startByte_mend, Fix.moved, if_pos rfl]
        exact hroom
      · have hta := hta a ha
        have hpast := Fix.stand_lt_moved hd edge htin.1 (Int.lt_of_lt_of_le htakes.wide hta)
        rw [startByte_mend]
        omega
    rw [hcs']
    refine List.pairwise_append.mpr ⟨hbefore', List.pairwise_cons.mpr
      ⟨hkeyword, List.pairwise_cons.mpr ⟨htoken', hafter'⟩⟩, List.forall_mem_map.mpr fun b hb => ?_⟩
    have hbt := hcross b hb t List.mem_cons_self
    refine List.forall_mem_cons.mpr ⟨h.le_keywordToken ht hf (hbefore b hb).mem hbt,
      List.forall_mem_cons.mpr ⟨hle (hbefore b hb) htoken hbt, List.forall_mem_map.mpr fun a ha => ?_⟩⟩
    exact hle (hbefore b hb) (hafter a ha) (hcross b hb a (List.mem_cons_of_mem _ ha))
  · rw [children_mend_of_not hm, List.pairwise_map]
    have hall := h.trackedChild_of_not ht hm
    exact hord.imp_of_mem fun hc hc' hcc' => hle (hall _ hc) (hall _ hc') hcc'

lemma takes_mend (h : Mendable source fixes marked n) (ht : Tracked source fixes edge n) {offset : Int}
    (htakes : n.Takes offset) :
    (n.mend fixes marked edge).Takes (Fix.stand fixes n.startByte.toNat) where
  startByte := by rw [startByte_mend, moved_token htakes h.wellFormed ht]
  wide := by
    have hin := h.wellFormed.fits.inside
    rw [startByte_mend, endByte_mend, moved_token htakes h.wellFormed ht]
    exact Fix.stand_lt_moved hd edge hin.1 htakes.wide
  clear m' hm' hfun := by
    have hin := h.wellFormed.fits.inside
    obtain ⟨f', hf'⟩ : ∃ f', m'.function? (Fix.splice fixes source) = some f' := by
      rw [isFunction, Option.isSome_iff_exists] at hfun
      obtain ⟨kind, hkind⟩ := hfun
      rw [function?, hkind]
      exact ⟨_, rfl⟩
    have hmem : f' ∈ (n.mend fixes marked edge).functions (Fix.splice fixes source) :=
      List.mem_filterMap.mpr ⟨m', hm', hf'⟩
    rw [functions_mend hd h ht] at hmem
    obtain ⟨f, hf, rfl⟩ := List.mem_map.mp hmem
    obtain ⟨m, hm, hf⟩ := List.mem_filterMap.mp hf
    have hwithin := h.wellFormed.within hm
    have hne := htakes.clear m hm (isFunction_of_function? hf)
    have hlt := Fix.stand_lt_place hd (show n.startByte.toNat < m.startByte.toNat by omega)
    have hstart : m'.startByte = Fix.place fixes m.startByte.toNat := by
      rw [← (viewed_of_function? hf').startByte, Function.mend, (viewed_of_function? hf).startByte]
    rw [startByte_mend, moved_token htakes h.wellFormed ht, hstart]
    omega

omit hd in
lemma takes_keywordToken (fixes : List Fix) (t : Node) :
    (keywordToken fixes t).Takes (Fix.place fixes t.startByte.toNat) where
  startByte := rfl
  wide := by
    have hstart : (keywordToken fixes t).startByte = Fix.place fixes t.startByte.toNat := rfl
    have hend : (keywordToken fixes t).endByte = Fix.place fixes t.startByte.toNat + 5 := rfl
    omega
  clear m hm hfun := by
    rw [preorder_keywordToken, List.mem_singleton] at hm
    rw [hm] at hfun
    cases hfun

/-- The keyword of a method with a name goes before the name again. -/
lemma token_mend_of_name (h : Mendable source fixes marked n) (ht : Tracked source fixes edge n)
    {f : Function} (hf : n.function? source = some f)
    (hname : n.type = "method_definition" ∧ (n.child? "name").isSome) :
    ∃ t' ∈ (n.mend fixes marked edge).insertionToken?, t'.Takes (f.mend fixes).asyncByte := by
  have hv := viewed_of_function? hf
  have hk := (functionKind?_eq_method_iff hv.kind).mpr hname.1
  obtain ⟨c, hc⟩ := Option.isSome_iff_exists.mp hname.2
  obtain ⟨t, htoken, htakes⟩ := h.wellFormed.fits.token f hf
  rw [Option.mem_def, insertionToken?, if_pos hname.1, hc, Option.some_or] at htoken
  cases htoken
  obtain ⟨e, hc', hmend⟩ := h.child?_eq_some ht hc
  have hbyte : (f.mend fixes).asyncByte = Fix.stand fixes c.startByte.toNat := by
    simp [Function.mend, Function.asyncByte, hv.insertByte, hk, hc]
  refine ⟨c.mend fixes marked e, ?_, hbyte ▸ (h.child hc'.mem).takes_mend hd hc'.tracked htakes⟩
  rw [Option.mem_def, insertionToken?, type_mend, if_pos hname.1, hmend, Option.some_or]

omit hd in
/-- The first child of a marked function without a name is the keyword. -/
lemma head?_children_mend (h : Mendable source fixes marked n) (ht : Tracked source fixes edge n)
    (hm : marked n = true) {f : Function} (hf : n.function? source = some f) {t : Node}
    (htakes : t.Takes f.asyncByte) (hhead : n.children.head? = some t) :
    ∃ u, u.startByte = t.startByte ∧
      (n.mend fixes marked edge).children.head? = some (keywordToken fixes u) := by
  obtain ⟨g, hg, -, u, before, after, hutakes, hcs, hmend, -⟩ := h.trackedChild_of_marked ht hm
  rw [hf] at hg
  cases hg
  have hut : u.startByte = t.startByte := hutakes.startByte.trans htakes.startByte.symm
  cases before with
  | nil =>
    refine ⟨u, hut, ?_⟩
    rw [hmend]
    rfl
  | cons b before =>
    -- the first child would end before its own start
    have hord := h.wellFormed.fits.ordered
    rw [hcs, List.cons_append, List.pairwise_cons] at hord
    rw [hcs] at hhead
    cases hhead
    have := hord.1 u (List.mem_append_right _ List.mem_cons_self)
    have := htakes.wide
    omega

/-- Without a name it goes before the first child, which is the keyword if that went in. -/
lemma token_mend_of_nameless (h : Mendable source fixes marked n) (ht : Tracked source fixes edge n)
    {f : Function} (hf : n.function? source = some f)
    (hname : ¬ (n.type = "method_definition" ∧ (n.child? "name").isSome)) :
    ∃ t' ∈ (n.mend fixes marked edge).insertionToken?, t'.Takes (f.mend fixes).asyncByte := by
  have hv := viewed_of_function? hf
  have hwithin := h.wellFormed.asyncByte_within (self_mem_preorder n) hf
  have hin := h.wellFormed.fits.inside
  obtain ⟨t, htoken, htakes⟩ := h.wellFormed.fits.token f hf
  rw [Option.mem_def, insertionToken?_eq_head? hname] at htoken
  have hinsert : f.insertByte = none := by
    rw [hv.insertByte]
    split
    · next hk => simpa [(functionKind?_eq_method_iff hv.kind).mp hk] using hname
    · rfl
  have hstart : f.asyncByte = n.startByte := by simp [Function.asyncByte, hinsert, hv.startByte]
  have hbyte : (f.mend fixes).asyncByte = Fix.place fixes t.startByte.toNat := by
    rw [htakes.startByte, hstart]
    simp [Function.mend, Function.asyncByte, hinsert, hv.startByte]
  have hnameless : ¬ ((n.mend fixes marked edge).type = "method_definition" ∧
      ((n.mend fixes marked edge).child? "name").isSome) := by
    rw [type_mend]
    rintro ⟨htype, hsome⟩
    refine hname ⟨htype, ?_⟩
    by_contra hnone
    rw [h.child?_eq_none ht (by simpa using hnone)] at hsome
    cases hsome
  rw [insertionToken?_eq_head? hnameless, hbyte]
  by_cases hm : marked n = true
  · obtain ⟨u, hut, hhead⟩ := h.head?_children_mend ht hm hf htakes htoken
    exact ⟨_, hhead, hut ▸ takes_keywordToken fixes u⟩
  · have hmended : f.isMended fixes = false := Bool.eq_false_iff.mpr fun hmended =>
      hm ((h.marked n (self_mem_preorder n)).mpr ⟨f, hf, hmended⟩)
    have hmem := List.mem_of_mem_head? htoken
    have htracked := (h.trackedChild_of_not ht hm t hmem).tracked
    have hstand := Function.stand_asyncByte (by omega) hmended
    rw [← htakes.startByte] at hstand
    refine ⟨t.mend fixes marked edge, ?_, hstand ▸ (h.child hmem).takes_mend hd htracked htakes⟩
    rw [children_mend_of_not hm, List.head?_map, htoken]
    rfl

lemma token_mend (h : Mendable source fixes marked n) (ht : Tracked source fixes edge n) :
    ∀ f' ∈ (n.mend fixes marked edge).function? (Fix.splice fixes source),
      ∃ t' ∈ (n.mend fixes marked edge).insertionToken?, t'.Takes f'.asyncByte := by
  intro f' hf'
  rw [Option.mem_def, h.function?_eq hd ht] at hf'
  obtain ⟨f, hf, rfl⟩ := Option.map_eq_some_iff.mp hf'
  by_cases hname : n.type = "method_definition" ∧ (n.child? "name").isSome
  · exact h.token_mend_of_name hd ht hf hname
  · exact h.token_mend_of_nameless hd ht hf hname

lemma fits_mend (hw : ∀ x ∈ fixes, 5 ≤ x.bytes.length) (h : Mendable source fixes marked n)
    (ht : Tracked source fixes edge n) :
    (n.mend fixes marked edge).Fits (Fix.splice fixes source) where
  inside := inside_mend hd h.wellFormed.fits
  ordered := h.ordered_mend hd hw ht
  enclosed := h.enclosed_mend hd hw ht
  token := h.token_mend hd ht

omit hd in
lemma fits_keywordToken {m : Node} {source' : Bytes} {t : Node} (h : m.Fits source')
    (ht : keywordToken fixes t ∈ m.children) : (keywordToken fixes t).Fits source' where
  inside := by
    have hin := h.inside
    have henc := h.enclosed _ ht
    have hwide := (takes_keywordToken fixes t).wide
    omega
  ordered := by
    rw [children_keywordToken]
    exact List.Pairwise.nil
  enclosed c hc := by
    rw [children_keywordToken] at hc
    cases hc
  token f hf := by
    have hnone : (keywordToken fixes t).function? source' = none := rfl
    rw [hnone] at hf
    cases hf

/-- A mended tree is well-formed over the mended source. -/
lemma wellFormed_mend (hw : ∀ x ∈ fixes, 5 ≤ x.bytes.length) (h : Mendable source fixes marked n)
    (ht : Tracked source fixes edge n) :
    (n.mend fixes marked edge).WellFormed (Fix.splice fixes source) :=
  mem_preorder_mend h ht
    (fun _ _ _ hm htm _ hc => fits_keywordToken (hm.fits_mend hd hw htm) hc)
    fun _ _ _ hm htm => hm.fits_mend hd hw htm

omit hd in
lemma functionFree_iff (source : Bytes) : n.FunctionFree ↔ n.functions source = [] := by
  rw [functions, List.filterMap_eq_nil_iff]
  refine forall₂_congr fun m _ => ?_
  rw [function?, Option.map_eq_none_iff, isFunction, Option.isSome_eq_false_iff, Option.isNone_iff_eq_none]

lemma functionFree_mend (h : Mendable source fixes marked n) (ht : Tracked source fixes edge n)
    (hfree : n.FunctionFree) : (n.mend fixes marked edge).FunctionFree := by
  rw [functionFree_iff (Fix.splice fixes source), functions_mend hd h ht,
    (functionFree_iff source).mp hfree, List.map_nil]

/-- No function comes to stand in a literal or in a name. -/
lemma sealed_mend (h : Mendable source fixes marked n) (ht : Tracked source fixes edge n) :
    (n.mend fixes marked edge).Sealed where
  literal := by
    refine mem_preorder_mend h ht (fun _ _ _ _ _ t _ hl => ?_) fun m _ e hm htm hl => ?_
    · have htype : (keywordToken fixes t).type = "async" := rfl
      simp [IsLiteral, htype] at hl
    · exact hm.functionFree_mend hd htm
        (hm.sealed.literal m (self_mem_preorder m) ((hm.isLiteral_iff htm).mp hl))
  name := by
    refine mem_preorder_mend h ht (fun _ _ _ _ _ t _ hfun => by cases hfun) fun m _ e hm htm hfun c' hc' => ?_
    have hfun : m.isFunction = true := by
      rwa [isFunction, functionKind?, named_mend, type_mend, ← functionKind?, ← isFunction] at hfun
    rw [type_mend]
    rw [← child?_eq_some_iff] at hc'
    cases hc : m.child? "name" with
    | none =>
      rw [hm.child?_eq_none htm hc] at hc'
      cases hc'
    | some c =>
      obtain ⟨e', hce, hmend⟩ := hm.child?_eq_some htm hc
      rw [hmend] at hc'
      cases hc'
      rw [type_mend]
      intro hkey
      exact (hm.child hce.mem).functionFree_mend hd hce.tracked
        (hm.sealed.name m (self_mem_preorder m) hfun c (child?_eq_some_iff.mp hc) hkey)

end Mendable

omit hd

end Node

end AsyncActions
