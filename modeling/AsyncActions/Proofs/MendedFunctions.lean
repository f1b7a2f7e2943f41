import AsyncActions.Proofs.MendedTree

/-!
# Functions of a mended source

The functions that the rule sees in a mended tree, with the new source under it, are those it saw
before: each is async if it was or took the keyword, its places are moved on, and its name and the
first statement of its body are the same.
-/

namespace AsyncActions

attribute [ext] Function

namespace Fix

lemma moved_of_ne {fixes : List Fix} {edge : Option Int} {byte : Int} (h : edge ≠ some byte) :
    moved fixes edge byte = place fixes byte.toNat :=
  if_neg h

/-- What starts at the edge, or where nothing goes in, stands after what goes in there. -/
lemma moved_eq_stand {fixes : List Fix} {edge : Option Int} {byte : Int} (hb : 0 ≤ byte)
    (h : ∀ x ∈ fixes, (x.offset : Int) = byte → edge = some byte) :
    moved fixes edge byte = stand fixes byte.toNat := by
  by_cases he : edge = some byte
  · exact if_pos he
  · rw [moved_of_ne he, stand_eq_place fun x hx hxb => he (h x hx (by omega))]

end Fix

namespace Node

variable {source : Bytes} {fixes : List Fix} {marked : Node → Bool} {edge : Option Int} {n : Node}

lemma startByte_mend : (n.mend fixes marked edge).startByte = Fix.moved fixes edge n.startByte := by
  rw [startByte, extent_mend]
  rfl

lemma endByte_mend : (n.mend fixes marked edge).endByte = Fix.moved fixes edge n.endByte := by
  rw [endByte, extent_mend]
  rfl

lemma startPoint_mend : (n.mend fixes marked edge).startPoint =
    n.startPoint.moved fixes n.startByte (Fix.moved fixes edge n.startByte) := by
  rw [startPoint, extent_mend]
  rfl

lemma endPoint_mend : (n.mend fixes marked edge).endPoint =
    n.endPoint.moved fixes n.endByte (Fix.moved fixes edge n.endByte) := by
  rw [endPoint, extent_mend]
  rfl

/-- What the view of a function is read from. -/
structure Viewed (n : Node) (source : Bytes) (f : Function) : Prop where
  kind : n.functionKind? = some f.kind
  isAsync : f.isAsync = n.hasToken ["async"]
  isGenerator : f.isGenerator =
    (n.type = "generator_function_declaration" || n.type = "generator_function" || n.hasToken ["*"])
  isAccessor : f.isAccessor = (f.kind = .method && n.hasToken ["get", "set"])
  name : f.name =
    if f.kind = .method then (n.child? "name").bind (methodName? source)
    else (n.child? "name").map fun k => String.ofList (k.text source)
  body : f.body = (n.child? "body").bind (block? source)
  startByte : f.startByte = n.startByte
  endByte : f.endByte = n.endByte
  startPoint : f.startPoint = n.startPoint
  endPoint : f.endPoint = n.endPoint
  insertByte : f.insertByte = if f.kind = .method then (n.child? "name").map Node.startByte else none
  insertPoint : f.insertPoint = if f.kind = .method then (n.child? "name").map Node.startPoint else none

lemma viewed_of_function? {f : Function} (h : n.function? source = some f) : n.Viewed source f := by
  obtain ⟨kind, hkind, rfl⟩ := Option.map_eq_some_iff.mp h
  exact ⟨hkind, rfl, rfl, rfl, rfl, rfl, rfl, rfl, rfl, rfl, rfl, rfl⟩

/-- A node without functions keeps its text. -/
lemma text_mend (hd : fixes.Pairwise (·.offset ≠ ·.offset)) (hfit : n.Fits source)
    (ht : Tracked source fixes edge n) (hfree : n.FunctionFree) :
    (n.mend fixes marked edge).text (Fix.splice fixes source) = n.text source := by
  have haside : ∀ x ∈ fixes, n.Aside edge x.offset := fun x hx => by
    rcases ht.fixes x hx with h | ⟨m, hm, f, hf, -⟩
    · exact h
    · have hfun := isFunction_of_function? hf
      rw [hfree m hm] at hfun
      cases hfun
  have hin := hfit.inside
  obtain ⟨s, hs⟩ := Int.eq_ofNat_of_zero_le hin.1
  obtain ⟨e, he⟩ := Int.eq_ofNat_of_zero_le (Int.le_trans hin.1 hin.2.1)
  rw [text, text, startByte_mend, endByte_mend]
  -- an empty node has no text wherever it stands
  rcases Int.lt_or_eq_of_le hin.2.1 with hlt | heq
  · have hstart : Fix.moved fixes edge n.startByte = Fix.stand fixes s := by
      rw [Fix.moved_eq_stand hin.1 fun x hx hxs => ?_, hs, Int.toNat_natCast]
      rcases haside x hx with h | h | ⟨-, h⟩
      · omega
      · omega
      · rw [h, hxs]
    have hend : Fix.moved fixes edge n.endByte = Fix.place fixes e := by
      rw [Fix.moved_of_ne fun h => ?_, he, Int.toNat_natCast]
      have := ht.edge_le n.endByte h
      omega
    have hclear : ∀ x ∈ fixes, x.offset ≤ s ∨ e ≤ x.offset := fun x hx => by
      rcases haside x hx with h | h | ⟨h, -⟩ <;> omega
    rw [hstart, hend, hs, he, Fix.slice_splice hd (by omega) (by omega) hclear]
  · rw [← heq, Bytes.slice_self, Bytes.slice_self]

namespace Mendable

lemma child?_eq_some (h : Mendable source fixes marked n) (ht : Tracked source fixes edge n)
    {role : String} {c : Node} (hc : n.child? role = some c) :
    ∃ e, TrackedChild source fixes n edge e c ∧
      (n.mend fixes marked edge).child? role = some (c.mend fixes marked e) :=
  (h.beside_children ht).find?_eq_some (fun _ => rfl) (fun _ _ => by rw [field_mend]) hc

lemma child?_eq_none (h : Mendable source fixes marked n) (ht : Tracked source fixes edge n)
    {role : String} (hc : n.child? role = none) : (n.mend fixes marked edge).child? role = none :=
  (h.beside_children ht).find?_eq_none (fun _ => rfl) (fun _ _ => by rw [field_mend]) hc

lemma firstStatement?_eq_some (h : Mendable source fixes marked n) (ht : Tracked source fixes edge n)
    {c : Node} (hc : n.firstStatement? = some c) :
    ∃ e, TrackedChild source fixes n edge e c ∧
      (n.mend fixes marked edge).firstStatement? = some (c.mend fixes marked e) := by
  rw [firstStatement?_eq_find?] at hc
  rw [firstStatement?_eq_find?]
  exact (h.beside_children ht).find?_eq_some (fun _ => rfl) (fun _ _ => by simp [isComment]) hc

lemma firstStatement?_eq_none (h : Mendable source fixes marked n) (ht : Tracked source fixes edge n)
    (hc : n.firstStatement? = none) : (n.mend fixes marked edge).firstStatement? = none := by
  rw [firstStatement?_eq_find?] at hc
  rw [firstStatement?_eq_find?]
  exact (h.beside_children ht).find?_eq_none (fun _ => rfl) (fun _ _ => by simp [isComment]) hc

lemma namedChildren_any_eq (h : Mendable source fixes marked n) (ht : Tracked source fixes edge n)
    (type : String) : (n.mend fixes marked edge).namedChildren.any (·.type = type) =
      n.namedChildren.any (·.type = type) := by
  rw [namedChildren, namedChildren, List.any_filter, List.any_filter]
  exact (h.beside_children ht).any_eq (fun _ => rfl) fun _ _ => by simp

lemma isLiteral_iff (h : Mendable source fixes marked n) (ht : Tracked source fixes edge n) :
    (n.mend fixes marked edge).IsLiteral ↔ n.IsLiteral := by
  rw [Node.isLiteral_iff, Node.isLiteral_iff, type_mend, h.namedChildren_any_eq ht]

/-- The only keyword that a node gains is its own. -/
lemma hasToken_eq (h : Mendable source fixes marked n) (words : List String) :
    (n.mend fixes marked edge).hasToken words =
      (n.hasToken words || marked n && words.contains "async") := by
  have hsame (e : Option Int) : (fun c : Node => !c.named && words.contains c.type) ∘ mend fixes marked e =
      fun c => !c.named && words.contains c.type := by
    funext c
    simp
  by_cases hm : marked n = true
  · obtain ⟨f, -, -, t, -, before, after, hcs, hit, hb⟩ := h.token_of_marked hm
    have hkeyword : (!(keywordToken fixes t).named && words.contains (keywordToken fixes t).type) =
        words.contains "async" := rfl
    rw [hasToken, children_mend_of_marked hm hcs hb hit, hasToken, hcs, List.any_append, List.any_append,
      List.any_map, hsame, List.any_cons, List.any_cons, List.any_cons, List.any_map, hsame, hkeyword,
      named_mend, type_mend, hm]
    simp only [Bool.true_and]
    ac_rfl
  · rw [hasToken, children_mend_of_not hm, List.any_map, hsame, hasToken]
    simp [hm]

variable (hd : fixes.Pairwise (·.offset ≠ ·.offset))

include hd

lemma literalValue?_eq (h : Mendable source fixes marked n) (ht : Tracked source fixes edge n) :
    (n.mend fixes marked edge).literalValue? (Fix.splice fixes source) = n.literalValue? source := by
  unfold literalValue?
  rw [type_mend, h.namedChildren_any_eq ht]
  split
  · next hl =>
    have hfree := h.sealed.literal n (self_mem_preorder n) (Node.isLiteral_iff.mpr hl)
    rw [text_mend hd h.wellFormed.fits ht hfree]
  · rfl

lemma statement_eq (h : Mendable source fixes marked n) (ht : Tracked source fixes edge n) :
    (n.mend fixes marked edge).statement (Fix.splice fixes source) = n.statement source := by
  unfold statement
  rw [type_mend]
  split
  · cases hc : n.firstStatement? with
    | none => rw [h.firstStatement?_eq_none ht hc]
    | some c =>
      obtain ⟨e, hc', hmend⟩ := h.firstStatement?_eq_some ht hc
      simp only [hmend, type_mend, (h.child hc'.mem).literalValue?_eq hd hc'.tracked]
  · rfl

lemma block?_eq (h : Mendable source fixes marked n) (ht : Tracked source fixes edge n) :
    (n.mend fixes marked edge).block? (Fix.splice fixes source) = n.block? source := by
  unfold block?
  rw [type_mend]
  split
  · cases hc : n.firstStatement? with
    | none => rw [h.firstStatement?_eq_none ht hc]; rfl
    | some c =>
      obtain ⟨e, hc', hmend⟩ := h.firstStatement?_eq_some ht hc
      rw [hmend, Option.map_some, Option.map_some, (h.child hc'.mem).statement_eq hd hc'.tracked]
  · rfl

/-! ### The view of a function -/

/-- The name stays: what gives it holds no function. -/
lemma name_eq (h : Mendable source fixes marked n) (ht : Tracked source fixes edge n) {f f' : Function}
    (hf : n.Viewed source f)
    (hf' : (n.mend fixes marked edge).Viewed (Fix.splice fixes source) f') (hkind : f'.kind = f.kind) :
    f'.name = f.name := by
  have hfun : n.isFunction = true := by
    rw [isFunction, hf.kind]
    rfl
  rw [hf.name, hf'.name, hkind]
  cases hc : n.child? "name" with
  | none => rw [h.child?_eq_none ht hc]; rfl
  | some c =>
    obtain ⟨e, ⟨hmem, -, hc'⟩, hmend⟩ := h.child?_eq_some ht hc
    have htext (hkey : n.type = "method_definition" → c.type ∈ keyTypes) :
        (c.mend fixes marked e).text (Fix.splice fixes source) = c.text source :=
      text_mend hd (h.child hmem).wellFormed.fits hc'
        (h.sealed.name n (self_mem_preorder n) hfun c (child?_eq_some_iff.mp hc) hkey)
    rw [hmend]
    by_cases hk : f.kind = .method
    · rw [if_pos hk, if_pos hk, Option.bind_some, Option.bind_some, methodName?, methodName?, type_mend]
      by_cases hkey : c.type = "property_identifier" ∨ c.type = "private_property_identifier"
      · rw [if_pos hkey, if_pos hkey, htext fun _ => by simpa [keyTypes] using hkey]
      · rw [if_neg hkey, if_neg hkey]
    · rw [if_neg hk, if_neg hk, Option.map_some, Option.map_some,
        htext fun ht => absurd ((functionKind?_eq_method_iff hf.kind).mpr ht) hk]

lemma body_eq (h : Mendable source fixes marked n) (ht : Tracked source fixes edge n) :
    ((n.mend fixes marked edge).child? "body").bind (block? (Fix.splice fixes source)) =
      (n.child? "body").bind (block? source) := by
  cases hc : n.child? "body" with
  | none => rw [h.child?_eq_none ht hc]; rfl
  | some c =>
    obtain ⟨e, ⟨hmem, -, hc'⟩, hmend⟩ := h.child?_eq_some ht hc
    rw [hmend]
    exact (h.child hmem).block?_eq hd hc'

omit hd

/-- The token of a function starts after the keyword, whether or not it goes in. -/
lemma moved_token {t : Node} {offset : Int} (htakes : t.Takes offset) (hwf : t.WellFormed source)
    (ht : Tracked source fixes edge t) :
    Fix.moved fixes edge t.startByte = Fix.stand fixes t.startByte.toNat := by
  refine Fix.moved_eq_stand hwf.fits.inside.1 fun x hx hxs => ?_
  have hwide := htakes.wide
  rcases ht.fixes x hx with (h | h | ⟨-, h⟩) | ⟨m, hm, f, hf, hb⟩
  · omega
  · omega
  · rw [h, hxs]
  · have hin := hwf.within hm
    have hself := (hwf.below hm).asyncByte_within (self_mem_preorder m) hf
    have hne := htakes.clear m hm (isFunction_of_function? hf)
    omega

lemma insert_eq (h : Mendable source fixes marked n) (ht : Tracked source fixes edge n) {f f' : Function}
    (hf : n.function? source = some f)
    (hf' : (n.mend fixes marked edge).Viewed (Fix.splice fixes source) f') (hkind : f'.kind = f.kind) :
    f'.insertByte = (f.mend fixes).insertByte ∧ f'.insertPoint = (f.mend fixes).insertPoint := by
  have hv := viewed_of_function? hf
  rw [hf'.insertByte, hf'.insertPoint, Function.mend, hv.insertByte, hv.insertPoint, hkind]
  by_cases hk : f.kind = .method
  · simp only [if_pos hk]
    cases hc : n.child? "name" with
    | none =>
      rw [h.child?_eq_none ht hc]
      exact ⟨rfl, rfl⟩
    | some c =>
      obtain ⟨e, ⟨hmem, -, hc'⟩, hmend⟩ := h.child?_eq_some ht hc
      obtain ⟨t, htoken, htakes⟩ := h.wellFormed.fits.token f hf
      rw [Option.mem_def, insertionToken?, if_pos ((functionKind?_eq_method_iff hv.kind).mp hk), hc,
        Option.some_or] at htoken
      cases htoken
      have hmoved := moved_token htakes (h.child hmem).wellFormed hc'
      rw [hmend]
      simp only [Option.map_some, startByte_mend, startPoint_mend, hmoved, ← htakes.startByte, and_self]
  · simp only [if_neg hk]
    exact ⟨rfl, rfl⟩

include hd

lemma function?_eq (h : Mendable source fixes marked n) (ht : Tracked source fixes edge n) :
    (n.mend fixes marked edge).function? (Fix.splice fixes source) =
      (n.function? source).map (Function.mend fixes) := by
  have hkind : (n.mend fixes marked edge).functionKind? = n.functionKind? := by
    rw [functionKind?, named_mend, type_mend, functionKind?]
  cases hf : n.function? source with
  | none =>
    rw [function?, Option.map_eq_none_iff] at hf
    rw [function?, hkind, hf]
    rfl
  | some f =>
    have hv := viewed_of_function? hf
    obtain ⟨f', hf'⟩ : ∃ f', (n.mend fixes marked edge).function? (Fix.splice fixes source) = some f' := by
      rw [function?, hkind, hv.kind]
      exact ⟨_, rfl⟩
    have hv' := viewed_of_function? hf'
    have hk : f'.kind = f.kind := Option.some.inj (hv'.kind.symm.trans (hkind.trans hv.kind))
    have hmarked : marked n = f.isMended fixes := by
      rw [Bool.eq_iff_iff, h.marked n (self_mem_preorder n)]
      simp only [hf, Option.some.injEq, exists_eq_left']
    have hwithin := h.wellFormed.asyncByte_within (self_mem_preorder n) hf
    have hstart : Fix.moved fixes edge n.startByte = Fix.place fixes n.startByte.toNat :=
      Fix.moved_of_ne fun he =>
        ht.edge_clear _ he n (self_mem_preorder n) (isFunction_of_function? hf) rfl
    have hend : Fix.moved fixes edge n.endByte = Fix.place fixes n.endByte.toNat :=
      Fix.moved_of_ne fun he => by
        have := ht.edge_le _ he
        omega
    rw [hf', Option.map_some]
    refine congrArg some (Function.ext hk ?_ ?_ ?_ ?_ ?_ ?_ ?_ ?_ ?_ ?_ ?_)
    · rw [hv'.isAsync, h.hasToken_eq, hmarked, Function.mend, hv.isAsync]
      simp
    · rw [hv'.isGenerator, h.hasToken_eq, type_mend, Function.mend, hv.isGenerator]
      simp
    · rw [hv'.isAccessor, h.hasToken_eq, hk, Function.mend, hv.isAccessor]
      simp
    · have hname := h.name_eq hd ht hv hv' hk
      exact hname
    · rw [hv'.body, h.body_eq hd ht, Function.mend, hv.body]
    · rw [hv'.startByte, startByte_mend, hstart, Function.mend, hv.startByte]
    · rw [hv'.endByte, endByte_mend, hend, Function.mend, hv.endByte]
    · rw [hv'.startPoint, startPoint_mend, hstart, Function.mend, hv.startPoint, hv.startByte]
    · rw [hv'.endPoint, endPoint_mend, hend, Function.mend, hv.endPoint, hv.endByte]
    · exact (h.insert_eq ht hf hv' hk).1
    · exact (h.insert_eq ht hf hv' hk).2

end Mendable

lemma functions_keywordToken (source : Bytes) (t : Node) : (keywordToken fixes t).functions source = [] := rfl

lemma Beside.functions_eq {source' : Bytes} {P : Option Int → Node → Prop} {g : Function → Function}
    {cs cs' : List Node} (h : Beside fixes marked P cs cs')
    (hP : ∀ e c, P e c → (c.mend fixes marked e).functions source' = (c.functions source).map g) :
    cs'.flatMap (functions source') = (cs.flatMap (functions source)).map g := by
  induction h with
  | nil => rfl
  | node hc _ ih =>
    rw [List.flatMap_cons, List.flatMap_cons, List.map_append, hP _ _ hc, ih]
  | keyword _ ih => rw [List.flatMap_cons, functions_keywordToken, ih, List.nil_append]

/-- The functions of the mended tree are those of the tree, one for one and in the same order. -/
lemma functions_mend (hd : fixes.Pairwise (·.offset ≠ ·.offset)) (h : Mendable source fixes marked n)
    (ht : Tracked source fixes edge n) :
    (n.mend fixes marked edge).functions (Fix.splice fixes source) =
      (n.functions source).map (Function.mend fixes) := by
  induction n using induction_children generalizing edge with
  | step n ih =>
    have hchildren := (h.beside_children ht).functions_eq fun e c hc =>
      ih c hc.mem (h.child hc.mem) hc.tracked
    rw [functions_eq, functions_eq, hchildren, h.function?_eq hd ht, List.map_append]
    cases n.function? source <;> rfl

end Node

namespace Function

/-! ### What the rule makes of them -/

variable {fixes : List Fix} {f : Function}

/-- A function is still reported if it has not been mended. -/
lemma isSyncAction_mend : (f.mend fixes).isSyncAction = (f.isSyncAction && !f.isMended fixes) := by
  have hdirective : (f.mend fixes).hasDirective = f.hasDirective := rfl
  rw [isSyncAction, hdirective, isSyncAction]
  simp only [mend, Bool.not_or]
  ac_rfl

lemma stand_asyncByte (hb : 0 ≤ f.asyncByte) (h : f.isMended fixes = false) :
    Fix.stand fixes f.asyncByte.toNat = Fix.place fixes f.asyncByte.toNat := by
  refine Fix.stand_eq_place fun x hx hxb => ?_
  have hne := List.any_eq_false.mp h x hx
  simp only [decide_eq_true_eq] at hne
  omega

/-- What is not mended moves as all bytes do. -/
lemma asyncByte_mend (hb : 0 ≤ f.asyncByte) (h : f.isMended fixes = false) :
    (f.mend fixes).asyncByte = Fix.place fixes f.asyncByte.toNat := by
  have hstand := stand_asyncByte hb h
  cases hi : f.insertByte with
  | none => simp [mend, asyncByte, hi]
  | some b =>
    have hbyte : f.asyncByte = b := by simp [asyncByte, hi]
    rw [hbyte] at hstand ⊢
    simp [mend, asyncByte, hi, hstand]

end Function

end AsyncActions
