import AsyncActions.Proofs.InsertionPoints

/-!
# What of a tree is read

Little of a tree goes into the view of a function: its own tokens, its name, and the first statement of its block
with the literal in that. Comments are passed over wherever they stand, and so is all that comes after the first
statement. So both may change, and what the rule says about each function stays the same.
-/

namespace AsyncActions

namespace Node

/-- Type, role and place of the two nodes are the same. -/
structure SameHead (n n' : Node) : Prop where
  type : n'.type = n.type
  named : n'.named = n.named
  field : n'.field = n.field
  extent : n'.extent = n.extent

/-- A comment with nothing in it, that has no role. -/
structure IsRemark (n : Node) : Prop where
  type : n.type ∈ commentTypes
  named : n.named = true
  field : n.field = none
  children : n.children = []

/-- The same nodes, with remarks put in and taken out between them and anywhere below. -/
inductive Remarked : List Node → List Node → Prop
  | nil : Remarked [] []
  | node {type : String} {named : Bool} {field : Option String} {extent : Extent}
      {inner inner' cs cs' : List Node} : Remarked inner inner' → Remarked cs cs' →
        Remarked (mk type named field extent inner :: cs) (mk type named field extent inner' :: cs')
  | putIn {r : Node} {cs cs' : List Node} : r.IsRemark → Remarked cs cs' → Remarked cs (r :: cs')
  | takenOut {r : Node} {cs cs' : List Node} : r.IsRemark → Remarked cs cs' → Remarked (r :: cs) cs'
  | trans {cs cs' cs'' : List Node} : Remarked cs cs' → Remarked cs' cs'' → Remarked cs cs''

/-- The trees differ in remarks only. -/
structure Commented (n n' : Node) : Prop extends SameHead n n' where
  children : Remarked n.children n'.children

/-- The body of the node is a block in which `rest` follows the first statement. The other node is the same
with `rest'` in that place, where the block may end elsewhere. -/
inductive Continued (first : Node) (rest rest' : List Node) : Node → Node → Prop
  | intro {type : String} {named : Bool} {field : Option String} {extent place place' : Extent}
      {isNamed : Bool} {before after lead : List Node} :
      (∀ b ∈ before, ¬ b.InRole "body") → (∀ c ∈ lead, ¬ c.IsContent) → first.IsContent →
        Continued first rest rest'
          (mk type named field extent (before ++
            mk "statement_block" isNamed (some "body") place (lead ++ first :: rest) :: after))
          (mk type named field extent (before ++
            mk "statement_block" isNamed (some "body") place' (lead ++ first :: rest') :: after))

/-- The second tree is the first with `n'` at a place where `n` was. -/
inductive Replaced (n n' : Node) : Node → Node → Prop
  | here : Replaced n n' n n'
  | inside {type : String} {named : Bool} {field : Option String} {extent : Extent} {c c' : Node}
      {before after : List Node} : Replaced n n' c c' →
        Replaced n n' (mk type named field extent (before ++ c :: after))
          (mk type named field extent (before ++ c' :: after))

/-- Nothing that is read of a node from above tells the two apart. -/
structure Alike (source : Bytes) (n n' : Node) : Prop extends SameHead n n' where
  literalValue : n'.literalValue? source = n.literalValue? source
  statement : n'.statement source = n.statement source
  block : n'.block? source = n.block? source

/-- Nothing is found twice, or two nodes that are alike. -/
def SameFound (source : Bytes) (found found' : Option Node) : Prop :=
  found = none ∧ found' = none ∨ ∃ c c', found = some c ∧ found' = some c' ∧ Alike source c c'

/-- Whatever is looked for among these nodes that is not a remark, the same is found among those. -/
def Seen (source : Bytes) (cs cs' : List Node) : Prop :=
  ∀ p : Node → Bool, (∀ c c', Alike source c c' → p c' = p c) → (∀ r, IsRemark r → p r = false) →
    SameFound source (cs.find? p) (cs'.find? p)

variable {source : Bytes} {n n' : Node} {cs cs' : List Node}

lemma SameHead.text (h : SameHead n n') : n'.text source = n.text source := by
  rw [Node.text, Node.text, startByte, startByte, endByte, endByte, h.extent]

lemma Alike.refl (source : Bytes) (n : Node) : Alike source n n :=
  ⟨⟨rfl, rfl, rfl, rfl⟩, rfl, rfl, rfl⟩

lemma Alike.trans {n'' : Node} (h : Alike source n n') (h' : Alike source n' n'') : Alike source n n'' where
  type := h'.type.trans h.type
  named := h'.named.trans h.named
  field := h'.field.trans h.field
  extent := h'.extent.trans h.extent
  literalValue := h'.literalValue.trans h.literalValue
  statement := h'.statement.trans h.statement
  block := h'.block.trans h.block

lemma SameFound.refl (source : Bytes) (found : Option Node) : SameFound source found found := by
  cases found with
  | none => exact Or.inl ⟨rfl, rfl⟩
  | some c => exact Or.inr ⟨c, c, rfl, rfl, Alike.refl source c⟩

lemma SameFound.trans {found found' found'' : Option Node} (h : SameFound source found found')
    (h' : SameFound source found' found'') : SameFound source found found'' := by
  rcases h with ⟨hnone, hnone'⟩ | ⟨c, c', hc, hc', hcc⟩
  · rcases h' with ⟨-, hnone''⟩ | ⟨d, -, hd, -, -⟩
    · exact Or.inl ⟨hnone, hnone''⟩
    · rw [hnone'] at hd
      cases hd
  · rcases h' with ⟨hnone', -⟩ | ⟨d, d', hd, hd', hdd⟩
    · rw [hc'] at hnone'
      cases hnone'
    · rw [hc'] at hd
      cases hd
      exact Or.inr ⟨c, d', hc, hd', hcc.trans hdd⟩

lemma IsRemark.isComment {r : Node} (h : r.IsRemark) : r.isComment = true := by
  simpa [Node.isComment, commentTypes] using h.type

/-- The view of a function is read from its head, its tokens, its name and its block. -/
lemma function?_congr (h : SameHead n n') (htoken : ∀ words, n'.hasToken words = n.hasToken words)
    (hname : SameFound source (n.child? "name") (n'.child? "name"))
    (hbody : (n'.child? "body").bind (block? source) = (n.child? "body").bind (block? source)) :
    n'.function? source = n.function? source := by
  have hkind : n'.functionKind? = n.functionKind? := by
    rw [functionKind?, functionKind?, h.named, h.type]
  have hmethod : (n'.child? "name").bind (methodName? source) = (n.child? "name").bind (methodName? source) := by
    rcases hname with ⟨hnone, hnone'⟩ | ⟨c, c', hc, hc', hcc⟩
    · rw [hnone, hnone']
    · rw [hc, hc', Option.bind_some, Option.bind_some, methodName?, methodName?, hcc.type, hcc.text]
  have hmap {α : Type} (g : Node → α) (hg : ∀ c c', SameHead c c' → g c' = g c) :
      (n'.child? "name").map g = (n.child? "name").map g := by
    rcases hname with ⟨hnone, hnone'⟩ | ⟨c, c', hc, hc', hcc⟩
    · rw [hnone, hnone']
    · rw [hc, hc', Option.map_some, Option.map_some, hg c c' hcc.toSameHead]
  have hkey := hmap (fun k => String.ofList (k.text source)) fun c c' hcc => by rw [hcc.text]
  have hbyte := hmap startByte fun c c' hcc => by rw [startByte, startByte, hcc.extent]
  have hpoint := hmap startPoint fun c c' hcc => by rw [startPoint, startPoint, hcc.extent]
  have hstart : n'.startByte = n.startByte := by rw [startByte, startByte, h.extent]
  have hend : n'.endByte = n.endByte := by rw [endByte, endByte, h.extent]
  have hfrom : n'.startPoint = n.startPoint := by rw [startPoint, startPoint, h.extent]
  have hto : n'.endPoint = n.endPoint := by rw [endPoint, endPoint, h.extent]
  simp only [function?, hkind, htoken, hmethod, hkey, hbody, hbyte, hpoint, h.type, hstart, hend, hfrom, hto]

namespace Seen

lemma trans {cs'' : List Node} (h : Seen source cs cs') (h' : Seen source cs' cs'') : Seen source cs cs'' :=
  fun p hp hr => (h p hp hr).trans (h' p hp hr)

lemma any_eq (h : Seen source cs cs') {p : Node → Bool} (hp : ∀ c c', Alike source c c' → p c' = p c)
    (hr : ∀ r, IsRemark r → p r = false) : cs'.any p = cs.any p := by
  rw [← List.isSome_find?, ← List.isSome_find?]
  rcases h p hp hr with ⟨hnone, hnone'⟩ | ⟨c, c', hc, hc', -⟩
  · rw [hnone, hnone']
  · rw [hc, hc']
    rfl

lemma child? (h : Seen source n.children n'.children) (role : String) :
    SameFound source (n.child? role) (n'.child? role) := by
  refine h _ (fun c c' hc => ?_) fun r hr => ?_
  · rw [hc.field]
  · rw [hr.field]
    rfl

lemma firstStatement? (h : Seen source n.children n'.children) :
    SameFound source n.firstStatement? n'.firstStatement? := by
  rw [firstStatement?_eq_find?, firstStatement?_eq_find?]
  refine h _ (fun c c' hc => ?_) fun r hr => ?_
  · rw [isComment, isComment, hc.named, hc.type]
  · rw [hr.named, hr.isComment]
    rfl

lemma hasToken_eq (h : Seen source n.children n'.children) (words : List String) :
    n'.hasToken words = n.hasToken words := by
  refine h.any_eq (fun c c' hc => ?_) fun r hr => ?_
  · rw [hc.named, hc.type]
  · rw [hr.named]
    rfl

lemma substitution_eq (h : Seen source n.children n'.children) :
    (n'.namedChildren.any fun c => c.type = "template_substitution") =
      n.namedChildren.any fun c => c.type = "template_substitution" := by
  rw [namedChildren, namedChildren, List.any_filter, List.any_filter]
  refine h.any_eq (fun c c' hc => ?_) fun r hr => ?_
  · rw [hc.named, hc.type]
  · have hne : r.type ≠ "template_substitution" := by
      intro htype
      have hcomment := hr.type
      rw [htype] at hcomment
      exact absurd hcomment (by decide)
    simp [hne]

lemma alike (h : Seen source n.children n'.children) (hhead : SameHead n n') : Alike source n n' where
  toSameHead := hhead
  literalValue := by
    rw [literalValue?, literalValue?, h.substitution_eq, hhead.type, hhead.text]
  statement := by
    rw [Node.statement, Node.statement, hhead.type]
    rcases h.firstStatement? with ⟨hnone, hnone'⟩ | ⟨c, c', hc, hc', hcc⟩
    · rw [hnone, hnone']
    · rw [hc, hc']
      simp only [hcc.type, hcc.literalValue]
  block := by
    rw [block?, block?, hhead.type]
    rcases h.firstStatement? with ⟨hnone, hnone'⟩ | ⟨c, c', hc, hc', hcc⟩
    · rw [hnone, hnone']
    · rw [hc, hc', Option.map_some, Option.map_some, hcc.statement]

lemma function?_eq (h : Seen source n.children n'.children) (hhead : SameHead n n') :
    n'.function? source = n.function? source := by
  refine function?_congr hhead h.hasToken_eq (h.child? "name") ?_
  rcases h.child? "body" with ⟨hnone, hnone'⟩ | ⟨c, c', hc, hc', hcc⟩
  · rw [hnone, hnone']
  · rw [hc, hc']
    exact hcc.block

end Seen

lemma IsRemark.functions_eq {r : Node} (h : r.IsRemark) : r.functions source = [] := by
  have hnone : r.function? source = none := by
    by_contra hsome
    have htype := (function?_isSome_iff.mp (Option.isSome_iff_ne_none.mpr hsome)).2
    have hcomment := h.type
    simp only [commentTypes, List.mem_cons, List.not_mem_nil, or_false] at hcomment
    rcases hcomment with hcomment | hcomment
    · rw [hcomment] at htype
      exact absurd htype (by decide)
    · rw [hcomment] at htype
      exact absurd htype (by decide)
  rw [Node.functions_eq, hnone, h.children]
  rfl

namespace Remarked

lemma refl_of_children {cs : List Node} (h : ∀ c ∈ cs, Remarked c.children c.children) : Remarked cs cs := by
  induction cs with
  | nil => exact .nil
  | cons c cs ih =>
    cases c with
    | mk type named field extent inner =>
      exact .node (h _ List.mem_cons_self) (ih fun d hd => h d (List.mem_cons_of_mem _ hd))

lemma refl (cs : List Node) : Remarked cs cs := by
  have hnode (n : Node) : Remarked n.children n.children := by
    induction n using induction_children with
    | step n ih => exact refl_of_children ih
  exact refl_of_children fun c _ => hnode c

lemma seen (source : Bytes) (h : Remarked cs cs') : Seen source cs cs' := by
  induction h with
  | nil => exact fun p _ _ => SameFound.refl source none
  | @node type named field extent inner inner' cs cs' _ _ ihinner ih =>
    intro p hp hr
    have hhead : SameHead (mk type named field extent inner) (mk type named field extent inner') :=
      ⟨rfl, rfl, rfl, rfl⟩
    have halike : Alike source _ _ := ihinner.alike hhead
    -- what is looked for cannot tell the two heads apart, so it is either here twice or further on
    have hpeq := hp _ _ halike
    rw [List.find?_cons, List.find?_cons, hpeq]
    cases p (mk type named field extent inner) with
    | true => exact Or.inr ⟨_, _, rfl, rfl, halike⟩
    | false => exact ih p hp hr
  | putIn hremark _ ih =>
    intro p hp hr
    rw [List.find?_cons_of_neg (by simp [hr _ hremark])]
    exact ih p hp hr
  | takenOut hremark _ ih =>
    intro p hp hr
    rw [List.find?_cons_of_neg (by simp [hr _ hremark])]
    exact ih p hp hr
  | trans _ _ ih ih' => exact ih.trans ih'

lemma functions_eq (source : Bytes) (h : Remarked cs cs') :
    cs'.flatMap (functions source) = cs.flatMap (functions source) := by
  induction h with
  | nil => rfl
  | @node type named field extent inner inner' cs cs' hinner _ ihinner ih =>
    have hhead : SameHead (mk type named field extent inner) (mk type named field extent inner') :=
      ⟨rfl, rfl, rfl, rfl⟩
    have hview := Seen.function?_eq (hinner.seen source) hhead
    rw [List.flatMap_cons, List.flatMap_cons, ih, Node.functions_eq, Node.functions_eq source (mk ..), hview]
    simp only [Node.children, ihinner]
  | putIn hremark _ ih => rw [List.flatMap_cons, hremark.functions_eq, List.nil_append, ih]
  | takenOut hremark _ ih => rw [List.flatMap_cons, hremark.functions_eq, List.nil_append, ih]
  | trans _ _ ih ih' => exact ih'.trans ih

end Remarked

lemma Commented.functions_eq (source : Bytes) (h : Commented n n') : n'.functions source = n.functions source := by
  have hview := Seen.function?_eq (h.children.seen source) h.toSameHead
  rw [Node.functions_eq, Node.functions_eq source n, hview, h.children.functions_eq source]

/-! ### What follows the first statement -/

namespace Continued

variable {first : Node} {rest rest' : List Node}

lemma sameHead (h : Continued first rest rest' n n') : SameHead n n' := by
  cases h with
  | intro _ _ _ => exact ⟨rfl, rfl, rfl, rfl⟩

lemma exists_block (h : Continued first rest rest' n n') : ∃ b b', n.child? "body" = some b ∧
    n'.child? "body" = some b' ∧ b.type = "statement_block" ∧ b'.type = "statement_block" ∧
    b.firstStatement? = some first ∧ b'.firstStatement? = some first := by
  cases h with
  | @intro _ _ _ _ _ _ _ before after lead hbefore hlead hfirst =>
    refine ⟨_, _, child?_eq_some_iff.mpr ⟨before, after, rfl, rfl, hbefore⟩,
      child?_eq_some_iff.mpr ⟨before, after, rfl, rfl, hbefore⟩, rfl, rfl, ?_, ?_⟩
    · exact firstStatement?_eq_some_iff.mpr ⟨lead, rest, rfl, hfirst, hlead⟩
    · exact firstStatement?_eq_some_iff.mpr ⟨lead, rest', rfl, hfirst, hlead⟩

lemma function?_eq (h : Continued first rest rest' n n') : n'.function? source = n.function? source := by
  refine function?_congr h.sameHead (fun words => ?_) ?_ ?_
  · cases h with
    | intro _ _ _ => simp [hasToken, Node.children, Node.named, Node.type]
  · have hname : n'.child? "name" = n.child? "name" := by
      cases h with
      | intro _ _ _ => simp [child?, Node.children, List.find?_append, Node.field]
    rw [hname]
    exact SameFound.refl source _
  · obtain ⟨b, b', hb, hb', hblock, hblock', hfirst, hfirst'⟩ := h.exists_block
    rw [hb, hb', Option.bind_some, Option.bind_some, block?, block?, if_pos hblock, if_pos hblock', hfirst, hfirst']

lemma alike (h : Continued first rest rest' n n') (hn : n.isFunction = true) : Alike source n n' := by
  have hhead := h.sameHead
  -- a function is no literal, no statement of an expression and no block, so nothing below it is looked at
  have htype : n.type ∈ functionTypes := by
    rw [isFunction, functionKind?] at hn
    split at hn
    · exact (ofType?_isSome_iff _).mp hn
    · cases hn
  have hne (type : String) (ht : type ∉ functionTypes) : n.type ≠ type := fun he => ht (he ▸ htype)
  have hstring := hne "string" (by decide)
  have htemplate := hne "template_string" (by decide)
  have hexpression := hne "expression_statement" (by decide)
  have hblock := hne "statement_block" (by decide)
  refine ⟨hhead, ?_, ?_, ?_⟩
  · simp [literalValue?, hhead.type, hstring, htemplate]
  · simp [Node.statement, hhead.type, hexpression]
  · simp [block?, hhead.type, hblock]

lemma functions_eq (h : Continued first rest rest' n n') {f : Function} (hf : n.function? source = some f) :
    ∃ before after, f ∈ before ∧
      n.functions source = before ++ rest.flatMap (functions source) ++ after ∧
      n'.functions source = before ++ rest'.flatMap (functions source) ++ after := by
  have hf' : n'.function? source = some f := h.function?_eq.trans hf
  rw [Node.functions_eq, Node.functions_eq source n', hf, hf']
  cases h with
  | @intro type named field extent place place' isNamed before after lead _ _ _ =>
    -- the block is no function itself, so its functions are those of its children
    have hblock (place : Extent) (rest : List Node) :
        (mk "statement_block" isNamed (some "body") place (lead ++ first :: rest)).functions source =
          lead.flatMap (functions source) ++ first.functions source ++ rest.flatMap (functions source) := by
      have hnone : (mk "statement_block" isNamed (some "body") place (lead ++ first :: rest)).function? source =
          none := by
        cases isNamed <;> rfl
      rw [Node.functions_eq, hnone]
      simp [Node.children]
    refine ⟨f :: before.flatMap (functions source) ++ lead.flatMap (functions source) ++ first.functions source,
      after.flatMap (functions source), by simp, ?_, ?_⟩
    · simp [Node.children, hblock]
    · simp [Node.children, hblock]

/-- Only a first statement that is the directive counts. -/
lemma directive_of_isSyncAction (h : Continued first rest rest' n n') {f : Function}
    (hf : n.function? source = some f) (hs : f.isSyncAction = true) :
    first.type = "expression_statement" ∧
      ∃ e, first.FirstChild IsContent e ∧ e.Spells source (Text.ofString "use server") := by
  obtain ⟨b, -, hb, -, -, -, hfirst, -⟩ := h.exists_block
  obtain ⟨body, statement, e, hbody, -, hstatement, htype, he, hspells⟩ :=
    ((isSyncAction_eq_true_iff hf).mp hs).directive
  rw [← child?_eq_some_iff, hb] at hbody
  cases hbody
  rw [← firstStatement?_eq_some_iff, hfirst] at hstatement
  cases hstatement
  exact ⟨htype, e, he, hspells⟩

end Continued

namespace Replaced

variable {t t' : Node}

lemma seen_of_alike {c c' : Node} (h : Alike source c c') (before after : List Node) :
    Seen source (before ++ c :: after) (before ++ c' :: after) := by
  intro p hp _
  rw [List.find?_append, List.find?_append, List.find?_cons, List.find?_cons, hp c c' h]
  cases before.find? p with
  | some b => exact SameFound.refl source _
  | none =>
    cases p c with
    | true => exact Or.inr ⟨c, c', rfl, rfl, h⟩
    | false => exact SameFound.refl source _

/-- What looks alike in its place changes nothing on the way up. -/
lemma alike (h : Replaced n n' t t') (hn : Alike source n n') : Alike source t t' := by
  induction h with
  | here => exact hn
  | inside _ ih => exact (seen_of_alike ih _ _).alike ⟨rfl, rfl, rfl, rfl⟩

lemma functions_eq (h : Replaced n n' t t') (hn : Alike source n n') : ∃ before after,
    t.functions source = before ++ n.functions source ++ after ∧
      t'.functions source = before ++ n'.functions source ++ after := by
  induction h with
  | here => exact ⟨[], [], by simp, by simp⟩
  | @inside type named field extent c c' before after h ih =>
    obtain ⟨head, tail, hc, hc'⟩ := ih
    have hhead : SameHead (mk type named field extent (before ++ c :: after))
        (mk type named field extent (before ++ c' :: after)) := ⟨rfl, rfl, rfl, rfl⟩
    have hview := Seen.function?_eq (seen_of_alike (h.alike hn) before after) hhead
    refine ⟨((mk type named field extent (before ++ c :: after)).function? source).toList ++
      before.flatMap (functions source) ++ head, tail ++ after.flatMap (functions source), ?_, ?_⟩
    · rw [Node.functions_eq]
      simp [Node.children, hc]
    · rw [Node.functions_eq, hview]
      simp [Node.children, hc']

end Replaced

end Node

namespace AsyncAction

/-! ### What is reported -/

/-- What a run says about functions of a source, one after the other. -/
def findingsOf (source : Source) (severity : String) (fs : List Function) : List Finding :=
  (fs.filter Function.isSyncAction).map (findingOf source severity)

/-- A run that does not fail says something about each flagged function. -/
lemma findings_of_not_failed {source : Source} {severity : String} (h : (run source severity).failure = none) :
    (run source severity).findings = findingsOf source severity (source.root.functions source.bytes) := by
  by_cases hplaced : ∀ f ∈ flagged source, f.Placed
  · exact (run_of_placed severity hplaced).1
  · have hnot : ∃ f ∈ flagged source, ¬ f.Placed := by simpa using hplaced
    exact absurd h (run_of_not_placed severity hnot).2

lemma reportAll_congr (source : Source) (root' : Node) (severity : String) (fs : List Function)
    (acc : List Finding) (log : Log) :
    reportAll { source with root := root' } severity acc log fs = reportAll source severity acc log fs := by
  induction fs generalizing acc log with
  | nil => rfl
  | cons f fs ih =>
    have hrecord : record { source with root := root' } f = record source f := rfl
    rw [reportAll, reportAll, hrecord]
    cases report f source.path source.bytes ruleId severity with
    | ok x => exact ih _ _
    | error flaws => rfl

/-- Two trees over one source that differ in remarks only have the same functions, with the same views, and a run
ends in the same way on both. And if in some function the statements after the first are replaced by others, the
view of the function, whether it is flagged and what is reported about it stay; so do all other functions but those
in the statements that were replaced. Only a first statement can be the directive. -/
theorem run_reads_firstStatements (source : Source) (severity : String) (root' : Node) :
    (Node.Commented source.root root' →
      root'.functions source.bytes = source.root.functions source.bytes ∧
        run { source with root := root' } severity = run source severity) ∧
      ∀ (first n n' : Node) (rest rest' : List Node) (f : Function), n.function? source.bytes = some f →
        Node.Continued first rest rest' n n' → Node.Replaced n n' source.root root' →
        n'.function? source.bytes = some f ∧
        (n'.IsSyncAction source.bytes ↔ n.IsSyncAction source.bytes) ∧
        (f.isSyncAction = true → first.type = "expression_statement" ∧
          ∃ e, first.FirstChild Node.IsContent e ∧ e.Spells source.bytes (Text.ofString "use server")) ∧
        ∃ before after : List Function, f ∈ before ∧
          source.root.functions source.bytes = before ++ rest.flatMap (Node.functions source.bytes) ++ after ∧
          root'.functions source.bytes = before ++ rest'.flatMap (Node.functions source.bytes) ++ after ∧
          let found := findingsOf source severity
          let run' := run { source with root := root' } severity
          ((run source severity).failure = none → (run source severity).findings =
              found before ++ found (rest.flatMap (Node.functions source.bytes)) ++ found after) ∧
            (run'.failure = none → run'.findings =
              found before ++ found (rest'.flatMap (Node.functions source.bytes)) ++ found after) := by
  constructor
  · intro h
    have hfunctions := h.functions_eq source.bytes
    have hflagged : flagged { source with root := root' } = flagged source := by
      rw [flagged, flagged, hfunctions]
    refine ⟨hfunctions, ?_⟩
    rw [run, run, hflagged, reportAll_congr]
  · intro first n n' rest rest' f hf hcontinued hreplaced
    have hf' : n'.function? source.bytes = some f := hcontinued.function?_eq.trans hf
    have halike : Node.Alike source.bytes n n' := hcontinued.alike (Node.isFunction_of_function? hf)
    obtain ⟨head, tail, hroot, hroot'⟩ := hreplaced.functions_eq halike
    obtain ⟨before, after, hmem, hn, hn'⟩ := hcontinued.functions_eq hf
    refine ⟨hf', ?_, hcontinued.directive_of_isSyncAction hf, head ++ before, after ++ tail, ?_, ?_, ?_, ?_, ?_⟩
    · rw [← Node.isSyncAction_eq_true_iff hf, ← Node.isSyncAction_eq_true_iff hf']
    · exact List.mem_append_right _ hmem
    · simp [hroot, hn]
    · simp [hroot', hn']
    · intro hfailure
      rw [findings_of_not_failed hfailure]
      simp [findingsOf, hroot, hn]
    · intro hfailure
      have hfound (fs : List Function) :
          findingsOf { source with root := root' } severity fs = findingsOf source severity fs := rfl
      rw [findings_of_not_failed hfailure, hfound]
      simp [findingsOf, hroot', hn']

/-- The statement with the directive. -/
def outerDirective : Node :=
  onLine "expression_statement" true none 13 26 [onLine "string" true none 13 25 []]

/-- The outer function with these statements. -/
def outerWith (statements : List Node) : Node :=
  onLine "function_declaration" true none 0 44 [
    onLine "function" false none 0 8 [],
    onLine "identifier" true (some "name") 9 10 [],
    onLine "formal_parameters" true (some "parameters") 10 12 [],
    onLine "statement_block" true (some "body") 12 44 statements]

/-- One remark is put in before the directive, and the one below is taken out. -/
def remarkedStatements : List Node :=
  [onLine "html_comment" true none 13 13 [], outerDirective,
    onLine "expression_statement" true none 26 43 [
      onLine "arrow_function" true none 26 43 [
        onLine "identifier" true (some "parameter") 26 27 [],
        onLine "=>" false none 27 29 [],
        onLine "statement_block" true (some "body") 29 43 [
          onLine "expression_statement" true none 30 42 [
            onLine "template_string" true none 30 42 []]]]]]

lemma commented_nestedActions : Node.Commented nestedActions.root (outerWith remarkedStatements) where
  type := rfl
  named := rfl
  field := rfl
  extent := rfl
  children := by
    have htakenOut : (onLine "comment" true none 30 30 []).IsRemark := ⟨by decide, rfl, rfl, rfl⟩
    have hputIn : (onLine "html_comment" true none 13 13 []).IsRemark := ⟨by decide, rfl, rfl, rfl⟩
    have hrefl := Node.Remarked.refl
    have hinner : Node.Remarked innerAction.children _ :=
      .node (hrefl _) (.node (hrefl _) (.node (.takenOut htakenOut (hrefl _)) .nil))
    exact .node (hrefl _) (.node (hrefl _) (.node (hrefl _)
      (.node (.putIn hputIn (.node (hrefl _) (.node (.node hinner .nil) .nil))) .nil)))

/-- A run ends in the same way with other remarks, and it still reports the outer function if no more than the
directive is left of that. -/
theorem run_reads_firstStatements_nestedActions :
    run { nestedActions with root := outerWith remarkedStatements } "error" = run nestedActions "error" ∧
      ∃ f, nestedActions.root.function? nestedActions.bytes = some f ∧
        (outerWith [outerDirective]).function? nestedActions.bytes = some f ∧
        findingOf nestedActions "error" f ∈ (run nestedActions "error").findings ∧
        findingOf nestedActions "error" f ∈
          (run { nestedActions with root := outerWith [outerDirective] } "error").findings := by
  refine ⟨((run_reads_firstStatements nestedActions "error" _).1 commented_nestedActions).2, ?_⟩
  obtain ⟨f, hf⟩ := Option.isSome_iff_exists.mp
    (Node.function?_isSome_iff.mpr ⟨outerAction_isSyncAction.named, outerAction_isSyncAction.function⟩)
  have hsync : f.isSyncAction = true := (Node.isSyncAction_eq_true_iff hf).mpr outerAction_isSyncAction
  have hcontent : outerDirective.IsContent := ⟨rfl, by decide⟩
  have hbefore : ∀ b ∈ [onLine "function" false none 0 8 [], onLine "identifier" true (some "name") 9 10 [],
      onLine "formal_parameters" true (some "parameters") 10 12 []], ¬ b.InRole "body" := by
    simp [Node.InRole, onLine, Node.field]
  have hcontinued : Node.Continued outerDirective
      [onLine "expression_statement" true none 26 43 [innerAction]] [] nestedActions.root
      (outerWith [outerDirective]) :=
    @Node.Continued.intro _ _ _ _ _ _ _ _ _ _ _ [] [] hbefore (by simp) hcontent
  have hfailure (root : Node) (hcounted : ∀ n ∈ root.preorder, n.Counted) :
      (run { nestedActions with root := root } "error").failure = none :=
    (run_of_placed "error" fun g hg => placed_of_flagged hcounted hg).2
  obtain ⟨hf', -, -, before, after, hmem, -, -, hfindings, hfindings'⟩ :=
    (run_reads_firstStatements nestedActions "error" _).2 _ _ _ _ _ _ hf hcontinued .here
  have hfound : findingOf nestedActions "error" f ∈ findingsOf nestedActions "error" before :=
    List.mem_map_of_mem (List.mem_filter.mpr ⟨hmem, hsync⟩)
  refine ⟨f, hf, hf', ?_, ?_⟩
  · rw [hfindings (hfailure nestedActions.root (by decide))]
    exact List.mem_append_left _ (List.mem_append_left _ hfound)
  · rw [hfindings' (hfailure (outerWith [outerDirective]) (by decide))]
    exact List.mem_append_left _ (List.mem_append_left _ hfound)

end AsyncAction

end AsyncActions
