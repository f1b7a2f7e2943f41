import AsyncActions.Proofs.DocumentOrder
import AsyncActions.Proofs.Reporting

/-!
# Which functions are reported, and how

`Node.IsSyncAction` says on the tree alone what a server action is that is not async but could be,
and `Node.Reported` what is to be said about it. A run reports the sync actions of a tree, at
whatever depth, one after the other in document order, and nothing else.
-/

namespace AsyncActions

namespace Node

def functionTypes : List String :=
  ["function_declaration", "generator_function_declaration", "function_expression",
    "generator_function", "arrow_function", "method_definition"]

def generatorTypes : List String := ["generator_function_declaration", "generator_function"]

def commentTypes : List String := ["comment", "html_comment"]

/-- The keys of methods that are names. -/
def keyTypes : List String := ["property_identifier", "private_property_identifier"]

def quotes : List Char := ['\x27', '\x22', '\x60']

/-- A keyword or a mark of that spelling stands directly under the node. -/
def HasKeyword (n : Node) (word : String) : Prop := ∃ c ∈ n.children, c.named = false ∧ c.type = word

instance (n : Node) (word : String) : Decidable (n.HasKeyword word) :=
  inferInstanceAs (Decidable (∃ c ∈ n.children, _))

/-- The first child of its kind. -/
def FirstChild (n : Node) (kind : Node → Prop) (c : Node) : Prop :=
  ∃ before after, n.children = before ++ c :: after ∧ kind c ∧ ∀ b ∈ before, ¬ kind b

/-- The node stands in that role. -/
def InRole (role : String) (c : Node) : Prop := c.field = some role

/-- The node is part of the program and not a remark. -/
def IsContent (c : Node) : Prop := c.named = true ∧ c.type ∉ commentTypes

/-- The node is a string, or a template without substitutions. -/
def IsLiteral (n : Node) : Prop :=
  n.type = "string" ∨ n.type = "template_string" ∧
    ¬ ∃ c ∈ n.children, c.named = true ∧ c.type = "template_substitution"

/-- The node is a literal between two like quotes, and this is its value. -/
structure Spells (n : Node) (source : Bytes) (value : Text) : Prop where
  literal : n.IsLiteral
  quoted : ∃ quote body, quote ∈ quotes ∧ n.text source = quote :: body ++ [quote] ∧
    cook (body.map CodePoint.ofChar) = value

/-- The body is a block, and its first statement consists of the directive. -/
def OpensWithDirective (n : Node) (source : Bytes) : Prop :=
  ∃ body statement expression,
    n.FirstChild (InRole "body") body ∧ body.type = "statement_block" ∧
    body.FirstChild IsContent statement ∧ statement.type = "expression_statement" ∧
    statement.FirstChild IsContent expression ∧
    expression.Spells source (Text.ofString "use server")

/-- The node defines a server action that is not async but could be. -/
structure IsSyncAction (n : Node) (source : Bytes) : Prop where
  named : n.named = true
  function : n.type ∈ functionTypes
  notGenerator : n.type ∉ generatorTypes
  notAsync : ¬ n.HasKeyword "async"
  notStarred : ¬ n.HasKeyword "*"
  notAccessor : n.type = "method_definition" → ¬ n.HasKeyword "get" ∧ ¬ n.HasKeyword "set"
  directive : n.OpensWithDirective source

/-- The function has a name of its own. The key of a method is one if it is an identifier. -/
structure OwnName (n : Node) (source : Bytes) (name : List Char) : Prop where
  child : ∃ c, n.FirstChild (InRole "name") c ∧ c.text source = name ∧
    (n.type = "method_definition" → c.type ∈ keyTypes)
  nonempty : name ≠ []

/-- The keyword belongs before this node: the key of a method, or the function as a whole. -/
def Anchor (n : Node) (c : Node) : Prop :=
  n.type = "method_definition" ∧ n.FirstChild (InRole "name") c ∨
    c = n ∧ ¬ (n.type = "method_definition" ∧ ∃ key, n.FirstChild (InRole "name") key)

/-- The suggestion is to insert the keyword where it belongs, and it names the function. -/
structure Suggested (n : Node) (source : Bytes) (s : Suggestion) : Prop where
  messageId : s.messageId = "suggest-async"
  named : ∀ name, n.OwnName source name → s.description = "Make \x60" ++ String.ofList name ++ "\x60 async"
  nameless : (¬ ∃ name, n.OwnName source name) → s.description = "Make this function async"
  keyword : s.fix.text = "async "
  anchored : ∃ c, n.Anchor c ∧ (s.fix.offset : Int) = c.startByte ∧
    (s.fix.line.val : Int) = c.startPoint.row + 1 ∧ (s.fix.column.val : Int) = c.startPoint.column + 1

/-- The finding is about the node and offers one suggestion. -/
structure Reported (n : Node) (source : Source) (severity : String) (x : Finding) : Prop where
  ruleId : x.ruleId = "async-server-action"
  message : x.message = "Server Actions must be async"
  messageId : x.messageId = some "async-server-action"
  severity : x.severity = severity
  path : x.location.path = source.path
  line : (x.location.line.val : Int) = n.startPoint.row + 1
  column : (x.location.column.val : Int) = n.startPoint.column + 1
  endLine : ∃ o, x.location.endLine = some o ∧ (o.val : Int) = n.endPoint.row + 1
  endColumn : ∃ o, x.location.endColumn = some o ∧ (o.val : Int) = n.endPoint.column + 1
  snippet : x.location.snippet =
    if n.text source.bytes = [] then none else some (String.ofList (Text.firstLine (n.text source.bytes)))
  suggestion : ∃ s, x.suggestions = [s] ∧ n.Suggested source.bytes s

/-- No place of the node is negative. -/
structure Counted (n : Node) : Prop where
  startByte : 0 ≤ n.startByte
  endByte : 0 ≤ n.endByte
  startPoint : n.startPoint.Counted
  endPoint : n.endPoint.Counted

instance (p : Point) : Decidable p.Counted := inferInstanceAs (Decidable (_ ∧ _))

instance (n : Node) : Decidable n.Counted :=
  decidable_of_iff (0 ≤ n.startByte ∧ 0 ≤ n.endByte ∧ n.startPoint.Counted ∧ n.endPoint.Counted)
    ⟨fun ⟨hs, he, hsp, hep⟩ => ⟨hs, he, hsp, hep⟩, fun ⟨hs, he, hsp, hep⟩ => ⟨hs, he, hsp, hep⟩⟩

lemma firstChild_congr {n c : Node} {p q : Node → Prop} (h : ∀ d, p d ↔ q d) :
    n.FirstChild p c ↔ n.FirstChild q c := by
  unfold FirstChild
  simp only [h]

lemma find?_eq_some_iff {n c : Node} {p : Node → Bool} :
    n.children.find? p = some c ↔ n.FirstChild (fun d => p d = true) c := by
  rw [List.find?_eq_some_iff_append]
  constructor
  · rintro ⟨hc, before, after, h, hb⟩
    exact ⟨before, after, h, hc, fun b hm => by simpa using hb b hm⟩
  · rintro ⟨before, after, h, hc, hb⟩
    exact ⟨hc, before, after, h, fun b hm => by simpa using hb b hm⟩

lemma child?_eq_some_iff {n c : Node} {role : String} :
    n.child? role = some c ↔ n.FirstChild (InRole role) c := by
  rw [child?, find?_eq_some_iff]
  exact firstChild_congr fun d => decide_eq_true_iff

lemma firstStatement?_eq_find? (n : Node) :
    n.firstStatement? = n.children.find? fun c => c.named && !c.isComment := by
  rw [firstStatement?, namedChildren, List.find?_filter]
  refine congrArg (List.find? · n.children) (funext fun c => ?_)
  simp

lemma firstStatement?_eq_some_iff {n c : Node} :
    n.firstStatement? = some c ↔ n.FirstChild IsContent c := by
  rw [firstStatement?_eq_find?, find?_eq_some_iff]
  refine firstChild_congr fun d => ?_
  simp [IsContent, isComment, commentTypes]

lemma hasToken_eq_true_iff {n : Node} {words : List String} :
    n.hasToken words = true ↔ ∃ word ∈ words, n.HasKeyword word := by
  simp only [hasToken, List.any_eq_true, Bool.and_eq_true, Bool.not_eq_true', List.contains_iff_mem,
    HasKeyword]
  constructor
  · rintro ⟨c, hc, hn, hw⟩
    exact ⟨_, hw, c, hc, hn, rfl⟩
  · rintro ⟨word, hw, c, hc, hn, rfl⟩
    exact ⟨c, hc, hn, hw⟩

lemma mem_quotes {c : Char} : c ∈ quotes ↔ c = '\x27' ∨ c = '\x22' ∨ c = '\x60' := by
  simp [quotes]

lemma unquote?_eq_some_iff {cs body : List Char} :
    unquote? cs = some body ↔ ∃ quote, quote ∈ quotes ∧ cs = quote :: body ++ [quote] := by
  cases cs with
  | nil => simp [unquote?]
  | cons first rest =>
    simp only [unquote?, mem_quotes]
    constructor
    · intro h
      split at h
      · next hq =>
        cases h
        refine ⟨first, hq.2, ?_⟩
        rw [List.cons_append, List.dropLast_append_getLast? _ hq.1]
      · cases h
    · rintro ⟨quote, hq, h⟩
      rw [List.cons_append] at h
      obtain ⟨rfl, rfl⟩ := List.cons.inj h
      rw [if_pos ⟨List.getLast?_concat, hq⟩, List.dropLast_concat]

lemma isLiteral_iff {n : Node} : n.IsLiteral ↔ n.type = "string" ∨ (n.type = "template_string" ∧
    ¬ n.namedChildren.any (·.type = "template_substitution")) := by
  simp [IsLiteral, namedChildren, List.any_filter]

lemma literalValue?_eq_some_iff {n : Node} {source : Bytes} {value : Text} :
    n.literalValue? source = some value ↔ n.Spells source value := by
  unfold literalValue?
  split
  · next hl =>
    have hl := isLiteral_iff.mpr hl
    rw [Option.map_eq_some_iff]
    constructor
    · rintro ⟨body, hbody, hcook⟩
      obtain ⟨quote, hq, htext⟩ := unquote?_eq_some_iff.mp hbody
      exact ⟨hl, quote, body, hq, htext, hcook⟩
    · rintro ⟨-, quote, body, hq, htext, hcook⟩
      exact ⟨body, unquote?_eq_some_iff.mpr ⟨quote, hq, htext⟩, hcook⟩
  · next hl => exact ⟨nofun, fun h => absurd (isLiteral_iff.mp h.literal) hl⟩

/-! ### The view of a function -/

lemma ofType?_isSome_iff (type : String) :
    (FunctionKind.ofType? type).isSome ↔ type ∈ functionTypes := by
  unfold FunctionKind.ofType? functionTypes
  split <;> simp_all

lemma ofType?_eq_method_iff (type : String) :
    FunctionKind.ofType? type = some .method ↔ type = "method_definition" := by
  unfold FunctionKind.ofType?
  split <;> simp_all

lemma hasDirective_eq_true_iff {n : Node} {source : Bytes} {f : Function}
    (h : n.function? source = some f) : f.hasDirective = true ↔ n.OpensWithDirective source := by
  obtain ⟨kind, -, rfl⟩ := Option.map_eq_some_iff.mp h
  unfold Function.hasDirective OpensWithDirective
  simp only [← child?_eq_some_iff, ← firstStatement?_eq_some_iff, ← literalValue?_eq_some_iff]
  cases hbody : n.child? "body" with
  | none => simp
  | some body =>
    by_cases hblock : body.type = "statement_block"
    · cases hfirst : body.firstStatement? with
      | none => simp [block?, hblock, hfirst]
      | some statement =>
        by_cases hexpr : statement.type = "expression_statement"
        · cases he : statement.firstStatement? with
          | none => simp [block?, hblock, hfirst, Node.statement, hexpr, he]
          | some e =>
            have hvalue : e.literalValue? source = some (Text.ofString directive) ↔
                e.literalValue? source = some (Text.ofString "use server") := Iff.rfl
            simpa [block?, hblock, hfirst, Node.statement, hexpr, he] using hvalue
        · simp [block?, hblock, hfirst, Node.statement, hexpr]
    · simp [block?, hblock]

lemma function?_isSome_iff {n : Node} {source : Bytes} :
    (n.function? source).isSome ↔ n.named = true ∧ n.type ∈ functionTypes := by
  rw [function?, Option.isSome_map, functionKind?, ← ofType?_isSome_iff]
  by_cases h : n.named = true <;> simp [h]

lemma functionKind?_eq_method_iff {n : Node} {kind : FunctionKind} (h : n.functionKind? = some kind) :
    kind = .method ↔ n.type = "method_definition" := by
  unfold functionKind? at h
  split at h
  · rw [← ofType?_eq_method_iff, h, Option.some.injEq]
  · cases h

lemma isAsync_eq_true_iff {n : Node} {source : Bytes} {f : Function}
    (h : n.function? source = some f) : f.isAsync = true ↔ n.HasKeyword "async" := by
  obtain ⟨kind, -, rfl⟩ := Option.map_eq_some_iff.mp h
  simp [hasToken_eq_true_iff]

lemma isGenerator_eq_true_iff {n : Node} {source : Bytes} {f : Function}
    (h : n.function? source = some f) :
    f.isGenerator = true ↔ n.type ∈ generatorTypes ∨ n.HasKeyword "*" := by
  obtain ⟨kind, -, rfl⟩ := Option.map_eq_some_iff.mp h
  simp [hasToken_eq_true_iff, generatorTypes]

lemma isAccessor_eq_true_iff {n : Node} {source : Bytes} {f : Function}
    (h : n.function? source = some f) :
    f.isAccessor = true ↔ n.type = "method_definition" ∧ (n.HasKeyword "get" ∨ n.HasKeyword "set") := by
  obtain ⟨kind, hkind, rfl⟩ := Option.map_eq_some_iff.mp h
  simp [hasToken_eq_true_iff, functionKind?_eq_method_iff hkind]

/-- The code flags a function exactly if its node is a sync action. -/
lemma isSyncAction_eq_true_iff {n : Node} {source : Bytes} {f : Function}
    (h : n.function? source = some f) : f.isSyncAction = true ↔ n.IsSyncAction source := by
  have hn := function?_isSome_iff.mp (h ▸ rfl : (n.function? source).isSome = true)
  have hasync := isAsync_eq_true_iff h
  have hgen := isGenerator_eq_true_iff h
  have hacc := isAccessor_eq_true_iff h
  have hdir := hasDirective_eq_true_iff h
  simp only [Function.isSyncAction, Bool.and_eq_true, Bool.not_eq_true', ← Bool.not_eq_true, hasync,
    hgen, hacc, hdir, not_or, not_and]
  constructor
  · rintro ⟨⟨⟨hasync, hgen, hstar⟩, hacc⟩, hdir⟩
    exact ⟨hn.1, hn.2, hgen, hasync, hstar, hacc, hdir⟩
  · intro hs
    exact ⟨⟨⟨hs.notAsync, hs.notGenerator, hs.notStarred⟩, hs.notAccessor⟩, hs.directive⟩

lemma displayName_eq {n : Node} {source : Bytes} {f : Function} (h : n.function? source = some f)
    {name : List Char} (hname : n.OwnName source name) :
    f.displayName = "\x60" ++ String.ofList name ++ "\x60" := by
  obtain ⟨kind, hkind, rfl⟩ := Option.map_eq_some_iff.mp h
  obtain ⟨⟨c, hc, rfl, hkey⟩, hne⟩ := hname
  have hc := child?_eq_some_iff.mpr hc
  have hne : String.ofList (c.text source) ≠ "" := by simpa using hne
  have hmethod := functionKind?_eq_method_iff hkind
  unfold Function.displayName
  by_cases hk : kind = .method
  · have hkey := hkey (hmethod.mp hk)
    simp only [keyTypes, List.mem_cons, List.not_mem_nil, or_false] at hkey
    simp [hk, hc, methodName?, hkey, hne]
  · simp [hk, hc, hne]

lemma displayName_eq_of_nameless {n : Node} {source : Bytes} {f : Function}
    (h : n.function? source = some f) (hname : ¬ ∃ name, n.OwnName source name) :
    f.displayName = "this function" := by
  obtain ⟨kind, hkind, rfl⟩ := Option.map_eq_some_iff.mp h
  have hmethod := functionKind?_eq_method_iff hkind
  unfold Function.displayName
  cases hc : n.child? "name" with
  | none => by_cases hk : kind = .method <;> simp [hk]
  | some c =>
    by_cases hkey : n.type = "method_definition" → c.type ∈ keyTypes
    · -- a name there would be, were it not empty
      have hempty : c.text source = [] := by
        by_contra hne
        exact hname ⟨c.text source, ⟨c, child?_eq_some_iff.mp hc, rfl, hkey⟩, hne⟩
      by_cases hk : kind = .method
      · have hkey := hkey (hmethod.mp hk)
        simp only [keyTypes, List.mem_cons, List.not_mem_nil, or_false] at hkey
        simp [hk, methodName?, hkey, hempty]
      · simp [hk, hempty]
    · obtain ⟨ht, hkey⟩ := Classical.not_imp.mp hkey
      simp only [keyTypes, List.mem_cons, List.not_mem_nil, or_false] at hkey
      simp [hmethod.mpr ht, methodName?, hkey]

lemma anchor_of_function? {n : Node} {source : Bytes} {f : Function} (h : n.function? source = some f) :
    ∃ c, n.Anchor c ∧ f.asyncByte = c.startByte ∧ f.asyncPoint = c.startPoint := by
  obtain ⟨kind, hkind, rfl⟩ := Option.map_eq_some_iff.mp h
  have hmethod := functionKind?_eq_method_iff hkind
  unfold Anchor
  simp only [← child?_eq_some_iff]
  by_cases hk : kind = .method
  · cases hc : n.child? "name" with
    | none => exact ⟨n, Or.inr ⟨rfl, by simp⟩, by simp [Function.asyncByte], by simp [Function.asyncPoint]⟩
    | some c =>
      exact ⟨c, Or.inl ⟨hmethod.mp hk, rfl⟩, by simp [Function.asyncByte, hk],
        by simp [Function.asyncPoint, hk]⟩
  · have ht : n.type ≠ "method_definition" := fun ht => hk (hmethod.mpr ht)
    exact ⟨n, Or.inr ⟨rfl, by simp [ht]⟩, by simp [Function.asyncByte, hk],
      by simp [Function.asyncPoint, hk]⟩

/-- The function of a node comes before those below it. -/
lemma functions_eq (source : Bytes) (n : Node) :
    n.functions source = (n.function? source).toList ++ n.children.flatMap (functions source) := by
  rw [functions, preorder_eq, List.filterMap_cons, List.filterMap_flatMap]
  cases n.function? source <;> rfl

lemma FirstChild.mem {n c : Node} {kind : Node → Prop} (h : n.FirstChild kind c) : c ∈ n.children := by
  obtain ⟨before, after, hcs, -⟩ := h
  rw [hcs]
  exact List.mem_append_right _ List.mem_cons_self

end Node

namespace AsyncAction

/-! ### Runs -/

lemma point_line {p : Point} (h : p.Counted) : (p.line.val : Int) = p.row + 1 := by
  have := h.1
  simp only [Point.line, Ordinal.after]
  omega

lemma point_position {p : Point} (h : p.Counted) : (p.position.val : Int) = p.column + 1 := by
  have := h.2
  simp only [Point.position, Ordinal.after]
  omega

lemma reported_findingOf {source : Source} {severity : String} {n : Node} {f : Function}
    (h : n.function? source.bytes = some f) (hp : f.Placed) :
    n.Reported source severity (findingOf source severity f) := by
  obtain ⟨c, hc, hbyte, hpoint⟩ := Node.anchor_of_function? h
  have hstart : f.startPoint = n.startPoint := by
    obtain ⟨kind, -, rfl⟩ := Option.map_eq_some_iff.mp h
    rfl
  have hend : f.endPoint = n.endPoint := by
    obtain ⟨kind, -, rfl⟩ := Option.map_eq_some_iff.mp h
    rfl
  have htext : f.text source.bytes = n.text source.bytes := by
    obtain ⟨kind, -, rfl⟩ := Option.map_eq_some_iff.mp h
    rfl
  have hsuggested : n.Suggested source.bytes
      ⟨suggestionId, suggestionMessage f.displayName, insertion f⟩ := by
    refine ⟨rfl, fun name hname => ?_, fun hname => ?_, rfl, c, hc, ?_, ?_, ?_⟩
    · have hopen : "Make \x60" = "Make " ++ "\x60" := rfl
      have hclose : "\x60 async" = "\x60" ++ " async" := rfl
      simp only [suggestionMessage, Node.displayName_eq h hname, hopen, hclose, String.append_assoc]
    · simp only [suggestionMessage, Node.displayName_eq_of_nameless h hname]
      rfl
    · rw [← hbyte]
      exact Int.toNat_of_nonneg hp.asyncByte
    · rw [← hpoint]
      exact point_line hp.asyncPoint
    · rw [← hpoint]
      exact point_position hp.asyncPoint
  refine ⟨rfl, rfl, rfl, rfl, rfl, ?_, ?_, ⟨_, rfl, ?_⟩, ⟨_, rfl, ?_⟩, ?_, _, rfl, hsuggested⟩
  · rw [← hstart]
    exact point_line hp.startPoint
  · rw [← hstart]
    exact point_position hp.startPoint
  · rw [← hend]
    exact point_line hp.endPoint
  · rw [← hend]
    exact point_position hp.endPoint
  · rw [← htext]
    rfl

lemma placed_of_counted {root n : Node} {source : Bytes} {f : Function}
    (hplaces : ∀ m ∈ root.preorder, m.Counted) (hn : n ∈ root.preorder)
    (h : n.function? source = some f) : f.Placed := by
  obtain ⟨c, hc, hbyte, hpoint⟩ := Node.anchor_of_function? h
  have hcount : c.Counted := by
    rcases hc with ⟨-, hc⟩ | ⟨rfl, -⟩
    · exact hplaces c (Node.child_mem_preorder hc.mem hn)
    · exact hplaces c hn
  have hnode := hplaces n hn
  refine ⟨hbyte ▸ hcount.startByte, hpoint ▸ hcount.startPoint, ?_, ?_⟩
  · obtain ⟨kind, -, rfl⟩ := Option.map_eq_some_iff.mp h
    exact hnode.startPoint
  · obtain ⟨kind, -, rfl⟩ := Option.map_eq_some_iff.mp h
    exact hnode.endPoint

lemma placed_of_flagged {source : Source} (hplaces : ∀ m ∈ source.root.preorder, m.Counted) {f : Function}
    (hf : f ∈ flagged source) : f.Placed := by
  obtain ⟨n, hn, hfn⟩ := List.mem_filterMap.mp (List.mem_of_mem_filter hf)
  exact placed_of_counted hplaces hn hfn

end AsyncAction

namespace Node

/-- The function that a node defines, if it is flagged. -/
def syncAction? (source : Bytes) (n : Node) : Option Function :=
  (n.function? source).filter Function.isSyncAction

lemma syncAction?_eq_some_iff {source : Bytes} {n : Node} {f : Function} :
    n.syncAction? source = some f ↔ n.function? source = some f ∧ n.IsSyncAction source := by
  rw [syncAction?, Option.filter_eq_some_iff]
  exact and_congr_right fun h => isSyncAction_eq_true_iff h

lemma syncAction?_isSome_iff {source : Bytes} {n : Node} :
    (n.syncAction? source).isSome ↔ n.IsSyncAction source := by
  constructor
  · intro h
    obtain ⟨f, hf⟩ := Option.isSome_iff_exists.mp h
    exact (syncAction?_eq_some_iff.mp hf).2
  · intro h
    have hf : (n.function? source).isSome := function?_isSome_iff.mpr ⟨h.named, h.function⟩
    obtain ⟨f, hf⟩ := Option.isSome_iff_exists.mp hf
    exact Option.isSome_iff_exists.mpr ⟨f, syncAction?_eq_some_iff.mpr ⟨hf, h⟩⟩

end Node

namespace AsyncAction

lemma flagged_eq (source : Source) :
    flagged source = source.root.preorder.filterMap (Node.syncAction? source.bytes) := by
  rw [flagged, Node.functions, List.filter_filterMap]
  rfl

/-- Where all flagged functions are placed, there is one finding for each place of a sync action. -/
lemma reported_of_placed {source : Source} (severity : String) (hall : ∀ f ∈ flagged source, f.Placed) :
    ∃ places : List (List Nat), places.Pairwise (· < ·) ∧
      (∀ path, path ∈ places ↔
        ∃ n, source.root.get? path = some n ∧ n.IsSyncAction source.bytes) ∧
      List.Forall₂ (fun path x => ∃ n, source.root.get? path = some n ∧ n.Reported source severity x)
        places (run source severity).findings := by
  obtain ⟨places, hsorted, hmem, hforall⟩ :=
    Node.filterMap_preorder source.root (Node.syncAction? source.bytes)
  refine ⟨places, hsorted, fun path => (hmem path).trans ?_, ?_⟩
  · simp only [Node.syncAction?_isSome_iff]
  · rw [(run_of_placed severity hall).1, flagged_eq, List.forall₂_map_right_iff]
    refine hforall.imp fun path f ⟨n, hn, hf⟩ => ⟨n, hn, ?_⟩
    have hplaced : f.Placed := hall f <| by
      rw [flagged_eq]
      exact List.mem_filterMap.mpr ⟨n, Node.mem_preorder_iff_get?.mpr ⟨path, hn⟩, hf⟩
    exact reported_findingOf (Node.syncAction?_eq_some_iff.mp hf).1 hplaced

/-- A run succeeds and reports the sync actions of the tree: one finding for each place of one, in
document order, and each finding says what its node calls for. -/
theorem run_reports_syncActions (source : Source) (severity : String)
    (hplaces : ∀ path n, source.root.get? path = some n → n.Counted) :
    (run source severity).failure = none ∧
      ∃ places : List (List Nat), places.Pairwise (· < ·) ∧
        (∀ path, path ∈ places ↔
          ∃ n, source.root.get? path = some n ∧ n.IsSyncAction source.bytes) ∧
        List.Forall₂ (fun path x => ∃ n, source.root.get? path = some n ∧ n.Reported source severity x)
          places (run source severity).findings := by
  have hcounted : ∀ n ∈ source.root.preorder, n.Counted := fun n hn => by
    obtain ⟨path, hpath⟩ := Node.mem_preorder_iff_get?.mp hn
    exact hplaces path n hpath
  have hall : ∀ f ∈ flagged source, f.Placed := fun f hf => placed_of_flagged hcounted hf
  exact ⟨(run_of_placed severity hall).2, reported_of_placed severity hall⟩

/-- A node on the first line. -/
def onLine (type : String) (named : Bool) (role : Option String) (start stop : Nat)
    (children : List Node) : Node :=
  .mk type named role ⟨start, stop, ⟨0, start⟩, ⟨0, stop⟩⟩ children

/-- An arrow function whose body is the directive as a template. -/
def innerAction : Node :=
  onLine "arrow_function" true none 26 43 [
    onLine "identifier" true (some "parameter") 26 27 [],
    onLine "=>" false none 27 29 [],
    onLine "statement_block" true (some "body") 29 43 [
      onLine "comment" true none 30 30 [],
      onLine "expression_statement" true none 30 42 [
        onLine "template_string" true none 30 42 []]]]

/-- It stands in the body of a function that starts with the directive too. -/
def nestedActions : Source where
  path := ⟨.relative, ["actions.js"]⟩
  bytes := Utf8.encodeString "function f()\x7b\x27use server\x27;x=>\x7b\x60use server\x60\x7d\x7d"
  root := onLine "function_declaration" true none 0 44 [
    onLine "function" false none 0 8 [],
    onLine "identifier" true (some "name") 9 10 [],
    onLine "formal_parameters" true (some "parameters") 10 12 [],
    onLine "statement_block" true (some "body") 12 44 [
      onLine "expression_statement" true none 13 26 [onLine "string" true none 13 25 []],
      onLine "expression_statement" true none 26 43 [innerAction]]]
  broken := false

lemma innerAction_isSyncAction : innerAction.IsSyncAction nestedActions.bytes where
  named := rfl
  function := by decide
  notGenerator := by decide
  notAsync := by simp [Node.HasKeyword, innerAction, onLine, Node.children, Node.type, Node.named]
  notStarred := by simp [Node.HasKeyword, innerAction, onLine, Node.children, Node.type, Node.named]
  notAccessor := nofun
  directive := by
    have hplain : ∀ c ∈ "use server".toList.map CodePoint.ofChar, c ≠ Escape.backslash := by decide
    have htext : Node.text nestedActions.bytes (onLine "template_string" true none 30 42 []) =
        '\x60' :: "use server".toList ++ ['\x60'] := by
      rw [Node.text, Utf8.decode_of_ascii (by decide)]
      decide
    have hwhole : ¬ ∃ c ∈ (onLine "template_string" true none 30 42 []).children,
        c.named = true ∧ c.type = "template_substitution" := by
      rintro ⟨c, hc, -⟩
      cases hc
    exact ⟨_, _, _, Node.child?_eq_some_iff.mp rfl, rfl, Node.firstStatement?_eq_some_iff.mp rfl, rfl,
      Node.firstStatement?_eq_some_iff.mp rfl, Or.inr ⟨rfl, hwhole⟩, '\x60', "use server".toList,
      by decide, htext, cook_of_plain hplain⟩

/-- The arrow function is reported although it stands in another action. -/
theorem run_reports_innerAction :
    (∀ path n, nestedActions.root.get? path = some n → n.Counted) ∧
      (run nestedActions "error").failure = none ∧
      ∃ x ∈ (run nestedActions "error").findings, innerAction.Reported nestedActions "error" x := by
  have hcounted : ∀ n ∈ nestedActions.root.preorder, n.Counted := by decide
  have hplaces : ∀ path n, nestedActions.root.get? path = some n → n.Counted :=
    fun path n h => hcounted n (Node.mem_preorder_iff_get?.mpr ⟨path, h⟩)
  obtain ⟨hfailure, places, -, hmem, hforall⟩ := run_reports_syncActions nestedActions "error" hplaces
  refine ⟨hplaces, hfailure, ?_⟩
  have hinner : [3, 1, 0] ∈ places := (hmem _).mpr ⟨innerAction, rfl, innerAction_isSyncAction⟩
  obtain ⟨i, hi, hget⟩ := List.getElem_of_mem hinner
  obtain ⟨hlen, hpoint⟩ := List.forall₂_iff_get.mp hforall
  obtain ⟨n, hn, hx⟩ := hpoint i hi (hlen ▸ hi)
  rw [List.get_eq_getElem, hget] at hn
  cases hn
  exact ⟨_, List.get_mem _ _, hx⟩

end AsyncAction

end AsyncActions
