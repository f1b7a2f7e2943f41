import AsyncActions.Proofs.Flagging

/-!
# Functions that may not become async

The keyword is allowed before most functions, but there is no async constructor, and a declaration that
is a branch or is labeled has to be a plain one. What a function is decides whether it is reported, and
not where it stands: generators and accessors are passed over, and of the others all sync actions are
reported, those among them that may not become async too.
-/

namespace AsyncActions

namespace Node

/-- The node at the path stands directly under the parent. -/
def Under (root : Node) (path : List Nat) (parent : Node) : Prop :=
  ∃ above i, path = above ++ [i] ∧ root.get? above = some parent

def IsGenerator (n : Node) : Prop := n.type ∈ generatorTypes ∨ n.HasKeyword "*"

def IsAccessor (n : Node) : Prop := n.type = "method_definition" ∧ (n.HasKeyword "get" ∨ n.HasKeyword "set")

/-- The key is the name or the string `constructor`. -/
def ReadsConstructor (key : Node) (source : Bytes) : Prop :=
  key.type = "property_identifier" ∧ key.text source = "constructor".toList ∨
    key.Spells source (Text.ofString "constructor")

/-- The node at the path is the constructor of a class. -/
structure IsConstructor (root : Node) (source : Bytes) (path : List Nat) (n : Node) : Prop where
  method : n.type = "method_definition"
  notStatic : ¬ n.HasKeyword "static"
  inClass : ∃ body, root.Under path body ∧ body.type = "class_body"
  key : ∃ key, n.FirstChild (InRole "name") key ∧ key.ReadsConstructor source

/-- Directly under this parent the node is a branch of a conditional or what a label is for. -/
def Governs (parent n : Node) : Prop :=
  parent.type = "if_statement" ∧ InRole "consequence" n ∨ parent.type = "else_clause" ∨
    parent.type = "labeled_statement" ∧ InRole "body" n

/-- The node at the path is a declaration that stands where only a statement belongs. -/
structure IsGoverned (root : Node) (path : List Nat) (n : Node) : Prop where
  declaration : n.type = "function_declaration"
  governed : ∃ parent, root.Under path parent ∧ parent.Governs n

/-- The grammar allows the keyword before the function at the path. -/
structure MayBeAsync (root : Node) (source : Bytes) (path : List Nat) (n : Node) : Prop where
  notGenerator : ¬ n.IsGenerator
  notAccessor : ¬ n.IsAccessor
  notConstructor : ¬ root.IsConstructor source path n
  notGoverned : ¬ root.IsGoverned path n

lemma IsSyncAction.not_isGenerator {n : Node} {source : Bytes} (h : n.IsSyncAction source) :
    ¬ n.IsGenerator := by
  rintro (htype | hstar)
  · exact h.notGenerator htype
  · exact h.notStarred hstar

lemma IsSyncAction.not_isAccessor {n : Node} {source : Bytes} (h : n.IsSyncAction source) :
    ¬ n.IsAccessor := by
  rintro ⟨htype, hget | hset⟩
  · exact (h.notAccessor htype).1 hget
  · exact (h.notAccessor htype).2 hset

/-- A sync action that may not become async is a constructor or stands where only a statement belongs. -/
lemma IsSyncAction.not_mayBeAsync_iff {root n : Node} {source : Bytes} {path : List Nat}
    (h : n.IsSyncAction source) :
    ¬ root.MayBeAsync source path n ↔ root.IsConstructor source path n ∨ root.IsGoverned path n := by
  constructor
  · intro hmay
    by_contra hnone
    obtain ⟨hconstructor, hgoverned⟩ := not_or.mp hnone
    exact hmay ⟨h.not_isGenerator, h.not_isAccessor, hconstructor, hgoverned⟩
  · rintro (hconstructor | hgoverned) hmay
    · exact hmay.notConstructor hconstructor
    · exact hmay.notGoverned hgoverned

end Node

namespace AsyncAction

/-- No generator and no accessor is reported, whatever the tree. Unless the run fails, the functions that
are reported and may not become async are the sync actions that are constructors or stand where only a
statement belongs. -/
theorem run_reports_not_mayBeAsync (source : Source) (severity : String) :
    ∃ places : List (List Nat),
      List.Forall₂ (fun path x => ∃ n, source.root.get? path = some n ∧ n.Reported source severity x)
        places (run source severity).findings ∧
      (∀ path ∈ places, ∀ n, source.root.get? path = some n → ¬ n.IsGenerator ∧ ¬ n.IsAccessor) ∧
      ((run source severity).failure = none → ∀ path n, source.root.get? path = some n →
        (path ∈ places ∧ ¬ source.root.MayBeAsync source.bytes path n ↔ n.IsSyncAction source.bytes ∧
          (source.root.IsConstructor source.bytes path n ∨ source.root.IsGoverned path n))) := by
  by_cases hall : ∀ f ∈ flagged source, f.Placed
  · obtain ⟨places, -, hmem, hforall⟩ := reported_of_placed severity hall
    have haction {path : List Nat} {n : Node} (hn : source.root.get? path = some n) :
        path ∈ places ↔ n.IsSyncAction source.bytes := by
      rw [hmem]
      constructor
      · rintro ⟨m, hm, h⟩
        cases hn.symm.trans hm
        exact h
      · exact fun h => ⟨n, hn, h⟩
    refine ⟨places, hforall, fun path hpath n hn => ?_, fun _ path n hn => ?_⟩
    · have h := (haction hn).mp hpath
      exact ⟨h.not_isGenerator, h.not_isAccessor⟩
    · rw [haction hn]
      exact and_congr_right fun h => h.not_mayBeAsync_iff
  · obtain ⟨hfindings, hfailure⟩ := run_of_not_placed severity (by simpa using hall)
    refine ⟨[], ?_, nofun, fun h => absurd h hfailure⟩
    rw [hfindings]
    exact List.Forall₂.nil

lemma exists_reported {source : Source} {severity : String} (hall : ∀ f ∈ flagged source, f.Placed)
    {path : List Nat} {n : Node} (hn : source.root.get? path = some n) (h : n.IsSyncAction source.bytes) :
    ∃ x ∈ (run source severity).findings, n.Reported source severity x := by
  obtain ⟨f, hf⟩ := Option.isSome_iff_exists.mp (Node.syncAction?_isSome_iff.mpr h)
  have hflagged : f ∈ flagged source := by
    rw [flagged_eq]
    exact List.mem_filterMap.mpr ⟨n, Node.mem_preorder_iff_get?.mpr ⟨path, hn⟩, hf⟩
  refine ⟨findingOf source severity f, ?_,
    reported_findingOf (Node.syncAction?_eq_some_iff.mp hf).1 (hall f hflagged)⟩
  rw [(run_of_placed severity hall).1]
  exact List.mem_map_of_mem hflagged

/-! ### A constructor and a branch -/

/-- A body that starts there and consists of the directive. -/
def directiveBody (start : Nat) : Node :=
  onLine "statement_block" true (some "body") start (start + 14) [
    onLine "expression_statement" true none (start + 1) (start + 13) [
      onLine "string" true none (start + 1) (start + 13) []]]

/-- The constructor of a class. -/
def constructorAction : Node :=
  onLine "method_definition" true (some "member") 8 35 [
    onLine "property_identifier" true (some "name") 8 19 [],
    onLine "formal_parameters" true (some "parameters") 19 21 [],
    directiveBody 21]

/-- A declaration that is the branch of a conditional. -/
def branchAction : Node :=
  onLine "function_declaration" true (some "consequence") 41 67 [
    onLine "function" false none 41 49 [],
    onLine "identifier" true (some "name") 50 51 [],
    onLine "formal_parameters" true (some "parameters") 51 53 [],
    directiveBody 53]

/-- Two server actions neither of which may become async. -/
def fixedActions : Source where
  path := ⟨.relative, ["actions.js"]⟩
  bytes := Utf8.encodeString
    "class A\x7bconstructor()\x7b\x27use server\x27\x7d\x7dif(a)function f()\x7b\x27use server\x27\x7d"
  root := onLine "program" true none 0 67 [
    onLine "class_declaration" true none 0 36 [
      onLine "class" false none 0 5 [],
      onLine "identifier" true (some "name") 6 7 [],
      onLine "class_body" true (some "body") 7 36 [constructorAction]],
    onLine "if_statement" true none 36 67 [
      onLine "if" false none 36 38 [],
      onLine "parenthesized_expression" true (some "condition") 38 41 [
        onLine "identifier" true none 39 40 []],
      branchAction]]
  broken := false

lemma opensWithDirective_of_directiveBody {n : Node} {start : Nat} {source : Bytes}
    (hbody : n.child? "body" = some (directiveBody start))
    (htext : Node.text source (onLine "string" true none (start + 1) (start + 13) []) =
      '\x27' :: "use server".toList ++ ['\x27']) :
    n.OpensWithDirective source := by
  have hplain : ∀ c ∈ "use server".toList.map CodePoint.ofChar, c ≠ Escape.backslash := by decide
  exact ⟨_, _, _, Node.child?_eq_some_iff.mp hbody, rfl, Node.firstStatement?_eq_some_iff.mp rfl, rfl,
    Node.firstStatement?_eq_some_iff.mp rfl, Or.inl rfl, '\x27', "use server".toList, by decide, htext,
    cook_of_plain hplain⟩

lemma constructorAction_isSyncAction : constructorAction.IsSyncAction fixedActions.bytes where
  named := rfl
  function := by decide
  notGenerator := by decide
  notAsync := by decide
  notStarred := by decide
  notAccessor := fun _ => by decide
  directive := opensWithDirective_of_directiveBody rfl <| by
    rw [Node.text, Utf8.decode_of_ascii (by decide)]
    decide

lemma branchAction_isSyncAction : branchAction.IsSyncAction fixedActions.bytes where
  named := rfl
  function := by decide
  notGenerator := by decide
  notAsync := by decide
  notStarred := by decide
  notAccessor := nofun
  directive := opensWithDirective_of_directiveBody rfl <| by
    rw [Node.text, Utf8.decode_of_ascii (by decide)]
    decide

lemma constructorAction_isConstructor :
    fixedActions.root.IsConstructor fixedActions.bytes [0, 2, 0] constructorAction where
  method := rfl
  notStatic := by decide
  inClass := ⟨_, ⟨[0, 2], 0, rfl, rfl⟩, rfl⟩
  key := by
    refine ⟨_, Node.child?_eq_some_iff.mp rfl, Or.inl ⟨rfl, ?_⟩⟩
    rw [Node.text, Utf8.decode_of_ascii (by decide)]
    decide

lemma branchAction_isGoverned : fixedActions.root.IsGoverned [1, 2] branchAction where
  declaration := rfl
  governed := ⟨_, ⟨[1], 2, rfl, rfl⟩, Or.inl ⟨rfl, rfl⟩⟩

/-- The constructor and the branch are reported all the same. -/
theorem run_reports_fixedActions :
    (run fixedActions "error").failure = none ∧
      (fixedActions.root.get? [0, 2, 0] = some constructorAction ∧
        fixedActions.root.IsConstructor fixedActions.bytes [0, 2, 0] constructorAction ∧
        ∃ x ∈ (run fixedActions "error").findings, constructorAction.Reported fixedActions "error" x) ∧
      fixedActions.root.get? [1, 2] = some branchAction ∧
        fixedActions.root.IsGoverned [1, 2] branchAction ∧
        ∃ x ∈ (run fixedActions "error").findings, branchAction.Reported fixedActions "error" x := by
  have hcounted : ∀ n ∈ fixedActions.root.preorder, n.Counted := by decide
  have hall : ∀ f ∈ flagged fixedActions, f.Placed := fun f hf => placed_of_flagged hcounted hf
  have hconstructor : fixedActions.root.get? [0, 2, 0] = some constructorAction := rfl
  have hbranch : fixedActions.root.get? [1, 2] = some branchAction := rfl
  exact ⟨(run_of_placed "error" hall).2,
    ⟨hconstructor, constructorAction_isConstructor,
      exists_reported hall hconstructor constructorAction_isSyncAction⟩,
    hbranch, branchAction_isGoverned, exists_reported hall hbranch branchAction_isSyncAction⟩

end AsyncAction

end AsyncActions
