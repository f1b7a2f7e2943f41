import AsyncActions.Proofs.MendedFunctions

/-!
# One source after another

Two sources are joined into one: the bytes of the second follow those of the first, and its tree moves
with them. What the rule looks at lies inside one of the two, so a run on the whole reports what it
reports on each, and the keywords it puts in are those of each. Nothing is asked of the bytes where the
sources meet, and nothing of how the places of a tree lie to each other.
-/

namespace AsyncActions

/-- How far the bytes of a tree move, and where its points go. -/
structure Shift where
  bytes : Nat
  point : Point → Point
  counted : ∀ p, p.Counted → (point p).Counted

/-- Everything stays. -/
def Shift.still : Shift := ⟨0, id, fun _ h => h⟩

def Extent.shift (s : Shift) (x : Extent) : Extent :=
  ⟨x.startByte + s.bytes, x.endByte + s.bytes, s.point x.startPoint, s.point x.endPoint⟩

namespace Node

mutual

/-- The same tree with its places moved. -/
def shift (s : Shift) : Node → Node
  | mk type named field extent cs => mk type named field (extent.shift s) (shiftAll s cs)

def shiftAll (s : Shift) : List Node → List Node
  | [] => []
  | c :: cs => c.shift s :: shiftAll s cs

end

end Node

def Function.shift (s : Shift) (f : Function) : Function :=
  { f with
    startByte := f.startByte + s.bytes
    endByte := f.endByte + s.bytes
    startPoint := s.point f.startPoint
    endPoint := s.point f.endPoint
    insertByte := f.insertByte.map (· + s.bytes)
    insertPoint := f.insertPoint.map s.point }

/-- The point that a line and a column counted from one name. -/
def Point.named (line column : Ordinal) : Point := ⟨(line.val : Int) - 1, (column.val : Int) - 1⟩

def Fix.shift (s : Shift) (x : Fix) : Fix :=
  let p := s.point (.named x.line x.column)
  ⟨x.offset + s.bytes, x.text, p.line, p.position⟩

def Location.shift (s : Shift) (l : Location) : Location :=
  let start := s.point (.named l.line l.column)
  match l.endLine, l.endColumn with
  | some line, some column =>
    let stop := s.point (.named line column)
    ⟨l.path, start.line, start.position, some stop.line, some stop.position, l.snippet⟩
  | endLine, endColumn => ⟨l.path, start.line, start.position, endLine, endColumn, l.snippet⟩

/-- The same finding in a source that moved: only its places differ. -/
def Finding.shift (s : Shift) (x : Finding) : Finding :=
  { x with
    location := x.location.shift s
    suggestions := x.suggestions.map fun g => { g with fix := g.fix.shift s } }

/-- The bytes of one source stand in another, moved as the shift says. -/
def Shift.Embeds (s : Shift) (source whole : Bytes) : Prop :=
  ∃ before after, whole = before ++ source ++ after ∧ before.length = s.bytes

/-- The node lies in the source, and if it is a function, the keyword goes to the start of a node that
has text. -/
structure Node.Seated (n : Node) (source : Bytes) : Prop where
  inside : 0 ≤ n.startByte ∧ n.startByte ≤ n.endByte ∧ n.endByte ≤ source.length
  token : ∀ f ∈ n.function? source, ∃ t ∈ n.insertionToken?, t.startByte = f.asyncByte ∧
    t.startByte < t.endByte

/-- Each node of the source is seated in it, none of its places is negative, and its root is no
function. -/
structure Source.Seated (source : Source) : Prop where
  seated : ∀ n ∈ source.root.preorder, n.Seated source.bytes
  counted : ∀ n ∈ source.root.preorder, n.Counted
  root : source.root.isFunction = false

instance (n : Node) (source : Bytes) : Decidable (n.Seated source) :=
  decidable_of_iff ((0 ≤ n.startByte ∧ n.startByte ≤ n.endByte ∧ n.endByte ≤ source.length) ∧
      ∀ f ∈ n.function? source, ∃ t ∈ n.insertionToken?, t.startByte = f.asyncByte ∧
        t.startByte < t.endByte)
    ⟨fun ⟨hi, ht⟩ => ⟨hi, ht⟩, fun ⟨hi, ht⟩ => ⟨hi, ht⟩⟩

/-- The third source is the first with the second after it. Its root holds what theirs hold. -/
structure Source.Joins (s : Shift) (a b whole : Source) : Prop where
  path_left : whole.path = a.path
  path_right : whole.path = b.path
  bytes : whole.bytes = a.bytes ++ b.bytes
  distance : s.bytes = a.bytes.length
  children : whole.root.children = a.root.children ++ b.root.children.map (Node.shift s)
  root : whole.root.isFunction = false

lemma Point.named_line_position {p : Point} (h : p.Counted) : named p.line p.position = p := by
  obtain ⟨hr, hc⟩ := h
  cases p
  simp only [named, line, position, Ordinal.after] at *
  congr 1 <;> omega

lemma Ordinal.eq_of_val_eq {m n : Ordinal} (h : m.val = n.val) : m = n := by
  cases m
  cases n
  cases h
  rfl

lemma Point.line_named (line column : Ordinal) : (named line column).line = line := by
  have := line.pos
  refine Ordinal.eq_of_val_eq ?_
  simp only [named, Point.line, Ordinal.after]
  omega

lemma Point.position_named (line column : Ordinal) : (named line column).position = column := by
  have := column.pos
  refine Ordinal.eq_of_val_eq ?_
  simp only [named, Point.position, Ordinal.after]
  omega

namespace Node

lemma shiftAll_eq_map (s : Shift) (cs : List Node) : shiftAll s cs = cs.map (shift s) := by
  induction cs with
  | nil => rfl
  | cons c cs ih => rw [shiftAll, ih, List.map_cons]

variable (s : Shift) (n : Node)

@[simp] lemma type_shift : (n.shift s).type = n.type := by cases n; rfl

@[simp] lemma named_shift : (n.shift s).named = n.named := by cases n; rfl

@[simp] lemma field_shift : (n.shift s).field = n.field := by cases n; rfl

@[simp] lemma startByte_shift : (n.shift s).startByte = n.startByte + s.bytes := by cases n; rfl

@[simp] lemma endByte_shift : (n.shift s).endByte = n.endByte + s.bytes := by cases n; rfl

@[simp] lemma startPoint_shift : (n.shift s).startPoint = s.point n.startPoint := by cases n; rfl

@[simp] lemma endPoint_shift : (n.shift s).endPoint = s.point n.endPoint := by cases n; rfl

@[simp] lemma children_shift : (n.shift s).children = n.children.map (shift s) := by
  cases n with
  | mk type named field extent cs => exact shiftAll_eq_map s cs

lemma shift_still : n.shift .still = n := by
  induction n using induction_children with
  | step n ih =>
    cases n with
    | mk type named field extent cs =>
      have hcs : cs.map (shift .still) = cs := by
        conv_rhs => rw [← List.map_id cs]
        exact List.map_congr_left ih
      have hextent : extent.shift .still = extent := by
        simp only [Extent.shift, Shift.still, Int.natCast_zero, Int.add_zero, id]
      rw [shift, shiftAll_eq_map, hcs, hextent]

end Node

lemma Function.shift_still (f : Function) : f.shift .still = f := by
  obtain ⟨_, _, _, _, _, _, _, _, _, _, insertByte, insertPoint⟩ := f
  cases insertByte <;> cases insertPoint <;> simp [shift, Shift.still]

lemma Fix.shift_still (x : Fix) : x.shift .still = x := by
  simp only [shift, Shift.still, id, Point.line_named, Point.position_named, Nat.add_zero]

lemma Location.shift_still (l : Location) : l.shift .still = l := by
  obtain ⟨path, line, column, endLine, endColumn, snippet⟩ := l
  cases endLine <;> cases endColumn <;>
    simp only [shift, Shift.still, id, Point.line_named, Point.position_named]

lemma Finding.shift_still (x : Finding) : x.shift .still = x := by
  simp only [shift, Location.shift_still, Fix.shift_still, List.map_id']

/-! ### What the rule looks at -/

lemma Shift.Embeds.slice {s : Shift} {source whole : Bytes} (h : s.Embeds source whole) {i j : Int}
    (hi : 0 ≤ i) (hij : i ≤ j) (hj : j ≤ source.length) :
    whole.slice (i + s.bytes) (j + s.bytes) = source.slice i j := by
  obtain ⟨before, after, rfl, hlen⟩ := h
  obtain ⟨a, rfl⟩ := Int.eq_ofNat_of_zero_le hi
  obtain ⟨b, rfl⟩ := Int.eq_ofNat_of_zero_le (Int.le_trans hi hij)
  have hb : b ≤ source.length := by omega
  have htake : (before ++ source ++ after).take (before.length + b) = before ++ source.take b := by
    rw [List.append_assoc, List.take_length_add_append, List.take_append_of_le_length hb]
  rw [← hlen, ← Int.natCast_add, ← Int.natCast_add, Bytes.slice_of_le (by omega) (by simp; omega),
    Bytes.slice_of_le (by omega) hb, Nat.add_comm b, htake, Nat.add_comm a,
    List.drop_length_add_append]

namespace Node

variable {s : Shift} {source whole : Bytes}

lemma text_shift (h : s.Embeds source whole) {n : Node} (hn : n.Seated source) :
    (n.shift s).text whole = n.text source := by
  obtain ⟨hstart, hle, hend⟩ := hn.inside
  rw [text, text, startByte_shift, endByte_shift, h.slice hstart hle hend]

lemma child?_shift (n : Node) (role : String) :
    (n.shift s).child? role = (n.child? role).map (shift s) := by
  rw [child?, child?, children_shift, List.find?_map]
  simp only [Function.comp_def, field_shift]

lemma namedChildren_shift (n : Node) :
    (n.shift s).namedChildren = n.namedChildren.map (shift s) := by
  rw [namedChildren, namedChildren, children_shift, List.filter_map]
  simp only [Function.comp_def, named_shift]

lemma firstStatement?_shift (n : Node) :
    (n.shift s).firstStatement? = n.firstStatement?.map (shift s) := by
  rw [firstStatement?, firstStatement?, namedChildren_shift, List.find?_map]
  simp only [Function.comp_def, isComment, type_shift]

lemma hasToken_shift (n : Node) (words : List String) :
    (n.shift s).hasToken words = n.hasToken words := by
  rw [hasToken, hasToken, children_shift, List.any_map]
  simp only [Function.comp_def, named_shift, type_shift]

lemma functionKind?_shift (n : Node) : (n.shift s).functionKind? = n.functionKind? := by
  rw [functionKind?, functionKind?, named_shift, type_shift]

lemma preorder_shift (n : Node) : (n.shift s).preorder = n.preorder.map (shift s) := by
  induction n using induction_children with
  | step n ih =>
    rw [preorder_eq, preorder_eq, children_shift, List.flatMap_map, List.map_cons, List.map_flatMap]
    exact congrArg (_ :: ·) (List.flatMap_congr ih)

lemma firstStatement?_mem {n c : Node} (h : n.firstStatement? = some c) : c ∈ n.children :=
  List.mem_of_mem_filter (List.mem_of_find?_eq_some h)

lemma child?_mem {n c : Node} {role : String} (h : n.child? role = some c) : c ∈ n.children :=
  List.mem_of_find?_eq_some h

lemma literalValue?_shift (h : s.Embeds source whole) {n : Node} (hn : n.Seated source) :
    (n.shift s).literalValue? whole = n.literalValue? source := by
  simp only [literalValue?, type_shift, namedChildren_shift, List.any_map, Function.comp_def,
    text_shift h hn]

lemma statement_shift (h : s.Embeds source whole) {n : Node}
    (hn : ∀ c ∈ n.children, c.Seated source) :
    (n.shift s).statement whole = n.statement source := by
  unfold statement
  rw [type_shift, firstStatement?_shift]
  cases hfirst : n.firstStatement? with
  | none => rfl
  | some e =>
    have he := hn e (firstStatement?_mem hfirst)
    simp only [Option.map_some, type_shift, literalValue?_shift h he]

lemma block?_shift (h : s.Embeds source whole) {n : Node}
    (hn : ∀ m ∈ n.preorder, m.Seated source) : (n.shift s).block? whole = n.block? source := by
  unfold block?
  rw [type_shift, firstStatement?_shift]
  cases hfirst : n.firstStatement? with
  | none => rfl
  | some e =>
    have he := firstStatement?_mem hfirst
    have hstatement := statement_shift (n := e) h fun c hc =>
      hn c (mem_preorder_of_child he (mem_preorder_of_child hc (self_mem_preorder c)))
    simp only [Option.map_some, hstatement]

lemma name_shift (h : s.Embeds source whole) {key : Node} (hkey : key.Seated source) :
    methodName? whole (key.shift s) = methodName? source key := by
  simp only [methodName?, type_shift, text_shift h hkey]

/-- The function that a node defines moves with it. -/
lemma function?_shift (h : s.Embeds source whole) {n : Node}
    (hn : ∀ m ∈ n.preorder, m.Seated source) :
    (n.shift s).function? whole = (n.function? source).map (Function.shift s) := by
  have hbelow {role : String} {c : Node} (hc : n.child? role = some c) :
      ∀ m ∈ c.preorder, m.Seated source :=
    fun m hm => hn m (mem_preorder_of_child (child?_mem hc) hm)
  have hbody : ((n.child? "body").map (shift s)).bind (block? whole) =
      (n.child? "body").bind (block? source) := by
    cases hc : n.child? "body" with
    | none => rfl
    | some c => exact block?_shift h (hbelow hc)
  have hmethod : ((n.child? "name").map (shift s)).bind (methodName? whole) =
      (n.child? "name").bind (methodName? source) := by
    cases hc : n.child? "name" with
    | none => rfl
    | some c => exact name_shift h (hbelow hc c (self_mem_preorder c))
  have hname : ((n.child? "name").map (shift s)).map (fun k => String.ofList (k.text whole)) =
      (n.child? "name").map fun k => String.ofList (k.text source) := by
    cases hc : n.child? "name" with
    | none => rfl
    | some c =>
      have htext := text_shift h (hbelow hc c (self_mem_preorder c))
      simp only [Option.map_some, htext]
  unfold function?
  rw [functionKind?_shift, Option.map_map]
  congr 1
  funext kind
  simp only [Function.comp_apply, Function.shift, type_shift, hasToken_shift, child?_shift, hbody,
    hmethod, hname, startByte_shift, endByte_shift, startPoint_shift, endPoint_shift]
  by_cases hkind : kind = .method
  · simp only [hkind, if_true, Option.map_map, Function.comp_def, startByte_shift, startPoint_shift]
  · simp only [hkind, if_false, Option.map_none]

lemma functions_shift (h : s.Embeds source whole) {n : Node}
    (hn : ∀ m ∈ n.preorder, m.Seated source) :
    (n.shift s).functions whole = (n.functions source).map (Function.shift s) := by
  rw [functions, functions, preorder_shift, List.filterMap_map, List.map_filterMap]
  refine List.filterMap_congr fun m hm => ?_
  exact function?_shift h fun k hk => hn k (mem_preorder_trans hk hm)

end Node

section

variable {s : Shift} {source whole : Source} {f : Function}

lemma Function.asyncByte_shift : (f.shift s).asyncByte = f.asyncByte + s.bytes := by
  unfold asyncByte shift
  cases f.insertByte <;> rfl

lemma Function.asyncPoint_shift : (f.shift s).asyncPoint = s.point f.asyncPoint := by
  unfold asyncPoint shift
  cases f.insertPoint <;> rfl

lemma Function.placed_shift (h : f.Placed) : (f.shift s).Placed where
  asyncByte := by
    have := h.asyncByte
    rw [asyncByte_shift]
    omega
  asyncPoint := asyncPoint_shift ▸ s.counted _ h.asyncPoint
  startPoint := s.counted _ h.startPoint
  endPoint := s.counted _ h.endPoint

lemma Source.Seated.placed (h : source.Seated) {n : Node} (hn : n ∈ source.root.preorder)
    (hf : n.function? source.bytes = some f) : f.Placed :=
  AsyncAction.placed_of_counted h.counted hn hf

lemma Source.Seated.placed_of_flagged (h : source.Seated) (hf : f ∈ AsyncAction.flagged source) :
    f.Placed :=
  AsyncAction.placed_of_flagged h.counted hf

/-- The text of a function is decoded from its own bytes only. -/
lemma Source.Seated.text_shift (h : source.Seated) (he : s.Embeds source.bytes whole.bytes) {n : Node}
    (hn : n ∈ source.root.preorder) (hf : n.function? source.bytes = some f) :
    (f.shift s).text whole.bytes = f.text source.bytes := by
  obtain ⟨hstart, hle, hend⟩ := (h.seated n hn).inside
  obtain ⟨kind, -, rfl⟩ := Option.map_eq_some_iff.mp hf
  exact congrArg Utf8.decode (he.slice hstart hle hend)

lemma Source.Seated.snippet_shift (h : source.Seated) (he : s.Embeds source.bytes whole.bytes) {n : Node}
    (hn : n ∈ source.root.preorder) (hf : n.function? source.bytes = some f) :
    (f.shift s).snippet whole.bytes = f.snippet source.bytes := by
  unfold Function.snippet
  rw [h.text_shift he hn hf]

namespace AsyncAction

lemma insertion_shift (h : f.Placed) : insertion (f.shift s) = (insertion f).shift s := by
  have hbyte := h.asyncByte
  have hoffset : (f.asyncByte + s.bytes).toNat = f.asyncByte.toNat + s.bytes := by omega
  simp only [insertion, Fix.shift, Function.asyncByte_shift, Function.asyncPoint_shift, hoffset,
    Point.named_line_position h.asyncPoint]

lemma findingOf_shift (severity : String) (h : source.Seated) (hpath : whole.path = source.path)
    (he : s.Embeds source.bytes whole.bytes) {n : Node} (hn : n ∈ source.root.preorder)
    (hf : n.function? source.bytes = some f) :
    findingOf whole severity (f.shift s) = (findingOf source severity f).shift s := by
  have hplaced := h.placed hn hf
  have hsnippet := h.snippet_shift he hn hf
  have hlocation : location (f.shift s) whole.path whole.bytes =
      (location f source.path source.bytes).shift s := by
    simp only [location, Location.shift, hpath, hsnippet, Point.named_line_position hplaced.startPoint,
      Point.named_line_position hplaced.endPoint]
    rfl
  simp only [findingOf, finding, Finding.shift, hlocation, insertion_shift hplaced, List.map_cons,
    List.map_nil]
  rfl

lemma run_of_seated (severity : String) (h : source.Seated) :
    (run source severity).findings = (flagged source).map (findingOf source severity) :=
  (run_of_placed severity fun _ => h.placed_of_flagged).1

/-- Of a root that is no function only the children count. -/
lemma flagged_of_children (h : source.root.isFunction = false) :
    flagged source =
      (source.root.children.flatMap (Node.functions source.bytes)).filter Function.isSyncAction := by
  have hroot : source.root.function? source.bytes = none := by
    unfold Node.function?
    rw [Option.map_eq_none_iff]
    simpa [Node.isFunction] using h
  rw [flagged, Node.functions_eq, hroot, Option.toList_none, List.nil_append]

/-- What is flagged in children that moved is what was flagged in them. -/
lemma flagged_shift (h : source.Seated) (he : s.Embeds source.bytes whole.bytes) :
    ((source.root.children.map (Node.shift s)).flatMap (Node.functions whole.bytes)).filter
        Function.isSyncAction = (flagged source).map (Function.shift s) := by
  have hchild : ∀ c ∈ source.root.children, (c.shift s).functions whole.bytes =
      (c.functions source.bytes).map (Function.shift s) := fun c hc =>
    Node.functions_shift he fun m hm => h.seated m (Node.mem_preorder_of_child hc hm)
  rw [flagged_of_children h.root, List.flatMap_map, List.flatMap_congr hchild, ← List.map_flatMap,
    List.filter_map]
  rfl

lemma findings_shift (severity : String) (h : source.Seated) (hpath : whole.path = source.path)
    (he : s.Embeds source.bytes whole.bytes) :
    ((flagged source).map (Function.shift s)).map (findingOf whole severity) =
      (run source severity).findings.map (Finding.shift s) := by
  rw [run_of_seated severity h, List.map_map, List.map_map]
  refine List.map_congr_left fun f hf => ?_
  obtain ⟨n, hn, hfn⟩ := List.mem_filterMap.mp (List.mem_of_mem_filter hf)
  exact findingOf_shift severity h hpath he hn hfn

end AsyncAction

end

/-! ### What is put in -/

namespace Fix

section

variable {s : Shift} {fs gs : List Fix}

lemma textAt_append_left {pos : Nat} (h : ∀ g ∈ gs, g.offset ≠ pos) :
    textAt (fs ++ gs) pos = textAt fs pos := by
  have hnone : gs.find? (·.offset = pos) = none :=
    List.find?_eq_none.mpr fun g hg => by simpa using h g hg
  rw [textAt, textAt, List.find?_append, hnone, Option.or_none]

lemma textAt_append_right {pos : Nat} (h : ∀ f ∈ fs, f.offset ≠ pos) :
    textAt (fs ++ gs) pos = textAt gs pos := by
  have hnone : fs.find? (·.offset = pos) = none :=
    List.find?_eq_none.mpr fun f hf => by simpa using h f hf
  rw [textAt, textAt, List.find?_append, hnone, Option.none_or]

lemma textAt_shift (fs : List Fix) (pos : Nat) :
    textAt (fs.map (shift s)) (pos + s.bytes) = textAt fs pos := by
  induction fs with
  | nil => rfl
  | cons f fs ih =>
    rw [List.map_cons, textAt_cons, textAt_cons, ih]
    by_cases h : f.offset = pos
    · have he : (f.shift s).offset = pos + s.bytes := congrArg (· + s.bytes) h
      rw [if_pos h, if_pos he]
      rfl
    · have hne : (f.shift s).offset ≠ pos + s.bytes := fun he => h (Nat.add_right_cancel he)
      rw [if_neg h, if_neg hne]

lemma weave_congr {fs fs' : List Fix} (xs : Bytes) {pos : Nat}
    (h : ∀ i, pos ≤ i → i < pos + xs.length → textAt fs i = textAt fs' i) :
    weave fs pos xs = weave fs' pos xs := by
  induction xs generalizing pos with
  | nil => rfl
  | cons b xs ih =>
    simp only [List.length_cons] at h
    rw [weave, weave, h pos (Nat.le_refl _) (by omega), ih fun i hi hlt => h i (by omega) (by omega)]

lemma spliceFrom_shift (fs : List Fix) (xs : Bytes) (pos : Nat) :
    spliceFrom (fs.map (shift s)) (pos + s.bytes) xs = spliceFrom fs pos xs := by
  induction xs generalizing pos with
  | nil => exact textAt_shift fs pos
  | cons b xs ih => rw [spliceFrom, spliceFrom, textAt_shift, Nat.add_right_comm, ih (pos + 1)]

/-- Fixes of two sources go into the joined one as into each. None of the first stands at the seam. -/
lemma splice_append {xs ys : Bytes} (hs : s.bytes = xs.length) (hf : ∀ f ∈ fs, f.offset < xs.length) :
    splice (fs ++ gs.map (shift s)) (xs ++ ys) = splice fs xs ++ splice gs ys := by
  have hshifted : ∀ g ∈ gs.map (shift s), xs.length ≤ g.offset := by
    refine List.forall_mem_map.mpr fun g _ => ?_
    rw [← hs]
    exact Nat.le_add_left _ _
  have hfirst : weave (fs ++ gs.map (shift s)) 0 xs = weave fs 0 xs := by
    refine weave_congr xs fun i _ hi => textAt_append_left fun g hg => ?_
    have := hshifted g hg
    omega
  have hend : splice fs xs = weave fs 0 xs := by
    have hnone : textAt fs xs.length = [] := textAt_eq_nil fun f h => Nat.ne_of_lt (hf f h)
    have happend := spliceFrom_append fs xs [] 0
    rwa [List.append_nil, spliceFrom, Nat.zero_add, hnone, List.append_nil] at happend
  have hsecond : spliceFrom (fs ++ gs.map (shift s)) xs.length ys = splice gs ys := by
    have hmoved := spliceFrom_shift (s := s) gs ys 0
    rw [Nat.zero_add, hs] at hmoved
    rw [splice, ← hmoved]
    refine spliceFrom_congr ys fun i hi => textAt_append_right fun f h => ?_
    have := hf f h
    omega
  rw [splice, spliceFrom_append, Nat.zero_add, hfirst, hsecond, hend]

lemma firsts_append (h : ∀ f ∈ fs, ∀ g ∈ gs, g.offset ≠ f.offset) :
    firsts (fs ++ gs) = firsts fs ++ firsts gs := by
  induction fs with
  | nil => rfl
  | cons f fs ih =>
    have hkeep : (firsts gs).filter (·.offset ≠ f.offset) = firsts gs := by
      refine List.filter_eq_self.mpr fun g hg => ?_
      simpa using h f List.mem_cons_self g (List.mem_of_find?_eq_some (mem_firsts.mp hg))
    rw [List.cons_append, firsts, firsts, ih fun x hx => h x (List.mem_cons_of_mem _ hx),
      List.filter_append, hkeep, List.cons_append]

lemma firsts_shift (gs : List Fix) : firsts (gs.map (shift s)) = (firsts gs).map (shift s) := by
  induction gs with
  | nil => rfl
  | cons g gs ih =>
    have hoffset (x : Fix) : (x.shift s).offset ≠ (g.shift s).offset ↔ x.offset ≠ g.offset :=
      not_congr Nat.add_right_cancel_iff
    rw [List.map_cons, firsts, firsts, ih, List.map_cons, List.filter_map]
    simp only [Function.comp_def, hoffset]

/-- The fixes that count are those that count in each source. -/
lemma applied_append {size : Nat} (hs : s.bytes = size) (hf : ∀ f ∈ fs, f.offset < size) :
    applied (fs ++ gs.map (shift s)) = applied fs ++ (applied gs).map (shift s) := by
  have hbelow {f g : Fix} (h : f ∈ fs) : f.offset < (g.shift s).offset := by
    have := hf f h
    simp only [shift]
    omega
  have hfirsts : firsts (fs ++ gs.map (shift s)) = firsts fs ++ (firsts gs).map (shift s) := by
    rw [firsts_append fun f h => List.forall_mem_map.mpr fun g _ => Nat.ne_of_gt (hbelow h), firsts_shift]
  have hperm : (applied (fs ++ gs.map (shift s))).Perm (applied fs ++ (applied gs).map (shift s)) := by
    have hsplit := (List.mergeSort_perm (firsts fs) fun f g => f.offset ≤ g.offset).append
      ((List.mergeSort_perm (firsts gs) fun f g => f.offset ≤ g.offset).map (shift s))
    rw [← hfirsts] at hsplit
    exact (List.mergeSort_perm _ _).trans hsplit.symm
  have hsorted : (applied fs ++ (applied gs).map (shift s)).Pairwise (·.offset < ·.offset) := by
    refine List.pairwise_append.mpr ⟨applied_pairwise fs, ?_, fun f h => ?_⟩
    · exact (applied_pairwise gs).map _ fun f g h => Nat.add_lt_add_right h _
    · exact List.forall_mem_map.mpr fun g _ => hbelow (mem_of_mem_applied h)
  refine hperm.eq_of_pairwise (fun f g _ _ hfg hgf => ?_) (applied_pairwise _) hsorted
  exact absurd hfg (Nat.lt_asymm hgf)

end

end Fix

lemma Finding.fix?_shift (s : Shift) (x : Finding) : (x.shift s).fix? = x.fix?.map (Fix.shift s) := by
  unfold fix? shift
  rw [List.head?_map, Option.map_map, Option.map_map]
  rfl

lemma chosenFixes_append (xs ys : List Finding) :
    chosenFixes (xs ++ ys) = chosenFixes xs ++ chosenFixes ys :=
  List.filterMap_append

lemma chosenFixes_shift (s : Shift) (xs : List Finding) :
    chosenFixes (xs.map (Finding.shift s)) = (chosenFixes xs).map (Fix.shift s) := by
  rw [chosenFixes, chosenFixes, List.filterMap_map, List.map_filterMap]
  exact List.filterMap_congr fun x _ => Finding.fix?_shift s x

namespace AsyncAction

/-- The keyword goes before a byte of the source. -/
lemma offset_lt_of_seated {source : Source} (severity : String) (h : source.Seated) :
    ∀ x ∈ chosenFixes (run source severity).findings, x.offset < source.bytes.length := by
  rw [run_of_seated severity h, chosenFixes_map_findingOf]
  refine List.forall_mem_map.mpr fun f hf => ?_
  obtain ⟨n, hn, hfn⟩ := List.mem_filterMap.mp (List.mem_of_mem_filter hf)
  obtain ⟨t, ht, hstart, hwide⟩ := (h.seated n hn).token f hfn
  have hinside := (h.seated t (Node.child_mem_preorder (Node.insertionToken?_mem ht) hn)).inside
  simp only [insertion]
  omega

/-- What a run reports on a source that follows another is what it reports on each of the two, the second
with its places moved. Applying all of it gives what applying gives on each, one after the other. -/
theorem run_joined (s : Shift) (a b whole : Source) (severity : String) (h : Source.Joins s a b whole)
    (ha : a.Seated) (hb : b.Seated) :
    (run whole severity).findings =
        (run a severity).findings ++ (run b severity).findings.map (Finding.shift s) ∧
      (run whole severity).failure = none ∧
      ∃ first second, applySuggestions a.bytes (run a severity).findings = .ok first ∧
        applySuggestions b.bytes (run b severity).findings = .ok second ∧
        applySuggestions whole.bytes (run whole severity).findings =
          .ok ⟨first.source ++ second.source, first.applied ++ second.applied.map (Fix.shift s)⟩ := by
  have hfirst : Shift.still.Embeds a.bytes whole.bytes := ⟨[], b.bytes, by rw [h.bytes]; rfl, rfl⟩
  have hsecond : s.Embeds b.bytes whole.bytes :=
    ⟨a.bytes, [], by rw [h.bytes, List.append_nil], h.distance.symm⟩
  have hstays : a.root.children.map (Node.shift .still) = a.root.children := by
    rw [funext Node.shift_still]
    exact List.map_id _
  have hflagged : flagged whole =
      (flagged a).map (Function.shift .still) ++ (flagged b).map (Function.shift s) := by
    rw [flagged_of_children h.root, h.children, List.flatMap_append, List.filter_append,
      flagged_shift hb hsecond, ← flagged_shift ha hfirst, hstays]
  have hplaced : ∀ f ∈ flagged whole, f.Placed := by
    rw [hflagged]
    intro f hf
    rcases List.mem_append.mp hf with hf | hf
    · obtain ⟨g, hg, rfl⟩ := List.mem_map.mp hf
      exact Function.placed_shift (ha.placed_of_flagged hg)
    · obtain ⟨g, hg, rfl⟩ := List.mem_map.mp hf
      exact Function.placed_shift (hb.placed_of_flagged hg)
  obtain ⟨hrun, hfailure⟩ := run_of_placed severity hplaced
  have hfindings : (run whole severity).findings =
      (run a severity).findings ++ (run b severity).findings.map (Finding.shift s) := by
    rw [hrun, hflagged, List.map_append, findings_shift severity ha h.path_left hfirst,
      findings_shift severity hb h.path_right hsecond, funext Finding.shift_still]
    exact congrArg (· ++ _) (List.map_id _)
  have hinA := offset_lt_of_seated severity ha
  have hinB := offset_lt_of_seated severity hb
  have hin : ∀ x ∈ chosenFixes (run a severity).findings ++
      (chosenFixes (run b severity).findings).map (Fix.shift s), x.offset ≤ whole.bytes.length := by
    rw [h.bytes, List.length_append]
    intro x hx
    rcases List.mem_append.mp hx with hx | hx
    · have := hinA x hx
      omega
    · obtain ⟨y, hy, rfl⟩ := List.mem_map.mp hx
      have := hinB y hy
      have := h.distance
      simp only [Fix.shift]
      omega
  refine ⟨hfindings, hfailure, _, _, Fix.applyAll_eq fun x hx => Nat.le_of_lt (hinA x hx),
    Fix.applyAll_eq fun x hx => Nat.le_of_lt (hinB x hx), ?_⟩
  rw [hfindings, applySuggestions, chosenFixes_append, chosenFixes_shift, Fix.applyAll_eq hin, h.bytes,
    Fix.splice_append h.distance hinA, Fix.applied_append h.distance hinA]

/-- The two nested actions as a program. -/
def nestedProgram : Source :=
  { nestedActions with root := onLine "program" true none 0 44 [nestedActions.root] }

/-- On along the line by the length of the program. -/
def afterProgram : Shift where
  bytes := 44
  point p := ⟨p.row, p.column + 44⟩
  counted p h := ⟨h.1, Int.add_nonneg h.2 (by decide)⟩

def nestedProgramTwice : Source where
  path := nestedProgram.path
  bytes := nestedProgram.bytes ++ nestedProgram.bytes
  root := onLine "program" true none 0 88 [nestedActions.root, nestedActions.root.shift afterProgram]
  broken := false

lemma nestedProgram_seated : nestedProgram.Seated where
  seated := by decide
  counted := by decide
  root := rfl

lemma length_findings_nestedProgram (severity : String) :
    (run nestedProgram severity).findings.length = 2 := by
  have hflagged : flagged nestedProgram = flagged nestedActions := by
    rw [flagged_of_children rfl, flagged]
    exact congrArg (List.filter _) (List.append_nil _)
  rw [run_of_seated severity nestedProgram_seated, List.length_map, hflagged, flagged_nestedActions]
  rfl

lemma joins_nestedProgramTwice :
    Source.Joins afterProgram nestedProgram nestedProgram nestedProgramTwice where
  path_left := rfl
  path_right := rfl
  bytes := rfl
  distance := by decide
  children := rfl
  root := rfl

/-- All four actions are reported, and the keyword goes in before each. -/
theorem run_joined_nestedProgram :
    nestedProgram.Seated ∧ Source.Joins afterProgram nestedProgram nestedProgram nestedProgramTwice ∧
      (run nestedProgramTwice "error").findings.length = 4 ∧
      ∃ once, applySuggestions nestedProgram.bytes (run nestedProgram "error").findings = .ok once ∧
        ∃ edited, applySuggestions nestedProgramTwice.bytes (run nestedProgramTwice "error").findings =
          .ok edited ∧ edited.source = once.source ++ once.source := by
  obtain ⟨hfindings, -, first, second, hfirst, hsecond, hwhole⟩ :=
    run_joined afterProgram nestedProgram nestedProgram nestedProgramTwice "error"
      joins_nestedProgramTwice nestedProgram_seated nestedProgram_seated
  have hsame : first = second := Except.ok.inj (hfirst.symm.trans hsecond)
  subst hsame
  refine ⟨nestedProgram_seated, joins_nestedProgramTwice, ?_, first, hfirst, _, hwhole, rfl⟩
  rw [hfindings, List.length_append, List.length_map, length_findings_nestedProgram]

end AsyncAction

end AsyncActions
