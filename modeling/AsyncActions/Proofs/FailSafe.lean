import AsyncActions.Proofs.EncodedText
import AsyncActions.Proofs.Flagging
import Mathlib.Algebra.Group.Nat.Defs
import Mathlib.Data.List.TakeWhile

/-!
# What cannot go wrong

A run reports or stays silent, whatever the tree and the bytes are. The one thing that keeps a function from being
reported is a negative number in the record of its place, and then each such number is named.
-/

namespace AsyncActions

namespace Checked

variable {α β : Type}

/-- The flaws, none if there is a value. -/
def flaws : Checked α → Flaws
  | .ok _ => []
  | .error flaws => flaws

lemma flaws_both (a : Checked α) (b : Checked β) : (both a b).flaws = a.flaws ++ b.flaws := by
  cases a <;> cases b <;> simp [both, flaws]

lemma flaws_under (name : String) (a : Checked α) : (a.under name).flaws = a.flaws.map (Flaw.under name) := by
  cases a <;> rfl

lemma flaws_map (g : α → β) (a : Checked α) : Checked.flaws (Except.map g a) = a.flaws := by
  cases a <;> rfl

end Checked

/-- The flaw of each number that is negative, in the field of its name. -/
def negatives (numbers : List (String × Int)) : Flaws :=
  (numbers.filter fun n => n.2 < 0).map fun n => ⟨[n.1], .belowMinimum⟩

lemma negatives_eq_nil_iff {numbers : List (String × Int)} : negatives numbers = [] ↔ ∀ n ∈ numbers, 0 ≤ n.2 := by
  simp [negatives]

lemma negatives_append (xs ys : List (String × Int)) : negatives (xs ++ ys) = negatives xs ++ negatives ys := by
  rw [negatives, List.filter_append, List.map_append]
  rfl

lemma flaws_checkOffset (name : String) (i : Int) : ((checkOffset i).under name).flaws = negatives [(name, i)] := by
  rw [Checked.flaws_under, checkOffset]
  by_cases h : 0 ≤ i
  · rw [if_pos h]
    simp [Checked.flaws, negatives, h]
  · rw [if_neg h]
    simp [Checked.flaws, negatives, Flaw.under, Int.not_le.mp h]

lemma flaws_checkOrdinal_succ (name : String) (i : Int) :
    ((checkOrdinal (i + 1)).under name).flaws = negatives [(name, i)] := by
  rw [Checked.flaws_under]
  by_cases h : 0 ≤ i
  · rw [checkOrdinal_succ_eq_ok_iff.mpr ⟨h, rfl⟩]
    simp [Checked.flaws, negatives, h]
  · have ho : Ordinal.ofInt? (i + 1) = none := dif_neg (by omega)
    rw [checkOrdinal, ho]
    simp [Checked.flaws, negatives, Flaw.under, Int.not_le.mp h]

namespace Function

/-- The numbers in the fix for the function. -/
def fixNumbers (f : Function) : List (String × Int) :=
  [("offset", f.asyncByte), ("line", f.asyncPoint.row), ("column", f.asyncPoint.column)]

/-- The numbers in its location. -/
def locationNumbers (f : Function) : List (String × Int) :=
  [("line", f.startPoint.row), ("column", f.startPoint.column), ("end_line", f.endPoint.row),
    ("end_column", f.endPoint.column)]

/-- What keeps the function from being reported. The fix is made first. -/
def flaws (f : Function) : Flaws :=
  if negatives f.fixNumbers = [] then negatives f.locationNumbers else negatives f.fixNumbers

lemma negatives_fixNumbers_eq_nil_iff {f : Function} :
    negatives f.fixNumbers = [] ↔ 0 ≤ f.asyncByte ∧ f.asyncPoint.Counted := by
  simp [negatives_eq_nil_iff, fixNumbers, Point.Counted]

lemma negatives_locationNumbers_eq_nil_iff {f : Function} :
    negatives f.locationNumbers = [] ↔ f.startPoint.Counted ∧ f.endPoint.Counted := by
  simp [negatives_eq_nil_iff, locationNumbers, Point.Counted, and_assoc]

lemma flaws_eq_nil_iff {f : Function} : f.flaws = [] ↔ f.Placed := by
  rw [flaws]
  constructor
  · intro h
    split at h
    · next hnil =>
      obtain ⟨hbyte, hpoint⟩ := negatives_fixNumbers_eq_nil_iff.mp hnil
      obtain ⟨hstart, hend⟩ := negatives_locationNumbers_eq_nil_iff.mp h
      exact ⟨hbyte, hpoint, hstart, hend⟩
    · next hne => exact absurd h hne
  · intro h
    rw [if_pos (negatives_fixNumbers_eq_nil_iff.mpr ⟨h.asyncByte, h.asyncPoint⟩)]
    exact negatives_locationNumbers_eq_nil_iff.mpr ⟨h.startPoint, h.endPoint⟩

end Function

namespace Text

/-- What ends a line. -/
def lineEnds : List Char :=
  ['\n', '\x0b', '\x0c', '\r', '\x1c', '\x1d', '\x1e', '\u0085', '\u2028', '\u2029']

/-- The text starts with this line. -/
structure OpensWith (text line : List Char) : Prop where
  append : ∃ rest, text = line ++ rest ∧ ∀ c ∈ rest.head?, c ∈ lineEnds
  unbroken : ∀ c ∈ line, c ∉ lineEnds

lemma endsLine_iff {c : Char} : endsLine c = true ↔ c ∈ lineEnds := by
  simp only [endsLine, lineEnds, Char.le_def, UInt32.le_iff_toNat_le, Bool.or_eq_true, Bool.and_eq_true,
    decide_eq_true_eq, List.mem_cons, List.not_mem_nil, or_false, Char.ext_iff, ← UInt32.toNat_inj]
  simp only [Char.isValue, Char.reduceVal, UInt32.reduceToNat, Char.toNat_val]
  omega

lemma head?_lines {cs : List Char} (h : cs ≠ []) : (lines cs).head? = some (firstLine cs) := by
  fun_induction lines cs with
  | case1 => exact absurd rfl h
  | case2 cs ih => rfl
  | case3 c cs hc hends ih => simp [firstLine, hends]
  | case4 c cs hc hends hlines ih =>
    -- no line follows, so no text does
    have hnil : cs = [] := by
      by_contra hne
      have := ih hne
      rw [hlines] at this
      cases this
    simp [firstLine, hends, hnil]
  | case5 c cs hc hends l ls hlines ih =>
    have hne : cs ≠ [] := by
      rintro rfl
      cases hlines
    have hfirst := ih hne
    rw [hlines, List.head?_cons, Option.some.injEq] at hfirst
    simp [firstLine, hends, hfirst]

lemma opensWith_firstLine (cs : List Char) : OpensWith cs (firstLine cs) where
  append := by
    refine ⟨_, List.takeWhile_append_dropWhile.symm, fun c hc => ?_⟩
    rw [← List.find?_eq_head?_dropWhile_not] at hc
    exact endsLine_iff.mp (List.find?_some hc)
  unbroken c hc := by
    have hnot := List.mem_takeWhile_imp hc
    simpa [← endsLine_iff] using hnot

end Text

namespace Bytes

/-- The place of an offset: a negative one counts from the end, and none lies past an end. -/
def bound (bs : Bytes) (i : Int) : Int := if i < 0 then max 0 (bs.length + i) else min i bs.length

lemma slice_eq_nil_iff {bs : Bytes} {a b : Int} : bs.slice a b = [] ↔ bs.bound b ≤ bs.bound a := by
  rw [slice, List.drop_eq_nil_iff, List.length_take, bound, bound]
  simp only
  split_ifs <;> omega

end Bytes

namespace Utf8

lemma decode_eq_nil_iff {bs : Bytes} : decode bs = [] ↔ bs = [] := by
  fun_cases decode bs with
  | case1 => simp
  | case2 => simp
  | case3 => simp

end Utf8

namespace Escape

lemma hexDigit?_lt {c : CodePoint} {d : Nat} (h : c.hexDigit? = some d) : d < 16 := by
  unfold CodePoint.hexDigit? at h
  split_ifs at h <;> cases h <;> omega

lemma hexValue?_lt {acc v : Nat} {cs : Text} (h : hexValue? acc cs = some v) : v < (acc + 1) * 16 ^ cs.length := by
  induction cs generalizing acc with
  | nil =>
    cases h
    simp
  | cons c cs ih =>
    obtain ⟨d, hd, hv⟩ := Option.bind_eq_some_iff.mp h
    have hlt := hexDigit?_lt hd
    calc v < (16 * acc + d + 1) * 16 ^ cs.length := ih hv
      _ ≤ (acc + 1) * 16 * 16 ^ cs.length := Nat.mul_le_mul_right _ (by omega)
      _ = (acc + 1) * 16 ^ (c :: cs).length := by rw [List.length_cons, Nat.pow_succ', Nat.mul_assoc]

/-- Up to five digits always name a code point. -/
lemma ofNat?_of_hexRun? {n v : Nat} {cs rest : Text} (hn : n ≤ 5) (h : hexRun? n cs = some (v, rest)) :
    ∃ c, CodePoint.ofNat? v = some c := by
  rw [hexRun?] at h
  split at h
  · cases h
  · next hlen =>
    obtain ⟨w, hw, hv⟩ := Option.map_eq_some_iff.mp h
    cases hv
    have hlt := hexValue?_lt hw
    rw [List.length_take, Nat.min_eq_left (Nat.not_lt.mp hlen)] at hlt
    have hpow : 16 ^ n ≤ 16 ^ 5 := Nat.pow_le_pow_right (by omega) hn
    exact ⟨_, dif_pos (by omega)⟩

end Escape

namespace AsyncAction

/-! ### What is reported -/

lemma flaws_fix (f : Function) : (fix f).flaws = negatives f.fixNumbers := by
  rw [fix, Fix.check, Checked.flaws_map, Checked.flaws_both, Checked.flaws_both, flaws_checkOffset,
    flaws_checkOrdinal_succ, flaws_checkOrdinal_succ, ← negatives_append, ← negatives_append]
  rfl

lemma flaws_location (f : Function) (path : Path) (source : Bytes) :
    (Location.check path (f.startPoint.row + 1) (f.startPoint.column + 1) (f.endPoint.row + 1)
      (f.endPoint.column + 1) (f.snippet source)).flaws = negatives f.locationNumbers := by
  rw [Location.check, Checked.flaws_map, Checked.flaws_both, Checked.flaws_both, Checked.flaws_both,
    flaws_checkOrdinal_succ, flaws_checkOrdinal_succ, flaws_checkOrdinal_succ, flaws_checkOrdinal_succ,
    ← negatives_append, ← negatives_append, ← negatives_append]
  rfl

lemma flaws_report (f : Function) (path : Path) (source : Bytes) (ruleId severity : String) :
    (report f path source ruleId severity).flaws = f.flaws := by
  have hfix := flaws_fix f
  have hlocation := flaws_location f path source
  unfold report Function.flaws
  -- the fix comes first, and only if it can be made the location is looked at
  by_cases hnil : negatives f.fixNumbers = []
  · obtain ⟨hbyte, hpoint⟩ := Function.negatives_fixNumbers_eq_nil_iff.mp hnil
    rw [if_pos hnil, ← hlocation, fix_eq_ok_iff.mpr ⟨hbyte, hpoint, rfl⟩]
    cases Location.check path (f.startPoint.row + 1) (f.startPoint.column + 1) (f.endPoint.row + 1)
      (f.endPoint.column + 1) (f.snippet source) <;> rfl
  · rw [if_neg hnil, ← hfix]
    cases hf : fix f with
    | error flaws => rfl
    | ok x =>
      rw [hf] at hfix
      exact absurd hfix.symm hnil

/-- A function is not reported only for its flaws, and these are all named. -/
lemma report_eq_error_iff {f : Function} {path : Path} {source : Bytes} {ruleId severity : String} {flaws : Flaws} :
    report f path source ruleId severity = .error flaws ↔ flaws = f.flaws ∧ flaws ≠ [] := by
  have hflaws := flaws_report f path source ruleId severity
  cases hreport : report f path source ruleId severity with
  | ok x =>
    rw [hreport] at hflaws
    rw [← hflaws]
    simp [Checked.flaws]
  | error found =>
    rw [hreport] at hflaws
    -- without a flaw the function would have been reported
    have hne : found ≠ [] := by
      rintro rfl
      have hplaced := Function.flaws_eq_nil_iff.mp hflaws.symm
      have hok : report f path source ruleId severity = .ok _ := report_eq_ok_iff.mpr ⟨hplaced, rfl⟩
      rw [hreport] at hok
      cases hok
    rw [← hflaws, Except.error.injEq]
    constructor
    · rintro rfl
      exact ⟨rfl, hne⟩
    · rintro ⟨rfl, -⟩
      rfl

/-- What a finding says about a function of some source. -/
structure Tells (f : Function) (path : Path) (source : Bytes) (ruleId severity : String) (x : Finding) : Prop where
  ruleId : x.ruleId = ruleId
  severity : x.severity = severity
  message : renderMessage messageId [] = .ok x.message
  messageId : x.messageId = some messageId
  path : x.location.path = path
  line : (x.location.line.val : Int) = f.startPoint.row + 1
  column : (x.location.column.val : Int) = f.startPoint.column + 1
  endLine : ∃ o, x.location.endLine = some o ∧ (o.val : Int) = f.endPoint.row + 1
  endColumn : ∃ o, x.location.endColumn = some o ∧ (o.val : Int) = f.endPoint.column + 1
  silent : x.location.snippet = none ↔ source.slice f.startByte f.endByte = []
  snippet : ∀ s ∈ x.location.snippet,
    Text.OpensWith (Utf8.decode (source.slice f.startByte f.endByte)) s.toList ∧
      (Text.lines (Utf8.decode (source.slice f.startByte f.endByte))).head? = some s.toList
  suggestion : ∃ s, x.suggestions = [s] ∧ s.messageId = suggestionId ∧
    renderMessage suggestionId [("function_name", f.displayName)] = .ok s.description ∧
    s.fix.text = "async " ∧ (s.fix.offset : Int) = f.insertByte.getD f.startByte ∧
    (s.fix.line.val : Int) = (f.insertPoint.getD f.startPoint).row + 1 ∧
    (s.fix.column.val : Int) = (f.insertPoint.getD f.startPoint).column + 1

lemma tells_finding {f : Function} (path : Path) (source : Bytes) (ruleId severity : String) (h : f.Placed) :
    Tells f path source ruleId severity (finding f path source ruleId severity) := by
  have hsnippet : (finding f path source ruleId severity).location.snippet = f.snippet source := rfl
  have hempty : f.text source = [] ↔ source.slice f.startByte f.endByte = [] := Utf8.decode_eq_nil_iff
  refine ⟨rfl, rfl, renderMessage_messageId [], rfl, rfl, point_line h.startPoint, point_position h.startPoint,
    ⟨_, rfl, point_line h.endPoint⟩, ⟨_, rfl, point_position h.endPoint⟩, ?_, ?_, _, rfl, rfl,
    renderMessage_suggestionId _, rfl, Int.toNat_of_nonneg h.asyncByte, point_line h.asyncPoint,
    point_position h.asyncPoint⟩
  · rw [hsnippet, ← hempty, Function.snippet]
    simp
  · intro s hs
    rw [hsnippet, Function.snippet] at hs
    simp only [Option.mem_def, Option.ite_none_left_eq_some, Option.some.injEq] at hs
    obtain ⟨hne, rfl⟩ := hs
    rw [String.toList_ofList]
    exact ⟨Text.opensWith_firstLine _, Text.head?_lines hne⟩

end AsyncAction

namespace Node

/-- Byte and point of the insertion come from the key of a method, or both are missing. -/
lemma insertion_of_function? {n : Node} {source : Bytes} {f : Function} (h : n.function? source = some f) :
    f.insertByte = none ∧ f.insertPoint = none ∨
      ∃ key, n.type = "method_definition" ∧ n.FirstChild (InRole "name") key ∧
        f.insertByte = some key.startByte ∧ f.insertPoint = some key.startPoint := by
  obtain ⟨kind, hkind, rfl⟩ := Option.map_eq_some_iff.mp h
  have hmethod := functionKind?_eq_method_iff hkind
  simp only [← child?_eq_some_iff]
  by_cases hk : kind = .method
  · cases hc : n.child? "name" with
    | none => exact Or.inl (by simp)
    | some key => exact Or.inr ⟨key, hmethod.mp hk, rfl, by simp [hk], by simp [hk]⟩
  · exact Or.inl (by simp [hk])

end Node

namespace AsyncAction

/-- A run on a tree without negative places never fails. A function of whatever form is not reported only if one of
the numbers of its place is negative, and then those in the fix are named, or those in the location if there are none
in the fix; else there is one finding with one suggestion. The keyword of a function in a tree is placed by its key
altogether or not at all, only offsets in their order give text, and no short escape lacks its code point. -/
theorem report_failsSafe :
    (∀ (source : Source) (severity : String), (∀ n ∈ source.root.preorder, n.Counted) →
      (run source severity).failure = none) ∧
    (∀ (f : Function) (path : Path) (source : Bytes) (ruleId severity : String),
      (∀ flaws, report f path source ruleId severity = .error flaws ↔ flaws = f.flaws ∧ flaws ≠ []) ∧
      (f.flaws ≠ [] ↔ f.asyncByte < 0 ∨ f.asyncPoint.row < 0 ∨ f.asyncPoint.column < 0 ∨ f.startPoint.row < 0 ∨
        f.startPoint.column < 0 ∨ f.endPoint.row < 0 ∨ f.endPoint.column < 0) ∧
      (f.flaws = [] → ∃ x, report f path source ruleId severity = .ok x ∧
        Tells f path source ruleId severity x)) ∧
    (∀ (n : Node) (source : Bytes) (f : Function), n.function? source = some f →
      f.insertByte = none ∧ f.insertPoint = none ∨
        ∃ key, n.type = "method_definition" ∧ n.FirstChild (Node.InRole "name") key ∧
          f.insertByte = some key.startByte ∧ f.insertPoint = some key.startPoint) ∧
    (∀ (source : Bytes) (a b : Int), source.slice a b = [] ↔ source.bound b ≤ source.bound a) ∧
    ∀ (n v : Nat) (cs rest : Text), n ≤ 4 → Escape.hexRun? n cs = some (v, rest) →
      ∃ c, CodePoint.ofNat? v = some c := by
  refine ⟨?_, ?_, fun n source f => Node.insertion_of_function?, fun source a b => Bytes.slice_eq_nil_iff,
    fun n v cs rest hn h => Escape.ofNat?_of_hexRun? (by omega) h⟩
  · intro source severity hcounted
    exact (run_of_placed severity fun f hf => placed_of_flagged hcounted hf).2
  · intro f path source ruleId severity
    refine ⟨fun flaws => report_eq_error_iff, ?_, fun hnil => ?_⟩
    · rw [Ne, Function.flaws_eq_nil_iff]
      constructor
      · intro h
        by_contra hnone
        exact h ⟨by omega, ⟨by omega, by omega⟩, ⟨by omega, by omega⟩, by omega, by omega⟩
      · rintro h ⟨hbyte, ⟨hrow, hcolumn⟩, ⟨hsrow, hscolumn⟩, herow, hecolumn⟩
        omega
    · have hplaced := Function.flaws_eq_nil_iff.mp hnil
      exact ⟨_, report_eq_ok_iff.mpr ⟨hplaced, rfl⟩, tells_finding path source ruleId severity hplaced⟩

/-- A function without name and body that ends before it starts, over bytes that are no text. -/
def tornSource : Source where
  path := ⟨.relative, ["torn.js"]⟩
  bytes := [0xFF, 0x27, 0xC0]
  root := .mk "function_declaration" true none ⟨7, 2, ⟨3, 0⟩, ⟨0, 1⟩⟩
    [.mk "ERROR" true (some "body") ⟨9, 9, ⟨9, 9⟩, ⟨9, 9⟩⟩ []]
  broken := true

/-- The view of it. -/
def tornFunction : Function where
  kind := .declaration
  isAsync := false
  isGenerator := false
  isAccessor := false
  name := none
  body := none
  startByte := 7
  endByte := 2
  startPoint := ⟨3, 0⟩
  endPoint := ⟨0, 1⟩
  insertByte := none
  insertPoint := none

/-- The same if it started before all lines and the keyword before all bytes. -/
def misplacedFunction : Function :=
  { tornFunction with startPoint := ⟨-1, 0⟩, insertByte := some (-1), insertPoint := some ⟨0, -2⟩ }

/-- Nothing fails on the torn function, which could be reported without a snippet. For the misplaced one just the
numbers in the fix are named. -/
theorem report_failsSafe_tornSource :
    (run tornSource "error").failure = none ∧
      tornSource.root.function? tornSource.bytes = some tornFunction ∧
      (∃ x, report tornFunction tornSource.path tornSource.bytes ruleId "error" = .ok x ∧
        x.location.snippet = none) ∧
      report misplacedFunction tornSource.path tornSource.bytes ruleId "error" =
        .error [⟨["offset"], .belowMinimum⟩, ⟨["column"], .belowMinimum⟩] := by
  obtain ⟨hrun, hreport, -, hslice, -⟩ := report_failsSafe
  refine ⟨hrun tornSource "error" (by decide), rfl, ?_, ?_⟩
  · obtain ⟨x, hx, htells⟩ := (hreport tornFunction tornSource.path tornSource.bytes ruleId "error").2.2 (by decide)
    exact ⟨x, hx, htells.silent.mpr ((hslice tornSource.bytes 7 2).mpr (by decide))⟩
  · exact ((hreport misplacedFunction _ _ _ _).1 _).mpr ⟨by decide, by decide⟩

end AsyncAction

end AsyncActions
