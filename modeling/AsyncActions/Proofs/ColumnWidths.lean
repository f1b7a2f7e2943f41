import AsyncActions.Proofs.DrawnTables
import Mathlib.Algebra.GroupWithZero.Nat
import Mathlib.Algebra.Order.BigOperators.Group.List
import Mathlib.Algebra.Order.Group.Nat

/-!
# Widths of columns

Each column of a table has a width. A column that is given one has it, with a blank on both sides, wherever
there is room; if one column is free, it takes what the others leave, but no more than it asks for.
-/

namespace AsyncActions

lemma le_foldl_max {ns : List Nat} {n start : Nat} (h : n = start ∨ n ∈ ns) : n ≤ ns.foldl max start := by
  induction ns generalizing n start with
  | nil => exact Nat.le_of_eq (h.resolve_right List.not_mem_nil)
  | cons m ns ih =>
    rw [List.foldl_cons]
    have hstart : max start m ≤ ns.foldl max (max start m) := ih (Or.inl rfl)
    rcases h with rfl | h
    · omega
    · rcases List.mem_cons.mp h with rfl | h
      · omega
      · exact ih (Or.inr h)

namespace Terminal.Table

lemma length_reduce (total shares limit first : Nat) (columns : List (Nat × Bool)) :
    (collapse.reduce total shares limit first columns).length = columns.length := by
  induction columns generalizing total shares with
  | nil => rfl
  | cons column columns ih =>
    rw [collapse.reduce]
    split <;> simp only [List.length_cons, ih]

lemma length_collapse (rounds room : Nat) (columns : List (Nat × Bool)) :
    (collapse rounds room columns).length = columns.length := by
  induction rounds generalizing columns with
  | zero => rfl
  | succ rounds ih =>
    rw [collapse]
    dsimp only
    split
    · rfl
    · rw [ih, length_reduce]

lemma length_takeShares (total shares : Nat) (widths : List Nat) :
    (takeShares total shares widths).length = widths.length := by
  induction widths generalizing total shares with
  | nil => rfl
  | cons width widths ih =>
    rw [takeShares]
    split <;> simp only [List.length_cons, ih]

/-- Each column has a width. -/
lemma length_widths {t : Table} {room : Nat} {widths : List Nat} (h : t.widths room = .ok widths) :
    widths.length = t.columns.length := by
  have hcells : t.columnCells.length = t.columns.length := by rw [columnCells, List.length_map, List.length_zipIdx]
  obtain ⟨wanted, hwanted, h⟩ := bind_eq_ok_iff.mp h
  have hlength := (mapM_eq_ok_iff.mp hwanted).length_eq
  dsimp only at h
  split at h
  · rw [← Except.ok.inj h, List.length_map, ← hlength, hcells]
  · rw [← (mapM_eq_ok_iff.mp h).length_eq, List.length_zip, hcells]
    have hnarrowed (columns : List Nat) (n : Nat) : (takeEvenly n columns).length = columns.length :=
      length_takeShares n _ columns
    refine Nat.min_eq_left ?_
    split
    · simp only [List.length_map, length_collapse, List.length_zip]
      omega
    · simp only [hnarrowed, List.length_map, length_collapse, List.length_zip]
      omega

/-! ### One free column -/

section

variable {c : Column} {cells : List Content} {room n : Nat}

lemma measure_of_width {w : Nat} (h : c.width = some w) (hroom : w + padding ≤ room) :
    measure room c cells = .ok (w + padding) := by
  have hpos : room ≠ 0 := by unfold padding at hroom; omega
  rw [measure, if_neg hpos, h]
  dsimp only
  rw [Nat.min_eq_left hroom]

/-- What a free column asks for does not depend on the room, and its head has to be seen. -/
lemma exists_measure_eq (hfree : c.width = none) (hhead : ∀ t, (Content.markup c.head).read = .ok t → 0 < t.longest)
    (hroom : padding < room) (h : measure room c cells = .ok n) :
    ∃ wish, 3 ≤ wish ∧ ∀ room', padding < room' → measure room' c cells = .ok (min wish room') := by
  have hmeasure {room' : Nat} (hroom' : padding < room') : measure room' c cells =
      ((.markup c.head :: cells).mapM Content.read >>= fun texts =>
        .ok (min ((texts.map fun t => t.longest + padding).foldl max 0) room')) := by
    rw [measure, if_neg (by omega), hfree]
    dsimp only
    rw [if_neg (Nat.not_le.mpr hroom')]
    rfl
  rw [hmeasure hroom] at h
  obtain ⟨texts, htexts, -⟩ := bind_eq_ok_iff.mp h
  refine ⟨(texts.map fun t => t.longest + padding).foldl max 0, ?_, fun room' hroom' => ?_⟩
  · obtain ⟨t, ht, hread⟩ := exists_mem_mapM htexts List.mem_cons_self
    have hlongest := hhead t hread
    have hle : t.longest + padding ≤ (texts.map fun t => t.longest + padding).foldl max 0 :=
      le_foldl_max (Or.inr (List.mem_map_of_mem ht))
    unfold padding at hle ⊢
    omega
  · rw [hmeasure hroom', htexts]
    rfl

end

lemma reduce_of_fixed {total shares limit first : Nat} {columns : List (Nat × Bool)} (h : ∀ c ∈ columns, c.2 = false)
    (rest : List (Nat × Bool)) : collapse.reduce total shares limit first (columns ++ rest) =
      columns ++ collapse.reduce total shares limit first rest := by
  induction columns with
  | nil => rfl
  | cons column columns ih =>
    obtain ⟨hc, hrest⟩ := List.forall_mem_cons.mp h
    obtain ⟨w, free⟩ := column
    obtain rfl : free = false := hc
    rw [List.cons_append, collapse.reduce]
    simp only [Bool.false_and, Bool.false_eq_true, if_false, List.cons_append, ih hrest]

/-- The only free column gives all that is too much. -/
lemma collapse_of_fixed {before after : List (Nat × Bool)} (hbefore : ∀ c ∈ before, c.2 = false)
    (hafter : ∀ c ∈ after, c.2 = false) {room width rounds : Nat}
    (hroom : (before.map Prod.fst).sum + (after.map Prod.fst).sum < room)
    (hwide : room < (before.map Prod.fst).sum + width + (after.map Prod.fst).sum) :
    collapse (rounds + 1) room (before ++ (width, true) :: after) =
      before ++ (room - ((before.map Prod.fst).sum + (after.map Prod.fst).sum), true) :: after := by
  have hfilter (p : Nat × Bool → Bool) (hp : ∀ c, c.2 = false → p c = false) :
      (before ++ (width, true) :: after).filter p = if p (width, true) then [(width, true)] else [] := by
    rw [List.filter_append, List.filter_cons, List.filter_eq_nil_iff.mpr fun c hc => by simp [hp c (hbefore c hc)],
      List.filter_eq_nil_iff.mpr fun c hc => by simp [hp c (hafter c hc)], List.nil_append]
  have htotal (w : Nat) : total ((before ++ (w, true) :: after).map Prod.fst) =
      (before.map Prod.fst).sum + w + (after.map Prod.fst).sum := by
    rw [total, ← List.sum_eq_foldl, List.map_append, List.sum_append, List.map_cons, List.sum_cons, Nat.add_assoc]
  have hlargest : largestTwo (before ++ (width, true) :: after) = (width, 0) := by
    unfold largestTwo
    rw [hfilter (·.2) fun c hc => hc]
    simp
  have hwidest (p : Nat × Bool → Bool) (hp : ∀ c, p c = (c.2 && c.1 = width)) :
      ((before ++ (width, true) :: after).filter p).length = 1 := by
    rw [hfilter p fun c hc => by simp [hp, hc], hp]
    simp
  have hreduce (total limit : Nat) : collapse.reduce total 1 limit width (before ++ (width, true) :: after) =
      before ++ (width - min limit total, true) :: after := by
    have hrest : ∀ n, collapse.reduce n 0 limit width after = after := fun n => by
      have hall : collapse.reduce n 0 limit width (after ++ []) = after ++ collapse.reduce n 0 limit width [] :=
        reduce_of_fixed hafter []
      simpa [collapse.reduce] using hall
    have hone : divideEvenly total 1 = total := by simp [divideEvenly, Nat.mod_one]
    rw [reduce_of_fixed hbefore, collapse.reduce]
    simp [hrest, hone]
  -- in the first round the column gives what is too much, and then the sum is right
  rw [collapse, htotal, hlargest]
  dsimp only
  rw [if_neg (by omega), hwidest _ fun _ => rfl, hreduce]
  have hleft : width - min (min ((before.map Prod.fst).sum + width + (after.map Prod.fst).sum - room) (width - 0))
      ((before.map Prod.fst).sum + width + (after.map Prod.fst).sum - room) =
      room - ((before.map Prod.fst).sum + (after.map Prod.fst).sum) := by omega
  rw [hleft]
  cases rounds with
  | zero => rfl
  | succ rounds =>
    rw [collapse, htotal]
    dsimp only
    rw [if_pos (Or.inl (by omega))]

/-- The width of a column that gets `free` if it has none of its own. -/
def columnWidth (free : Nat) (c : Column) : Nat := (c.width.map (· + padding)).getD free

lemma map_fst_columnCells (t : Table) : t.columnCells.map Prod.fst = t.columns := by
  rw [columnCells, List.map_map]
  exact List.zipIdx_map_fst 0 t.columns

section

variable {t : Table} {before after : List Column} {free : Column} {room : Nat}

lemma columnWidth_of_ne_none {c : Column} (h : c.width ≠ none) (n : Nat) : columnWidth n c = columnWidth 0 c := by
  obtain ⟨w, hw⟩ := Option.ne_none_iff_exists'.mp h
  rw [columnWidth, columnWidth, hw]
  rfl

lemma columnWidth_of_none {c : Column} (h : c.width = none) (n : Nat) : columnWidth n c = n := by
  rw [columnWidth, h]
  rfl

lemma columnWidth_ne_zero {n : Nat} (h : n ≠ 0) (c : Column) : columnWidth n c ≠ 0 := by
  unfold columnWidth padding
  cases c.width with
  | none => exact h
  | some w => simp

/-- A column that is given no more than it asks for takes all of that. -/
lemma columnWidth_given {n wish : Nat} (hn : 3 ≤ n) (hwish : n ≤ wish) (c : Column) :
    columnWidth 3 c ≤ columnWidth n c ∧ columnWidth (min wish (columnWidth n c)) c = columnWidth n c := by
  by_cases hnone : c.width = none
  · simp only [columnWidth_of_none hnone]
    omega
  · simp only [columnWidth_of_ne_none hnone 3, columnWidth_of_ne_none hnone n, columnWidth_of_ne_none hnone (min wish _),
      Nat.le_refl, true_and]

/-- The widths of columns of which one is free. -/
lemma map_columnWidth (hcolumns : t.columns = before ++ free :: after) (hfree : free.width = none)
    (hbefore : ∀ c ∈ before, c.width ≠ none) (hafter : ∀ c ∈ after, c.width ≠ none) (n : Nat) :
    t.columns.map (columnWidth n) = before.map (columnWidth 0) ++ n :: after.map (columnWidth 0) := by
  rw [hcolumns, List.map_append, List.map_cons, columnWidth_of_none hfree,
    List.map_congr_left fun c hc => columnWidth_of_ne_none (hbefore c hc) n,
    List.map_congr_left fun c hc => columnWidth_of_ne_none (hafter c hc) n]

/-- There is one width that the free column asks for, whatever it is given. -/
lemma exists_wish {wanted : List Nat}
    (h : t.columnCells.mapM (fun (c, cells) => measure room c cells) = .ok wanted)
    (hcolumns : t.columns = before ++ free :: after) (hfree : free.width = none)
    (hhead : ∀ t, (Content.markup free.head).read = .ok t → 0 < t.longest)
    (hbefore : ∀ c ∈ before, c.width ≠ none) (hafter : ∀ c ∈ after, c.width ≠ none) (hroom : padding < room) :
    ∃ wish, 3 ≤ wish ∧ ∀ x ∈ t.columnCells, ∀ given, columnWidth 3 x.1 ≤ given →
      measure given x.1 x.2 = .ok (columnWidth (min wish given) x.1) := by
  obtain ⟨cb, crest, hcells, hcb, hcrest⟩ := List.map_eq_append_iff.mp (t.map_fst_columnCells.trans hcolumns)
  obtain ⟨x, ca, rfl, hx, hca⟩ := List.map_eq_cons_iff.mp hcrest
  have honly {y : Column × List Content} (hy : y ∈ t.columnCells) (hnone : y.1.width = none) : y = x := by
    rw [hcells, List.mem_append, List.mem_cons] at hy
    rcases hy with hy | hy | hy
    · exact absurd hnone (hbefore _ (hcb ▸ List.mem_map_of_mem hy))
    · exact hy
    · exact absurd hnone (hafter _ (hca ▸ List.mem_map_of_mem hy))
  have hx' : x ∈ t.columnCells := hcells ▸ List.mem_append_right _ List.mem_cons_self
  obtain ⟨first, -, hfirst⟩ := exists_mem_mapM h hx'
  obtain ⟨wish, hwish, hask⟩ := exists_measure_eq (hx ▸ hfree) (hx ▸ hhead) hroom hfirst
  refine ⟨wish, hwish, fun y hy given hle => ?_⟩
  by_cases hnone : y.1.width = none
  · obtain rfl := honly hy hnone
    rw [columnWidth_of_none hnone] at hle ⊢
    exact hask given hle
  · obtain ⟨w, hw⟩ := Option.ne_none_iff_exists'.mp hnone
    have hwidth (n : Nat) : columnWidth n y.1 = w + padding := by rw [columnWidth, hw]; rfl
    rw [hwidth] at hle ⊢
    exact measure_of_width hw hle

/-- What is too much is taken from the free column. -/
lemma collapse_columns (hcolumns : t.columns = before ++ free :: after) (hfree : free.width = none)
    (hbefore : ∀ c ∈ before, c.width ≠ none) (hafter : ∀ c ∈ after, c.width ≠ none) {n fixed : Nat}
    (hfixed : (before.map (columnWidth 0)).sum + (after.map (columnWidth 0)).sum = fixed)
    (hroom : fixed < room) (hwide : room < fixed + n) :
    (collapse t.columns.length room
      ((t.columns.map (columnWidth n)).zip (t.columns.map (·.width.isNone)))).map Prod.fst =
      t.columns.map (columnWidth (room - fixed)) := by
  have hzip {cs : List Column} (h : ∀ c ∈ cs, c.width ≠ none) :
      cs.map (fun c => (columnWidth n c, c.width.isNone)) = cs.map fun c => (columnWidth 0 c, false) :=
    List.map_congr_left fun c hc => by
      have hsome := Option.isNone_eq_false_iff.mpr (Option.isSome_iff_ne_none.mpr (h c hc))
      rw [columnWidth_of_ne_none (h c hc), hsome]
  have hfst (cs : List Column) : (cs.map fun c => (columnWidth 0 c, false)).map Prod.fst = cs.map (columnWidth 0) := by
    rw [List.map_map]
    rfl
  have hfalse (cs : List Column) : ∀ c ∈ cs.map fun c => (columnWidth 0 c, false), c.2 = false :=
    List.forall_mem_map.mpr fun _ _ => rfl
  have hlength : t.columns.length = before.length + after.length + 1 := by
    rw [hcolumns, List.length_append, List.length_cons]
    omega
  rw [hlength, List.zip_map', map_columnWidth hcolumns hfree hbefore hafter, hcolumns, List.map_append, List.map_cons,
    hzip hbefore, hzip hafter, columnWidth_of_none hfree, hfree, Option.isNone_none,
    collapse_of_fixed (hfalse before) (hfalse after) (by rw [hfst, hfst]; omega) (by rw [hfst, hfst]; omega),
    List.map_append, List.map_cons, hfst, hfst, hfixed]

/-- Where one column is free, the others have their own widths and leave the rest to it. -/
theorem widths_of_free {widths : List Nat} (h : t.widths room = .ok widths)
    (hcolumns : t.columns = before ++ free :: after) (hfree : free.width = none)
    (hhead : ∀ t, (Content.markup free.head).read = .ok t → 0 < t.longest)
    (hbefore : ∀ c ∈ before, c.width ≠ none) (hafter : ∀ c ∈ after, c.width ≠ none)
    (hroom : (t.columns.map (columnWidth 3)).sum ≤ room) :
    ∃ n, 3 ≤ n ∧ widths = t.columns.map (columnWidth n) ∧ (t.columns.map (columnWidth n)).sum ≤ room := by
  obtain ⟨fixed, hfixed⟩ : ∃ n, (before.map (columnWidth 0)).sum + (after.map (columnWidth 0)).sum = n := ⟨_, rfl⟩
  have hsum (n : Nat) : (t.columns.map (columnWidth n)).sum = fixed + n := by
    rw [map_columnWidth hcolumns hfree hbefore hafter, List.sum_append, List.sum_cons]
    omega
  have htotal (n : Nat) : total (t.columns.map (columnWidth n)) = fixed + n := by
    rw [total, ← List.sum_eq_foldl, hsum]
  have hle {x : Column × List Content} (hx : x ∈ t.columnCells) : columnWidth 3 x.1 ≤ room := by
    have hmem : x.1 ∈ t.columns := t.map_fst_columnCells ▸ List.mem_map_of_mem hx
    exact (List.single_le_sum (fun _ _ => Nat.zero_le _) _ (List.mem_map_of_mem hmem)).trans hroom
  rw [hsum] at hroom
  obtain ⟨wanted, hwanted, h⟩ := bind_eq_ok_iff.mp h
  obtain ⟨wish, hwish, hmeasure⟩ := exists_wish hwanted hcolumns hfree hhead hbefore hafter (by unfold padding; omega)
  obtain rfl : t.columns.map (columnWidth (min wish room)) = wanted := by
    have hall := (mapM_eq_map fun x hx => hmeasure x hx room (hle hx)).symm.trans hwanted
    rw [← Except.ok.inj hall, ← t.map_fst_columnCells, List.map_map]
    rfl
  have hpositive : (t.columns.map (columnWidth (min wish room))).map (fun w => if w = 0 then 1 else w) =
      t.columns.map (columnWidth (min wish room)) := by
    refine (List.map_congr_left fun w hw => if_neg ?_).trans (List.map_id' _)
    obtain ⟨c, -, rfl⟩ := List.mem_map.mp hw
    exact columnWidth_ne_zero (by omega) c
  dsimp only at h
  rw [hpositive, htotal, List.length_map] at h
  split at h
  · next hfits => exact ⟨min wish room, by omega, (Except.ok.inj h).symm, hsum _ ▸ hfits⟩
  · next hwide =>
    rw [collapse_columns hcolumns hfree hbefore hafter hfixed (by omega) (by omega), htotal, if_pos (by omega)] at h
    refine ⟨room - fixed, by omega, ?_, by rw [hsum]; omega⟩
    have hgiven (c : Column) := columnWidth_given (by omega : 3 ≤ room - fixed) (by omega : room - fixed ≤ wish) c
    have hzip : t.columnCells.zip (t.columns.map (columnWidth (room - fixed))) =
        t.columnCells.map fun x => (x, columnWidth (room - fixed) x.1) := by
      rw [← t.map_fst_columnCells, List.map_map, List.zip_map_right, List.zip_eq_zipWith, List.zipWith_self,
        List.map_map]
      rfl
    rw [hzip, List.mapM_map] at h
    have hall := mapM_eq_map fun x hx => (hmeasure x hx _ (hgiven x.1).1).trans (congrArg _ (hgiven x.1).2)
    rw [← Except.ok.inj (hall.symm.trans h), ← t.map_fst_columnCells, List.map_map]
    rfl

end

end Terminal.Table

end AsyncActions
