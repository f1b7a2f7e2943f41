import AsyncActions.Terminal.Table
import Mathlib.Data.List.Basic
import Mathlib.Data.List.Forall2
import Mathlib.Tactic.Common

/-!
# Tables that can be drawn

A table of which all markup can be read is drawn, with each of its rows once and in order. Where the
columns have room, markup in a column without a width has to be read for that.
-/

namespace AsyncActions

section

variable {α β ε : Type}

lemma bind_eq_ok_iff {x : Except ε α} {f : α → Except ε β} {b : β} :
    (x >>= f) = .ok b ↔ ∃ a, x = .ok a ∧ f a = .ok b := by
  cases x with
  | error e => exact iff_of_false nofun nofun
  | ok a => exact ⟨fun h => ⟨a, rfl, h⟩, fun ⟨_, ha, hb⟩ => Except.ok.inj ha ▸ hb⟩

lemma exists_bind_eq_ok {x : Except ε α} {f : α → Except ε β} (hx : ∃ a, x = .ok a)
    (hf : ∀ a, ∃ b, f a = .ok b) : ∃ b, (x >>= f) = .ok b := by
  obtain ⟨a, rfl⟩ := hx
  exact hf a

lemma mapError_eq_ok_iff {ε' : Type} {f : ε → ε'} {x : Except ε α} {a : α} :
    x.mapError f = .ok a ↔ x = .ok a := by
  cases x <;> simp [Except.mapError]

lemma mapM_eq_ok_iff {f : α → Except ε β} {as : List α} {bs : List β} :
    as.mapM f = .ok bs ↔ List.Forall₂ (fun a b => f a = .ok b) as bs := by
  induction as generalizing bs with
  | nil =>
    rw [List.mapM_nil, List.forall₂_nil_left_iff]
    exact ⟨fun h => (Except.ok.inj h).symm, fun h => congrArg Except.ok h.symm⟩
  | cons a as ih =>
    simp only [List.mapM_cons, bind_eq_ok_iff, ih, List.forall₂_cons_left_iff]
    constructor
    · rintro ⟨b, hb, bs, hbs, h⟩
      exact ⟨b, bs, hb, hbs, (Except.ok.inj h).symm⟩
    · rintro ⟨b, bs, hb, hbs, rfl⟩
      exact ⟨b, hb, bs, hbs, rfl⟩

/-- The results of a list, where each member's is known. -/
lemma mapM_eq_map {f : α → Except ε β} {g : α → β} {as : List α} (h : ∀ a ∈ as, f a = .ok (g a)) :
    as.mapM f = .ok (as.map g) :=
  mapM_eq_ok_iff.mpr (List.forall₂_map_right_iff.mpr (List.forall₂_same.mpr h))

lemma exists_of_mem_forall₂ {R : α → β → Prop} {as : List α} {bs : List β} (h : List.Forall₂ R as bs) {b : β}
    (hb : b ∈ bs) : ∃ a ∈ as, R a b := by
  induction h with
  | nil => cases hb
  | @cons a c as bs hc _ ih =>
    rcases List.mem_cons.mp hb with rfl | hb
    · exact ⟨a, List.mem_cons_self, hc⟩
    · obtain ⟨a', ha', hf⟩ := ih hb
      exact ⟨a', List.mem_cons_of_mem _ ha', hf⟩

lemma exists_of_mem_mapM {f : α → Except ε β} {as : List α} {bs : List β} (h : as.mapM f = .ok bs) {b : β}
    (hb : b ∈ bs) : ∃ a ∈ as, f a = .ok b := exists_of_mem_forall₂ (mapM_eq_ok_iff.mp h) hb

lemma exists_mem_mapM {f : α → Except ε β} {as : List α} {bs : List β} (h : as.mapM f = .ok bs) {a : α}
    (ha : a ∈ as) : ∃ b ∈ bs, f a = .ok b := exists_of_mem_forall₂ (mapM_eq_ok_iff.mp h).flip ha

/-- A list has results if each of its members has one. -/
lemma exists_mapM {f : α → Except ε β} {as : List α} (h : ∀ a ∈ as, ∃ b, f a = .ok b) :
    ∃ bs, as.mapM f = .ok bs := by
  induction as with
  | nil => exact ⟨[], rfl⟩
  | cons a as ih =>
    obtain ⟨b, hb⟩ := h a List.mem_cons_self
    obtain ⟨bs, hbs⟩ := ih fun a ha => h a (List.mem_cons_of_mem _ ha)
    exact ⟨b :: bs, by rw [List.mapM_cons, hb, hbs]; rfl⟩

end

namespace Terminal

/-- What is to be shown has a text. -/
def Content.Readable (c : Content) : Prop := ∃ t, c.read = .ok t

/-- What is to be shown has this text. Controls that move what writes are left out. -/
def Content.Says (c : Content) (text : List Char) : Prop := ∃ t, c.read = .ok t ∧ t.chars = shown text

lemma Content.Says.readable {c : Content} {text : List Char} (h : c.Says text) : c.Readable :=
  h.imp fun _ => And.left

lemma readable_styled (t : Styled) : (Content.styled t).Readable := ⟨t, rfl⟩

namespace Table

variable {t : Table}

/-- All heads and cells have texts. -/
structure Readable (t : Table) : Prop where
  heads : ∀ c ∈ t.columns, (Content.markup c.head).Readable
  cells : ∀ row ∈ t.rows, ∀ cell ∈ row, cell.Readable

/-- The lines are a drawing of the table on a terminal of that width: its title, its head and its rows, one
after the other, between edges. Each row takes at least a line. -/
def Draws (t : Table) (width : Nat) (lines : List Line) : Prop :=
  ∃ widths title head rows, t.widths (width - t.frameWidth) = .ok widths ∧
    title = t.title.toList.flatMap (fun text =>
      (Styled.ofText text titleStyle).render (total widths + t.frameWidth) .center .fold) ∧
    t.row widths true (t.columns.map fun c => .markup c.head) = .ok head ∧
    List.Forall₂ (fun cells part => t.row widths false cells = .ok part ∧ part ≠ []) t.rows rows ∧
    lines = title ++ [.plain (t.frame.top.draw widths)] :: head ++
      [.plain (t.frame.underHead.draw widths)] :: rows.flatten ++ [[.plain (t.frame.bottom.draw widths)]]

lemma exists_measure (room : Nat) {c : Column} {cells : List Content}
    (hhead : (Content.markup c.head).Readable) (hcells : ∀ cell ∈ cells, cell.Readable) :
    ∃ n, measure room c cells = .ok n := by
  obtain ⟨texts, htexts⟩ := exists_mapM (List.forall_mem_cons.mpr ⟨hhead, hcells⟩)
  unfold measure
  split
  · exact ⟨_, rfl⟩
  · split
    · exact ⟨_, rfl⟩
    · split
      · exact ⟨_, rfl⟩
      · rw [htexts]
        exact ⟨_, rfl⟩

/-- A column without a width is measured by its texts, if there is room. -/
lemma readable_of_measure {room n : Nat} {c : Column} {cells : List Content} (hfree : c.width = none)
    (hroom : padding < room) (h : measure room c cells = .ok n) : ∀ cell ∈ cells, cell.Readable := by
  have hroom' : room ≠ 0 := by omega
  rw [measure, if_neg hroom', hfree] at h
  simp only [if_neg (Nat.not_le.mpr hroom), bind_eq_ok_iff] at h
  obtain ⟨texts, htexts, -⟩ := h
  intro cell hcell
  obtain ⟨text, -, htext⟩ := exists_mem_mapM htexts (List.mem_cons_of_mem _ hcell)
  exact ⟨text, htext⟩

lemma Readable.column (h : t.Readable) {c : Column} {cells : List Content}
    (hc : (c, cells) ∈ t.columnCells) :
    (Content.markup c.head).Readable ∧ ∀ cell ∈ cells, cell.Readable := by
  obtain ⟨⟨c', i⟩, hmem, heq⟩ := List.mem_map.mp hc
  cases heq
  refine ⟨h.heads c (List.fst_mem_of_mem_zipIdx hmem), fun cell hcell => ?_⟩
  obtain ⟨row, hrow, hget⟩ := List.mem_filterMap.mp hcell
  exact h.cells row hrow cell (List.mem_of_getElem? hget)

lemma Readable.widths (h : t.Readable) (room : Nat) : ∃ ws, t.widths room = .ok ws := by
  unfold Table.widths
  refine exists_bind_eq_ok (exists_mapM fun column hcolumn => ?_) fun wanted => ?_
  · exact exists_measure room (h.column hcolumn).1 (h.column hcolumn).2
  · dsimp only
    split
    · exact ⟨_, rfl⟩
    · refine exists_mapM fun sized hsized => ?_
      have hcolumn := h.column (List.of_mem_zip hsized).1
      exact exists_measure sized.2 hcolumn.1 hcolumn.2

lemma exists_cellLines (c : Column) (style : Style) (width : Nat) {content : Content}
    (h : content.Readable) : ∃ lines, cellLines c style width content = .ok lines := by
  obtain ⟨text, htext⟩ := h
  unfold cellLines
  split
  · exact ⟨_, rfl⟩
  · rw [htext]
    exact ⟨_, rfl⟩

lemma exists_row (t : Table) (widths : List Nat) (isHead : Bool) {cells : List Content}
    (h : ∀ cell ∈ cells, cell.Readable) : ∃ lines, t.row widths isHead cells = .ok lines := by
  unfold row
  refine exists_bind_eq_ok (exists_mapM fun cell hcell => ?_) fun _ => ⟨_, rfl⟩
  have hcontent := h _ (List.of_mem_zip (List.of_mem_zip hcell).2).2
  exact exists_bind_eq_ok (exists_cellLines _ _ _ hcontent) fun _ => ⟨_, rfl⟩

lemma ne_nil_of_row {widths : List Nat} {isHead : Bool} {cells : List Content} {lines : List Line}
    (h : t.row widths isHead cells = .ok lines) : lines ≠ [] := by
  obtain ⟨parts, -, hparts⟩ := bind_eq_ok_iff.mp h
  rw [← Except.ok.inj hparts, rowLines]
  intro hnil
  have hlength := congrArg List.length hnil
  simp only [List.length_map, List.length_range, List.length_nil] at hlength
  omega

/-- What a terminal with any width shows of a table is a drawing of it. -/
lemma draws_of_render {width : Nat} {lines : List Line} (h : t.render width = .ok lines)
    (hwidth : width ≠ 0) : t.Draws width lines := by
  rw [Table.render, if_neg hwidth] at h
  obtain ⟨widths, hwidths, h⟩ := bind_eq_ok_iff.mp h
  obtain ⟨head, hhead, h⟩ := bind_eq_ok_iff.mp h
  obtain ⟨rows, hrows, h⟩ := bind_eq_ok_iff.mp h
  exact ⟨widths, _, head, rows, hwidths, rfl, hhead,
    (mapM_eq_ok_iff.mp hrows).imp fun cells part hpart => ⟨hpart, ne_nil_of_row hpart⟩, (Except.ok.inj h).symm⟩

/-- A table of texts can be drawn. -/
lemma Readable.render (h : t.Readable) (width : Nat) : ∃ lines, t.render width = .ok lines := by
  have hhead := fun widths => t.exists_row widths true (List.forall_mem_map.mpr h.heads)
  have hbody := fun widths =>
    exists_mapM fun cells hcells => t.exists_row widths false (h.cells cells hcells)
  unfold Table.render
  split
  · exact ⟨_, rfl⟩
  · refine exists_bind_eq_ok (h.widths _) fun widths => ?_
    refine exists_bind_eq_ok (hhead widths) fun head => ?_
    exact exists_bind_eq_ok (hbody widths) fun _ => ⟨_, rfl⟩

/-- Where its columns have room, a table is drawn only if those without a width have texts. -/
lemma readable_of_render {width : Nat} {lines : List Line} (h : t.render width = .ok lines)
    (hroom : padding < width - t.frameWidth) {c : Column} {cells : List Content}
    (hc : (c, cells) ∈ t.columnCells) (hfree : c.width = none) : ∀ cell ∈ cells, cell.Readable := by
  have hwidth : width ≠ 0 := by omega
  rw [Table.render, if_neg hwidth] at h
  obtain ⟨widths, hwidths, -⟩ := bind_eq_ok_iff.mp h
  obtain ⟨wanted, hwanted, -⟩ := bind_eq_ok_iff.mp hwidths
  obtain ⟨n, -, hn⟩ := exists_mem_mapM hwanted hc
  exact readable_of_measure hfree hroom hn

end Table

end Terminal

end AsyncActions
