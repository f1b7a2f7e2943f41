import AsyncActions.Proofs.ColumnWidths
import AsyncActions.Proofs.PrintedText

/-!
# Tables and panels in print

The cells of a row stand side by side, each in a column of its own width, and the rows one below the other
between the edges of their table. A panel puts an edge around lines. What is wider than a terminal is cut.
-/

namespace AsyncActions

lemma forall₂_comp {α β γ : Type} {R : α → β → Prop} {S : β → γ → Prop} {as : List α} {bs : List β} {cs : List γ}
    (h : List.Forall₂ R as bs) (h' : List.Forall₂ S bs cs) : List.Forall₂ (fun a c => ∃ b, R a b ∧ S b c) as cs := by
  induction h generalizing cs with
  | nil =>
    cases h'
    exact .nil
  | cons hab _ ih =>
    cases h' with
    | cons hbc h' => exact .cons ⟨_, hab, hbc⟩ (ih h')

namespace Terminal

/-- The line as it is on a terminal. -/
def Cut (width : Nat) (full line : Line) : Prop := Begins full.chars line.chars ∧ (full.width ≤ width → line = full)

/-- The line between blanks, with others behind it that fill a width. -/
def Padded (width : Nat) (full line : Line) : Prop := ∃ inner, line.chars = ' ' :: inner ++ [' '] ∧
  Begins full.chars inner ∧ (full.width ≤ width - 2 →
    inner = full.chars ++ List.replicate (width - 2 - full.width) ' ' ∧ line.width = width - 2 + 2)

def IsBlank (width : Nat) (line : Line) : Prop := line.chars = List.replicate width ' ' ∧ line.width = width

/-- The lines of a column show a text, which takes all of the width but a blank on both sides. -/
def PrintsCell (width : Nat) (text : List Char) (column : List Line) : Prop := ∃ above inside below,
  column = above ++ inside ++ below ∧ (∀ line ∈ above ++ below, IsBlank width line) ∧
    (width ≤ 2 ∧ inside = [] ∨ 2 < width ∧ ∃ drawn, PrintsText (width - 2) .ellipsis text drawn ∧
      List.Forall₂ (Padded width) drawn inside)

/-- The lines show these texts in columns of these widths. -/
structure PrintsRow (frame : Frame) (widths : List Nat) (texts : List String) (lines : List Line) : Prop where
  length : widths.length = texts.length
  some : lines ≠ []
  columns : ∃ columns, List.Forall₂ (fun (entry : Nat × String) column =>
      PrintsCell entry.1 (visible entry.2) column ∧ column.length = lines.length) (widths.zip texts) columns ∧
    ∀ (n : Nat) (line : Line), lines[n]? = .some line → ∃ pieces : List Line,
      List.Forall₂ (fun column piece => column[n]? = .some piece) columns pieces ∧
      line.chars = frame.side.left :: [frame.side.cross].intercalate (pieces.map Line.chars) ++ [frame.side.right]
  /-- Where text is steady, the lines are as wide as all columns and what is between them. -/
  width : (∀ text ∈ texts, Steady (visible text)) →
    ∀ line ∈ lines, line.width = widths.sum + (widths.length - 1) + 2

/-- A frame of which each side takes a cell. -/
def Frame.Thin (f : Frame) : Prop := cells [f.side.left] = 1 ∧ cells [f.side.cross] = 1 ∧ cells [f.side.right] = 1

instance (f : Frame) : Decidable f.Thin := inferInstanceAs (Decidable (_ ∧ _))

lemma Frame.thin_simple : Frame.simple.Thin := by decide +kernel

lemma Frame.thin_rounded : Frame.rounded.Thin := by decide +kernel

lemma Frame.thin_invisible : Frame.invisible.Thin := by decide +kernel

lemma cut_cut (width : Nat) (l : Line) : Cut width l (l.cut width) := ⟨l.begins_cut width, Line.cut_of_le⟩

lemma forall₂_cut (width : Nat) (lines : List Line) : List.Forall₂ (Cut width) lines (lines.map (Line.cut width)) :=
  List.forall₂_map_right_iff.mpr (List.forall₂_same.mpr fun l _ => cut_cut width l)

lemma isBlank_blank (width : Nat) (style : Style) : IsBlank width [.blank width style] := by
  refine ⟨by simp [Segment.blank], ?_⟩
  rw [Line.width_cons, Line.width_blank]
  rfl

lemma padded_fit (width : Nat) (l : Line) :
    Padded width l (.blank 1 .none :: l.fit (width - 2) .none ++ [.blank 1 .none]) := by
  refine ⟨(l.fit (width - 2) .none).chars, by simp [Segment.blank], l.begins_fit _ _, fun hroom => ?_⟩
  obtain ⟨hchars, hwidth⟩ := Line.fit_of_le .none hroom
  refine ⟨hchars, ?_⟩
  rw [Line.width_append, Line.width_cons, Line.width_cons, Line.width_blank, hwidth]
  simp only [Line.width_nil]
  omega

lemma forall₂_padded (width : Nat) (lines : List Line) : List.Forall₂ (Padded width) lines (padded width lines) :=
  List.forall₂_map_right_iff.mpr (List.forall₂_same.mpr fun l _ => padded_fit width l)

/-- What a cell shows, before its column is filled up. -/
def ShowsCell (width : Nat) (text : List Char) (inside : List Line) : Prop :=
  width ≤ 2 ∧ inside = [] ∨ 2 < width ∧ ∃ drawn, PrintsText (width - 2) .ellipsis text drawn ∧
      List.Forall₂ (Padded width) drawn inside

lemma showsCell_of_cellLines {c : Column} {style : Style} {width : Nat} {content : Content} {inside : List Line}
    {text : String} (h : Table.cellLines c style width content = .ok inside) (hsaid : content.Says text.toList) :
    ShowsCell width (visible text) inside := by
  unfold Table.cellLines at h
  split at h
  · next hnarrow => exact Or.inl ⟨hnarrow, (Except.ok.inj h).symm⟩
  · next hwide =>
    have hwidth : 2 < width := Nat.lt_of_not_le hwide
    obtain ⟨t, ht, hchars⟩ := hsaid
    rw [ht] at h
    obtain rfl := Except.ok.inj h
    refine Or.inr ⟨hwidth, t.render (width - 2) c.placement .ellipsis, ?_, ?_⟩
    · rw [← shown_toList, ← hchars]
      exact t.printsText_render (by omega)
    · rw [List.forall₂_map_right_iff]
      refine (forall₂_padded width _).imp fun full line hline => ?_
      rw [Padded, Line.chars_onto, Line.width_onto]
      exact hline

/-- A cell of steady text has room in its column. -/
lemma ShowsCell.width {width : Nat} {text : List Char} {inside : List Line} (h : ShowsCell width text inside)
    (hsteady : Steady text) : ∀ line ∈ inside, line.width = width := by
  rcases h with ⟨-, rfl⟩ | ⟨hwidth, drawn, ⟨parts, hparts⟩, hinside⟩
  · nofun
  · intro line hline
    obtain ⟨full, hfull, inner, -, -, hroom⟩ := exists_of_mem_forall₂ hinside hline
    have hwide := (hroom (hparts.narrow hsteady full hfull)).2
    omega

/-! ### Rows -/

lemma chars_intercalate (c : Char) (pieces : List Line) :
    Line.chars ([Segment.plain [c]].intercalate pieces) = [c].intercalate (pieces.map Line.chars) := by
  induction pieces with
  | nil => rfl
  | cons piece pieces ih =>
    cases pieces with
    | nil => simp
    | cons next pieces =>
      rw [List.intercalate_cons_cons, Line.chars_append, Line.chars_append, ih]
      simp [List.intercalate_cons_cons, Segment.plain]

lemma width_intercalate {c : Char} (h : cells [c] = 1) {pieces : List Line} {widths : List Nat}
    (hpieces : List.Forall₂ (fun (piece : Line) width => piece.width = width) pieces widths) :
    Line.width ([Segment.plain [c]].intercalate pieces) = widths.sum + (widths.length - 1) := by
  induction hpieces with
  | nil => rfl
  | @cons piece width pieces widths hpiece hpieces ih =>
    cases hpieces with
    | nil => simpa using hpiece
    | cons hnext hrest =>
      have hplain : (Segment.plain [c]).width = 1 := h
      rw [List.intercalate_cons_cons, Line.width_append, Line.width_append, ih, Line.width_cons, hplain, hpiece]
      simp only [Line.width_nil, List.sum_cons, List.length_cons]
      omega

/-- The lines of a cell with blank ones below or above them. -/
def filledColumn (height : Nat) (atBottom : Bool) : Nat × Style × List Line → List Line
  | (width, style, inside) =>
    let missing : List Line := List.replicate (height - inside.length) [Segment.blank width style]
    if height = 0 then [[Segment.blank width .none]]
    else if atBottom then missing ++ inside
    else inside ++ missing

lemma filledColumn_eq {height : Nat} (atBottom : Bool) {entry : Nat × Style × List Line}
    (h : entry.2.2.length ≤ height) :
    (∃ above below, filledColumn height atBottom entry = above ++ entry.2.2 ++ below ∧
      ∀ line ∈ above ++ below, IsBlank entry.1 line) ∧ (filledColumn height atBottom entry).length = max height 1 := by
  obtain ⟨width, style, inside⟩ := entry
  have hle : inside.length ≤ height := h
  have hblank (n : Nat) : ∀ line ∈ List.replicate n [Segment.blank width style], IsBlank width line :=
    fun line hline => List.eq_of_mem_replicate hline ▸ isBlank_blank width style
  unfold filledColumn
  dsimp only
  split
  · next hzero =>
    obtain rfl : inside = [] := List.length_eq_zero_iff.mp (by omega)
    have hall := List.forall_mem_singleton.mpr (isBlank_blank width .none)
    exact ⟨⟨[], [[.blank width .none]], rfl, hall⟩, by simp [hzero]⟩
  · split
    · refine ⟨⟨_, [], (List.append_nil _).symm, ?_⟩, ?_⟩
      · rw [List.append_nil]
        exact hblank _
      · rw [List.length_append, List.length_replicate]
        omega
    · refine ⟨⟨[], List.replicate (height - inside.length) [.blank width style], rfl, hblank _⟩, ?_⟩
      rw [List.length_append, List.length_replicate]
      omega

/-- The rows show the cells side by side, filled up to one height. -/
lemma rowLines_columns (frame : Frame) (atBottom : Bool) (entries : List (Nat × Style × List Line)) :
    ∃ columns, List.Forall₂ (fun (entry : Nat × Style × List Line) column =>
        (∃ above below, column = above ++ entry.2.2 ++ below ∧ ∀ line ∈ above ++ below, IsBlank entry.1 line) ∧
          column.length = (Table.rowLines frame atBottom entries).length) entries columns ∧
      ∀ (n : Nat) (line : Line), (Table.rowLines frame atBottom entries)[n]? = .some line → ∃ pieces : List Line,
        List.Forall₂ (fun column piece => column[n]? = .some piece) columns pieces ∧
        line = .plain [frame.side.left] :: [Segment.plain [frame.side.cross]].intercalate pieces ++
          [.plain [frame.side.right]] := by
  obtain ⟨height, hheight⟩ :
      ∃ height, (entries.map fun (_, _, inside) => inside.length).foldl max 0 = height := ⟨_, rfl⟩
  have hle : ∀ entry ∈ entries, entry.2.2.length ≤ height := fun entry hentry =>
    hheight ▸ le_foldl_max (Or.inr (List.mem_map.mpr ⟨entry, hentry, rfl⟩))
  have hrows : Table.rowLines frame atBottom entries = (List.range (max height 1)).map fun n =>
      .plain [frame.side.left] :: [Segment.plain [frame.side.cross]].intercalate
        ((entries.map (filledColumn height atBottom)).map fun column => (column[n]?).getD []) ++
        [.plain [frame.side.right]] := by
    rw [← hheight]
    rfl
  have hlength : ∀ column ∈ entries.map (filledColumn height atBottom), column.length = max height 1 :=
    List.forall_mem_map.mpr fun entry hentry => (filledColumn_eq atBottom (hle entry hentry)).2
  rw [hrows, List.length_map, List.length_range]
  refine ⟨entries.map (filledColumn height atBottom), ?_, fun n line hline => ?_⟩
  · exact List.forall₂_map_right_iff.mpr (List.forall₂_same.mpr fun entry hentry =>
      filledColumn_eq atBottom (hle entry hentry))
  · rw [List.getElem?_map, Option.map_eq_some_iff] at hline
    obtain ⟨m, hm, rfl⟩ := hline
    obtain ⟨hn, rfl⟩ := List.getElem?_eq_some_iff.mp hm
    rw [List.getElem_range] at *
    rw [List.length_range] at hn
    refine ⟨_, List.forall₂_map_right_iff.mpr (List.forall₂_same.mpr fun column hcolumn => ?_), rfl⟩
    rw [List.getElem?_eq_getElem (by rw [hlength column hcolumn]; exact hn)]
    rfl

/-- The cells of a row say what is to be shown, each in its column. -/
lemma showsCells_of_mapM {t : Table} {isHead : Bool} {widths : List Nat} {columns : List Column} {cells : List Content}
    {texts : List String} {entries : List (Nat × Style × List Line)}
    (h : (widths.zip (columns.zip cells)).mapM (fun (width, column, content) => do
      let style := if isHead then t.headStyle else column.style
      return (width, style, ← Table.cellLines column style width content)) = .ok entries)
    (hsaid : List.Forall₂ (fun cell (text : String) => cell.Says text.toList) cells texts)
    (hlength : columns.length = cells.length) :
    List.Forall₂ (fun (x : Nat × String) (entry : Nat × Style × List Line) =>
      entry.1 = x.1 ∧ ShowsCell x.1 (visible x.2) entry.2.2) (widths.zip texts) entries := by
  rw [mapM_eq_ok_iff] at h
  induction hsaid generalizing widths columns entries with
  | nil => simpa using h
  | cons hcell _ ih =>
    obtain ⟨column, columns, rfl⟩ := List.exists_cons_of_length_eq_add_one (hlength.trans (List.length_cons))
    cases widths with
    | nil => simpa using h
    | cons width widths =>
      simp only [List.zip_cons_cons] at h ⊢
      cases h with
      | cons hentry hrest =>
        obtain ⟨inside, hinside, hentry⟩ := bind_eq_ok_iff.mp hentry
        obtain rfl := Except.ok.inj hentry
        exact .cons ⟨rfl, showsCell_of_cellLines hinside hcell⟩ (ih hrest (by simpa using hlength))

/-- A row shows what its cells say. -/
theorem printsRow_of_row {t : Table} {isHead : Bool} {widths : List Nat} {cells : List Content} {texts : List String}
    {lines : List Line} (h : t.row widths isHead cells = .ok lines) (hframe : t.frame.Thin)
    (hsaid : List.Forall₂ (fun cell (text : String) => cell.Says text.toList) cells texts)
    (hwidths : widths.length = texts.length) (hcolumns : t.columns.length = cells.length) :
    PrintsRow t.frame widths texts lines := by
  have hsome := Table.ne_nil_of_row h
  obtain ⟨entries, hentries, hlines⟩ := bind_eq_ok_iff.mp h
  obtain rfl := Except.ok.inj hlines
  have hcells := showsCells_of_mapM hentries hsaid hcolumns
  obtain ⟨columns, hfilled, hrows⟩ := rowLines_columns t.frame isHead entries
  refine ⟨hwidths, hsome, ⟨columns, ?_, fun n line hline => ?_⟩, fun hsteady line hline => ?_⟩
  · refine (forall₂_comp hcells hfilled).imp ?_
    rintro x column ⟨entry, ⟨hwidth, hcell⟩, ⟨above, below, hcolumn, hblank⟩, hlength⟩
    exact ⟨⟨above, entry.2.2, below, hcolumn, hwidth ▸ hblank, hcell⟩, hlength⟩
  · obtain ⟨pieces, hpieces, rfl⟩ := hrows n line hline
    refine ⟨pieces, hpieces, ?_⟩
    rw [List.cons_append, Line.chars_cons, Line.chars_append, chars_intercalate]
    rfl
  · obtain ⟨n, hn⟩ := List.mem_iff_getElem?.mp hline
    obtain ⟨pieces, hpieces, rfl⟩ := hrows n line hn
    have hwide : List.Forall₂ (fun (x : Nat × String) (piece : Line) => piece.width = x.1) (widths.zip texts)
        pieces := by
      have hall := forall₂_comp (forall₂_comp hcells hfilled) hpieces
      refine List.forall₂_iff_zip.mpr ⟨hall.length_eq, fun {x piece} hmem => ?_⟩
      obtain ⟨column, ⟨entry, ⟨hwidth, hcell⟩, ⟨above, below, hcolumn, hblank⟩, -⟩, hpiece⟩ :=
        List.forall₂_zip hall hmem
      have htext := hsteady x.2 (List.of_mem_zip (List.of_mem_zip hmem).1).2
      have hmem : piece ∈ above ++ entry.2.2 ++ below := hcolumn ▸ List.mem_of_getElem? hpiece
      rw [List.append_assoc, List.mem_append, List.mem_append] at hmem
      rcases hmem with hmem | hmem | hmem
      · exact hwidth ▸ (hblank piece (List.mem_append_left _ hmem)).2
      · exact hcell.width htext piece hmem
      · exact hwidth ▸ (hblank piece (List.mem_append_right _ hmem)).2
    have hpieces' : List.Forall₂ (fun (piece : Line) width => piece.width = width) pieces widths := by
      rw [← List.map_fst_zip hwidths.le, List.forall₂_map_right_iff]
      exact hwide.flip
    have hleft : (Segment.plain [t.frame.side.left]).width = 1 := hframe.1
    have hright : (Segment.plain [t.frame.side.right]).width = 1 := hframe.2.2
    rw [Line.width_append, Line.width_cons, Line.width_cons, width_intercalate hframe.2.1 hpieces', hleft, hright,
      Line.width_nil]
    omega

/-- The cells say these texts, one each. -/
def SaysAll (cells : List Content) (texts : List String) : Prop :=
  List.Forall₂ (fun cell text => cell.Says text.toList) cells texts

/-- The lines show a table with these texts in its rows, under its title and its head. -/
def PrintsTable (t : Table) (widths : List Nat) (texts : List (List String)) (lines : List Line) : Prop :=
  ∃ title head rows, (t.title = none → title = []) ∧
    (∀ text ∈ t.title, PrintsText (widths.sum + t.frameWidth) .fold (visible text) title) ∧
    PrintsRow t.frame widths (t.columns.map Column.head) head ∧ List.Forall₂ (PrintsRow t.frame widths) texts rows ∧
    lines = title ++ [.plain (t.frame.top.draw widths)] :: head ++
      [.plain (t.frame.underHead.draw widths)] :: rows.flatten ++ [[.plain (t.frame.bottom.draw widths)]]

/-- A drawing of a table shows what its heads and cells say. -/
theorem printsTable_of_draws {t : Table} {width : Nat} {texts : List (List String)} {lines : List Line}
    (h : t.Draws width lines) (hframe : t.frame.Thin)
    (hheads : ∀ c ∈ t.columns, (Content.markup c.head).Says c.head.toList)
    (hrows : List.Forall₂ (fun cells texts => SaysAll cells texts ∧ t.columns.length = cells.length) t.rows texts) :
    ∃ widths, t.widths (width - t.frameWidth) = .ok widths ∧ PrintsTable t widths texts lines := by
  obtain ⟨widths, title, head, rows, hwidths, htitle, hhead, hbody, rfl⟩ := h
  have hlength := Table.length_widths hwidths
  refine ⟨widths, hwidths, title, head, rows, fun hnone => ?_, fun text htext => ?_, ?_, ?_, rfl⟩
  · rw [htitle, hnone]
    rfl
  · rw [htitle, Option.mem_def.mp htext, Option.toList_some, List.flatMap_singleton, total_eq_sum, ← shown_toList]
    exact (Styled.ofText text Table.titleStyle).printsText_render (by unfold Table.frameWidth; omega)
  · refine printsRow_of_row hhead hframe ?_ (by rw [hlength, List.length_map]) (List.length_map _).symm
    exact List.forall₂_map_left_iff.mpr (List.forall₂_map_right_iff.mpr (List.forall₂_same.mpr hheads))
  · refine (forall₂_comp hrows.flip hbody).imp ?_
    rintro texts part ⟨cells, ⟨hsaid, hcolumns⟩, hpart, -⟩
    exact printsRow_of_row hpart hframe hsaid (by rw [hlength, hcolumns, hsaid.length_eq]) hcolumns

/-! ### Panels -/

/-- The lines show others in a frame, which reaches from one end of a terminal to the other. -/
def PrintsPanel (frame : Frame) (title : Option String) (width : Nat) (content lines : List Line) : Prop :=
  ∃ top rows bottom, lines = top :: rows ++ [bottom] ∧
    (∃ before label after, Begins (frame.top.left :: List.replicate before frame.top.fill ++ label ++
        List.replicate after frame.top.fill ++ [frame.top.right]) top.chars ∧ (title = none → label = []) ∧
      ∀ text ∈ title, label = [] ∨ Starts .fold (visible (" " ++ text ++ " ")) label) ∧
    Begins (frame.bottom.draw [width - 2]) bottom.chars ∧
    List.Forall₂ (fun full row => ∃ inner, Padded (width - 2) full inner ∧
      Begins (frame.side.left :: inner.chars ++ [frame.side.right]) row.chars ∧
      (4 ≤ width → full.width ≤ width - 4 → row.chars = frame.side.left :: inner.chars ++ [frame.side.right]))
      content rows

lemma chars_titledEdge (e : Edge) (style : Style) (width : Nat) (title : Option String) :
    ∃ before label after, (titledEdge e style width title).chars =
        e.left :: List.replicate before e.fill ++ label ++ List.replicate after e.fill ++ [e.right] ∧
      (title = none → label = []) ∧ ∀ text ∈ title, label = [] ∨ Starts .fold (visible (" " ++ text ++ " ")) label := by
  have hplain : Line.chars [⟨e.draw [width], style⟩] =
      e.left :: List.replicate width e.fill ++ [] ++ List.replicate 0 e.fill ++ [e.right] := by
    simp [Edge.draw]
  cases title with
  | none => exact ⟨width, [], 0, hplain, fun _ => rfl, nofun⟩
  | some title =>
    unfold titledEdge
    dsimp only
    split
    · exact ⟨width, [], 0, hplain, fun _ => rfl, fun _ _ => Or.inl rfl⟩
    · have hfill (n : Nat) : Line.chars (if n = 0 then [] else [⟨List.replicate n e.fill, style⟩]) =
          List.replicate n e.fill := by
        split
        · next hzero => simp [hzero]
        · simp
      have hlabel : Starts .fold (visible (" " ++ title ++ " "))
          ((Styled.ofText (" " ++ title ++ " ") style).truncate (width - 2) .fold).chars :=
        Styled.starts_truncate (starts_of_isPrefix (shown_toList _ ▸ List.prefix_refl _))
      generalize (Styled.ofText (" " ++ title ++ " ") style).truncate (width - 2) .fold = label at hlabel ⊢
      generalize width - 2 - cells label.chars = rest
      refine ⟨rest / 2 + 1, label.chars, rest - rest / 2 + 1, ?_, nofun, fun text htext => Or.inr ?_⟩
      · rw [List.cons_append, List.cons_append, List.cons_append, Line.chars_cons, Line.chars_append, Line.chars_append,
          Line.chars_append, hfill, hfill, Styled.chars_toLine, List.replicate_succ, List.replicate_succ']
        simp
      · obtain rfl := Option.some.inj htext
        exact hlabel

theorem printsPanel_cut {frame : Frame} (hframe : frame.Thin) (style : Style) (title : Option String) (width : Nat)
    (content : Nat → List Line) : PrintsPanel frame title width (content (width - 4))
      ((panel frame style title width content).map (Line.cut width)) := by
  unfold panel
  dsimp only
  rw [Nat.sub_sub, List.map_append, List.map_cons]
  refine ⟨_, _, _, rfl, ?_, ?_, ?_⟩
  · obtain ⟨before, label, after, hchars, hlabel⟩ := chars_titledEdge frame.top style (width - 2) title
    exact ⟨before, label, after, hchars ▸ Line.begins_cut width _, hlabel⟩
  · simpa using Line.begins_cut width [⟨frame.bottom.draw [width - 2], style⟩]
  · rw [List.map_map, List.forall₂_map_right_iff]
    refine (forall₂_padded (width - 2) (content (width - 4))).imp fun full inner hinner => ⟨inner, hinner, ?_⟩
    have hchars : Line.chars (⟨[frame.side.left], style⟩ :: inner ++ [⟨[frame.side.right], style⟩]) =
        frame.side.left :: inner.chars ++ [frame.side.right] := by simp
    refine ⟨hchars ▸ Line.begins_cut width _, fun hwidth hroom => ?_⟩
    obtain ⟨_, -, -, hwide⟩ := hinner
    have hinner := (hwide (by omega)).2
    have hleft : Segment.width ⟨[frame.side.left], style⟩ = 1 := hframe.1
    have hright : Segment.width ⟨[frame.side.right], style⟩ = 1 := hframe.2.2
    have hle : Line.width (⟨[frame.side.left], style⟩ :: inner ++ [⟨[frame.side.right], style⟩]) ≤ width := by
      rw [Line.width_append, Line.width_cons, Line.width_cons, hleft, hright, hinner, Line.width_nil]
      omega
    rw [Function.comp_apply, Line.cut_of_le hle, hchars]

end Terminal

end AsyncActions
