import AsyncActions.Proofs.DrawnTables
import AsyncActions.Proofs.ReportAccounts
import AsyncActions.Proofs.VerbatimMarkup
import AsyncActions.Report.Page

/-!
# What a page shows

A report is legible if its paths can be looked up and all the markup in it can be read. The page then
shows all of it: section after section, the count of each file, and the totals. On a terminal that is
wide enough, the page of a report that is not legible breaks off.
-/

namespace AsyncActions.Report

open Terminal

/-- The findings and files have paths that can be looked up, and markup that can be read. -/
structure Legible (ws : Workspace) (findings : List Finding) (files : List Path) : Prop where
  header : ∀ f ∈ findings, ∃ path, shorten ws (.ofString (pathText f)) = .ok path ∧
    (Content.markup (tagged "bold cyan" path)).Readable
  message : ∀ f ∈ findings, (Content.markup f.message).Readable
  file : ∀ p ∈ files, ∃ path, shorten ws p = .ok path ∧ (Content.markup path).Readable

namespace Layout

def textLines (l : Layout) (t : Styled) : List Line := (t.render l.width .loose .fold).map (Line.cut l.width)

/-- A table as wide as the terminal allows, with all of its rows. -/
def DrawsTable (l : Layout) (t : Table) (lines : List Line) : Prop :=
  ∃ drawn, t.Draws l.width drawn ∧ lines = drawn.map (Line.cut l.width)

/-- A panel around such a table. -/
def DrawsPanel (l : Layout) (style : String) (t : Table) (lines : List Line) : Prop :=
  ∃ drawn, t.Draws (l.width - 4) drawn ∧
    lines = (panel .rounded (.named style) none l.width fun _ => drawn).map (Line.cut l.width)

end Layout

/-- What is said about a finding below the table. -/
def noteTexts (l : Layout) (f : Finding) : List Styled :=
  (f.location.snippet.filter (· ≠ "")).toList.map snippetLine ++
    if l.verbose then f.suggestions.map suggestionLine else []

/-- What is said about a rule below the notes. -/
def remedyTexts (ruleId : String) : List Styled :=
  match remedy? ruleId with
  | some remedy => [dim s!"  [Fix] [{ruleId}] {remedy}", dim s!"        see {Rule.docsUrl ruleId}"]
  | none => []

/-- The lines below the notes of a section. -/
def closingLines (l : Layout) (s : Section) : List Line :=
  [] :: if l.verbose then
    (((s.findings.map (·.ruleId)).eraseDups.flatMap remedyTexts).flatMap l.textLines) ++ [[]] else []

/-- The lines show a section: below its header a table with a row for each finding, and the notes. -/
def ShowsSection (ws : Workspace) (l : Layout) (s : Section) (lines : List Line) : Prop :=
  ∃ path header table, shorten ws (.ofString s.path) = .ok path ∧
    l.markupPanel Frame.invisible "blue" none (tagged "bold cyan" path) = .ok header ∧
    l.DrawsTable (findingTable s.findings) table ∧
    lines = [] :: header ++ table ++ (s.findings.flatMap (noteTexts l)).flatMap l.textLines ++ closingLines l s

/-- The lines show a table with a row for each file, or nothing if there are no files. -/
def ShowsFiles (ws : Workspace) (l : Layout) (files : List FileCount) (lines : List Line) : Prop :=
  files = [] ∧ lines = [] ∨ files ≠ [] ∧ ∃ rows table,
    List.Forall₂ (fun f row => fileRow ws f = .ok row) files rows ∧
    (4 < l.width → l.DrawsPanel "cyan" (fileTable rows) table) ∧ lines = [] :: table

/-- The lines show the totals, if there are any. -/
def ShowsTotals (l : Layout) (totals : Option Totals) (lines : List Line) : Prop :=
  totals = none ∧ lines = [] ∨ ∃ t panel, totals = some t ∧
    l.markupPanel .rounded "yellow" (some "Summary") (totalsMarkup t) = .ok panel ∧ lines = [] :: panel

/-- The page shows the report as a whole. -/
def ShowsReport (ws : Workspace) (l : Layout) (r : Report) (p : Page) : Prop :=
  (r.sections = [] ∧ r.files = []) ∧ (∃ lines, allClear l = .ok lines ∧ p = ⟨lines, none⟩) ∨
  ¬ (r.sections = [] ∧ r.files = []) ∧ ∃ sections counts totals,
    p = ⟨sections.flatten ++ counts ++ totals, none⟩ ∧
    List.Forall₂ (ShowsSection ws l) r.sections sections ∧ ShowsFiles ws l r.files counts ∧
    ShowsTotals l r.totals totals

lemma ShowsReport.failure {ws : Workspace} {l : Layout} {r : Report} {p : Page} (h : ShowsReport ws l r p) :
    p.failure = none := by
  rcases h with ⟨-, lines, -, rfl⟩ | ⟨-, sections, counts, totals, rfl, -⟩
  · rfl
  · rfl

/-- All of the blocks can be shown, and these are their lines. -/
def Printed (blocks : List Block) (lines : List Line) : Prop :=
  ∃ parts : List (List Line), blocks = parts.map .ok ∧ lines = parts.flatten

section

variable {blocks blocks' : List Block} {lines lines' : List Line}

lemma Printed.append (h : Printed blocks lines) (h' : Printed blocks' lines') :
    Printed (blocks ++ blocks') (lines ++ lines') := by
  obtain ⟨parts, rfl, rfl⟩ := h
  obtain ⟨parts', rfl, rfl⟩ := h'
  exact ⟨parts ++ parts', by simp, by simp⟩

lemma printed_nil : Printed [] [] := ⟨[], rfl, rfl⟩

lemma Printed.cons (h : Printed blocks lines) (more : List Line) : Printed (.ok more :: blocks) (more ++ lines) := by
  obtain ⟨parts, rfl, rfl⟩ := h
  exact ⟨more :: parts, rfl, rfl⟩

/-- Members that are shown each by some blocks are shown by all of them. -/
lemma printed_flatMap {α : Type} {f : α → List Block} {P : α → List Line → Prop} {as : List α}
    (h : ∀ a ∈ as, ∃ lines, Printed (f a) lines ∧ P a lines) :
    ∃ parts, Printed (as.flatMap f) parts.flatten ∧ List.Forall₂ P as parts := by
  induction as with
  | nil => exact ⟨[], printed_nil, .nil⟩
  | cons a as ih =>
    obtain ⟨lines, hlines, hp⟩ := h a List.mem_cons_self
    obtain ⟨parts, hparts, hall⟩ := ih fun b hb => h b (List.mem_cons_of_mem _ hb)
    exact ⟨lines :: parts, hlines.append hparts, .cons hp hall⟩

lemma Printed.ofBlocks (h : Printed blocks lines) : Page.ofBlocks blocks = ⟨lines, none⟩ := by
  obtain ⟨parts, rfl, rfl⟩ := h
  induction parts with
  | nil => rfl
  | cons part parts ih => rw [List.map_cons, Page.ofBlocks, ih, List.flatten_cons]

/-- On a page that does not break off all blocks can be shown. -/
lemma exists_ok_of_failure (h : (Page.ofBlocks blocks).failure = none) : ∀ b ∈ blocks, ∃ lines, b = .ok lines := by
  induction blocks with
  | nil => nofun
  | cons b blocks ih =>
    cases b with
    | error e => cases h
    | ok lines => exact List.forall_mem_cons.mpr ⟨⟨lines, rfl⟩, ih h⟩

end

/-! ### Parts of a page -/

variable {ws : Workspace} {l : Layout}

lemma printed_text (texts : List Styled) : Printed (texts.map l.text) (texts.flatMap l.textLines) :=
  ⟨texts.map l.textLines, by rw [List.map_map]; rfl, (List.flatMap_def ..)⟩

lemma findingNotes_eq (f : Finding) : findingNotes l f = (noteTexts l f).map l.text := by
  unfold findingNotes noteTexts
  cases l.verbose <;> simp [Function.comp_def]

lemma remedyNotes_eq (ruleId : String) : remedyNotes l ruleId = (remedyTexts ruleId).map l.text := by
  unfold remedyNotes remedyTexts
  cases remedy? ruleId <;> rfl

lemma exists_markupPanel (frame : Frame) (style : String) (title : Option String) {markup : String}
    (h : (Content.markup markup).Readable) : ∃ lines, l.markupPanel frame style title markup = .ok lines := by
  unfold Layout.markupPanel
  split
  · exact ⟨_, rfl⟩
  · exact exists_bind_eq_ok (h.imp fun t ht => mapError_eq_ok_iff.mpr ht) fun t => ⟨_, rfl⟩

lemma readable_of_markupPanel {frame : Frame} {style markup : String} {title : Option String}
    {lines : List Line} (hwidth : 4 < l.width) (h : l.markupPanel frame style title markup = .ok lines) :
    (Content.markup markup).Readable := by
  rw [Layout.markupPanel, if_neg (by omega)] at h
  obtain ⟨t, ht, -⟩ := bind_eq_ok_iff.mp h
  exact ⟨t, mapError_eq_ok_iff.mp ht⟩

lemma drawsTable_of_table {t : Table} {lines : List Line} (hwidth : 0 < l.width) (h : l.table t = .ok lines) :
    l.DrawsTable t lines := by
  obtain ⟨drawn, hdrawn, h⟩ := bind_eq_ok_iff.mp h
  exact ⟨drawn, Table.draws_of_render (mapError_eq_ok_iff.mp hdrawn) (by omega), (Except.ok.inj h).symm⟩

lemma exists_table {t : Table} (h : t.Readable) : ∃ lines, l.table t = .ok lines := by
  obtain ⟨lines, hlines⟩ := h.render l.width
  exact exists_bind_eq_ok ⟨lines, mapError_eq_ok_iff.mpr hlines⟩ fun _ => ⟨_, rfl⟩

lemma readable_plain {text : String} (h : '[' ∉ text.toList) : (Content.markup text).Readable :=
  Markup.read_of_balanced (.plain h)

lemma isDigit_of_mem_toString {c : Char} {n : Nat} (h : c ∈ (toString n).toList) : c.isDigit = true := by
  rw [Nat.toString_eq_repr, Nat.toList_repr] at h
  exact Nat.isDigit_of_mem_toDigits (by decide) (by decide) h

lemma not_mem_toString {c : Char} (hc : c.isDigit = false) (n : Nat) : c ∉ (toString n).toList := by
  intro hmem
  rw [isDigit_of_mem_toString hmem] at hc
  cases hc

lemma readable_findingTable {findings : List Finding}
    (h : ∀ f ∈ findings, (Content.markup f.message).Readable) : (findingTable findings).Readable where
  heads := by
    have hheads : ∀ c ∈ (findingTable findings).columns, '[' ∉ c.head.toList := by
      simp only [findingTable, column, List.forall_mem_cons]
      decide
    exact fun c hc => readable_plain (hheads c hc)
  cells row hrow cell hcell := by
    obtain ⟨f, hf, rfl⟩ := List.mem_map.mp hrow
    revert cell
    simp only [findingRow, List.forall_mem_cons]
    have hnumber (n : Nat) : (Content.markup (toString n)).Readable := readable_plain (not_mem_toString (by decide) n)
    exact ⟨hnumber _, hnumber _, readable_styled _, readable_styled _, h f hf, nofun⟩

/-- Where the columns have room, messages have to be read for a table of findings. -/
lemma readable_of_findingTable {findings : List Finding} {lines : List Line} (hwidth : 8 < l.width)
    (h : l.table (findingTable findings) = .ok lines) :
    ∀ f ∈ findings, (Content.markup f.message).Readable := by
  obtain ⟨drawn, hdrawn, -⟩ := bind_eq_ok_iff.mp h
  have hroom : Table.padding < l.width - (findingTable findings).frameWidth := by
    change 2 < l.width - 6
    omega
  have hcolumn : (column "Message" .left "white" none, findings.map fun f => Content.markup f.message) ∈
      (findingTable findings).columnCells := by
    have hcells : (findingTable findings).rows.filterMap (·[4]?) =
        findings.map fun f => Content.markup f.message := by
      rw [findingTable, List.filterMap_map, ← List.filterMap_eq_map]
      rfl
    rw [← hcells]
    exact List.mem_map.mpr ⟨(_, 4), by simp [findingTable], rfl⟩
  have hall := Table.readable_of_render (mapError_eq_ok_iff.mp hdrawn) hroom hcolumn rfl
  exact fun f hf => hall _ (List.mem_map_of_mem hf)

lemma printed_sectionBlocks {s : Section} {path : String} (hwidth : 0 < l.width)
    (hshort : shorten ws (.ofString s.path) = .ok path)
    (hheader : (Content.markup (tagged "bold cyan" path)).Readable)
    (hmessages : ∀ f ∈ s.findings, (Content.markup f.message).Readable) :
    ∃ lines, Printed (sectionBlocks ws l s) lines ∧ ShowsSection ws l s lines := by
  obtain ⟨header, hheader⟩ := exists_markupPanel (l := l) Frame.invisible "blue" none hheader
  obtain ⟨table, htable⟩ := exists_table (l := l) (readable_findingTable hmessages)
  have hnotes : s.findings.flatMap (findingNotes l) = (s.findings.flatMap (noteTexts l)).map l.text := by
    rw [List.map_flatMap]
    exact List.flatMap_congr fun f _ => findingNotes_eq f
  have hclosing : Printed ([Layout.blank] ++ if l.verbose then
      ((s.findings.map (·.ruleId)).eraseDups.flatMap (remedyNotes l)) ++ [Layout.blank] else [])
      (closingLines l s) := by
    have hremedies : (s.findings.map (·.ruleId)).eraseDups.flatMap (remedyNotes l) =
        ((s.findings.map (·.ruleId)).eraseDups.flatMap remedyTexts).map l.text := by
      rw [List.map_flatMap]
      exact List.flatMap_congr fun ruleId _ => remedyNotes_eq ruleId
    rw [hremedies, closingLines]
    split
    · exact ((printed_text _).append (printed_nil.cons [[]])).cons [[]]
    · exact printed_nil.cons [[]]
  have hopening : Printed [Layout.blank, (do
      let path ← shorten ws (.ofString s.path)
      l.markupPanel Frame.invisible "blue" none (tagged "bold cyan" path)), l.table (findingTable s.findings)]
      ([] :: header ++ table) := by
    refine ⟨[[[]], header, table], ?_, by simp⟩
    rw [hshort, htable]
    exact congrArg (fun block => [Layout.blank, block, .ok table]) hheader
  refine ⟨_, ?_, path, header, table, hshort, hheader, drawsTable_of_table hwidth htable, rfl⟩
  rw [sectionBlocks, hnotes, List.append_assoc]
  exact (hopening.append (printed_text _)).append hclosing

lemma exists_fileRow {f : FileCount} {path : String} (hshort : shorten ws f.path = .ok path)
    (hread : (Content.markup path).Readable) :
    ∃ row, fileRow ws f = .ok row ∧ ∀ cell ∈ row, cell.Readable := by
  unfold fileRow
  rw [hshort]
  refine ⟨_, rfl, ?_⟩
  simp only [List.forall_mem_cons]
  exact ⟨hread, readable_styled _, readable_plain (not_mem_toString (by decide) _), nofun⟩

lemma readable_fileTable {rows : List (List Content)} (h : ∀ row ∈ rows, ∀ cell ∈ row, cell.Readable) :
    (fileTable rows).Readable := by
  have hheads : ∀ c ∈ (fileTable rows).columns, '[' ∉ c.head.toList := by
    simp only [fileTable, column, List.forall_mem_cons]
    decide
  exact ⟨fun c hc => readable_plain (hheads c hc), h⟩

lemma printed_fileBlocks {files : List FileCount} (hne : files ≠ [])
    (h : ∀ f ∈ files, ∃ path, shorten ws f.path = .ok path ∧ (Content.markup path).Readable) :
    ∃ lines, Printed (fileBlocks ws l files) lines ∧ ShowsFiles ws l files lines := by
  obtain ⟨rows, hrows⟩ : ∃ rows, files.mapM (fileRow ws) = .ok rows := exists_mapM fun f hf => by
    obtain ⟨path, hshort, hread⟩ := h f hf
    exact (exists_fileRow hshort hread).imp fun _ => And.left
  have hall := mapM_eq_ok_iff.mp hrows
  have hcells : ∀ row ∈ rows, ∀ cell ∈ row, cell.Readable := fun row hrow => by
    obtain ⟨f, hf, hfrow⟩ := exists_of_mem_mapM hrows hrow
    obtain ⟨path, hshort, hread⟩ := h f hf
    obtain ⟨row', hrow', hcells⟩ := exists_fileRow hshort hread
    cases hfrow.symm.trans hrow'
    exact hcells
  obtain ⟨drawn, hdrawn⟩ := (readable_fileTable hcells).render (l.width - 4)
  have htable : l.tablePanel "cyan" (fileTable rows) = .ok _ :=
    bind_eq_ok_iff.mpr ⟨drawn, mapError_eq_ok_iff.mpr hdrawn, rfl⟩
  refine ⟨_, ?_, Or.inr ⟨hne, rows, _, hall, fun hwidth => ⟨drawn, ?_, rfl⟩, rfl⟩⟩
  · unfold fileBlocks
    rw [hrows]
    exact ⟨[[[]], _], congrArg (fun block => [Layout.blank, block]) htable, by simp⟩
  · exact Table.draws_of_render hdrawn (by omega)

/-- Where the columns have room, paths have to be looked up and read for a table of files. -/
lemma readable_of_fileBlocks {files : List FileCount} (hwidth : 10 < l.width)
    (h : ∀ b ∈ fileBlocks ws l files, ∃ lines, b = .ok lines) :
    ∀ f ∈ files, ∃ path, shorten ws f.path = .ok path ∧ (Content.markup path).Readable := by
  unfold fileBlocks at h
  split at h
  · next rows hrows =>
    obtain ⟨panel, hpanel⟩ := h _ (List.mem_cons_of_mem _ List.mem_cons_self)
    obtain ⟨drawn, hdrawn, -⟩ := bind_eq_ok_iff.mp hpanel
    have hroom : Table.padding < l.width - 4 - (fileTable rows).frameWidth := by
      change 2 < l.width - 4 - 4
      omega
    have hcolumn : (column "File" .left "white" none, rows.filterMap (·[0]?)) ∈ (fileTable rows).columnCells :=
      List.mem_map.mpr ⟨(_, 0), by simp [fileTable], rfl⟩
    have hall := Table.readable_of_render (mapError_eq_ok_iff.mp hdrawn) hroom hcolumn rfl
    intro f hf
    obtain ⟨row, hrow, hfrow⟩ := exists_mem_mapM hrows hf
    obtain ⟨path, hshort, hcells⟩ := bind_eq_ok_iff.mp hfrow
    refine ⟨path, hshort, hall _ (List.mem_filterMap.mpr ⟨row, hrow, ?_⟩)⟩
    rw [← Except.ok.inj hcells]
    rfl
  · next e _ =>
    obtain ⟨lines, hlines⟩ := h _ List.mem_cons_self
    cases hlines

open Markup

/-- What is shown between the tags of a style is what would be shown without them. -/
lemma shows_tagged {style markup : String} {text : List Char} (hstyle : IsStyle style.toList)
    (hstrip : Text.strip style.toList = style.toList) (h : Markup.Shows [] markup.toList text)
    (hslash : markup.toList.getLast? ≠ some '\\') : Markup.Shows [] (tagged style markup).toList text := by
  have henter := Markup.Shows.enter literal_nil (by simp) hstyle.isTagBody hstyle.head?_ne hstyle.sound
    (h.closed hstyle hstrip hslash)
  simpa [tagged, tag] using henter

/-- A tag before text and the one that closes it can be read, also where a backslash ends the text. -/
lemma readable_tagged {style text : String} (hstyle : IsStyle style.toList)
    (hstrip : Text.strip style.toList = style.toList) (htext : '[' ∉ text.toList) :
    (Content.markup (tagged style text)).Readable := by
  have hgroup := Balanced.group List.not_mem_nil List.not_mem_nil hstyle htext (Or.inr ⟨rfl, hstrip⟩)
    (.plain List.not_mem_nil)
  refine read_of_balanced ?_
  simpa [tagged, tag] using hgroup

lemma isStyle_header : IsStyle "bold cyan".toList := by decide +kernel

lemma isStyle_green : IsStyle "green".toList := by decide +kernel

lemma readable_allClear : (Content.markup (tagged "green" "No issues found.")).Readable :=
  readable_tagged isStyle_green (by decide) (by decide)

/-- Ordinary text without any sign that means something in markup. -/
def Tame (cs : List Char) : Prop := '[' ∉ cs ∧ ':' ∉ cs ∧ '\\' ∉ cs ∧ cs.all isPlain = true

instance (cs : List Char) : Decidable (Tame cs) := inferInstanceAs (Decidable (_ ∧ _))

lemma Tame.literal {cs : List Char} (h : Tame cs) : Literal cs := literal_of_not_mem h.1 h.2.1

lemma Tame.getLast?_ne {cs : List Char} (h : Tame cs) : cs.getLast? ≠ some '\\' :=
  fun hlast => h.2.2.1 (List.mem_of_getLast? hlast)

lemma tame_append {a b : String} (ha : Tame a.toList) (hb : Tame b.toList) : Tame (a ++ b).toList := by
  rw [String.toList_append, Tame]
  simp only [List.mem_append, not_or, List.all_append, Bool.and_eq_true]
  exact ⟨⟨ha.1, hb.1⟩, ⟨ha.2.1, hb.2.1⟩, ⟨ha.2.2.1, hb.2.2.1⟩, ha.2.2.2, hb.2.2.2⟩

lemma tame_toString (n : Nat) : Tame (toString n).toList := by
  refine ⟨not_mem_toString (by decide) n, not_mem_toString (by decide) n, not_mem_toString (by decide) n,
    List.all_eq_true.mpr fun c hc => ?_⟩
  have hdigit := isDigit_of_mem_toString hc
  simp only [Char.isDigit, Bool.and_eq_true, decide_eq_true_iff] at hdigit
  simp only [isPlain, Bool.and_eq_true, decide_eq_true_iff, Char.le_def]
  exact ⟨UInt32.le_trans (by decide : ' '.val ≤ 48) hdigit.1, UInt32.le_trans hdigit.2 (by decide : 57 ≤ '~'.val)⟩

/-- Text between the tag of a style and one that closes it. -/
def IsPiece (cs text : List Char) : Prop :=
  ∃ body close, cs = tag body ++ (text ++ tag ('/' :: close)) ∧ IsStyle body ∧ Tame text ∧ Closes body close

lemma isPiece_tagged {style text : String} (hstyle : IsStyle style.toList)
    (hstrip : Text.strip style.toList = style.toList) (htext : Tame text.toList) :
    IsPiece (tagged style text).toList text.toList := by
  refine ⟨style.toList, style.toList, ?_, hstyle, htext, Or.inr ⟨rfl, hstrip⟩⟩
  simp [tagged, tag]

/-- The pieces with something between them. -/
lemma shows_intercalate (before sep : List Char) (pieces : List (List Char × List Char))
    (hbefore : Tame before) (hsep : Tame sep) (h : ∀ piece ∈ pieces, IsPiece piece.1 piece.2) :
    Markup.Shows [] (before ++ sep.intercalate (pieces.map Prod.fst))
      (before ++ sep.intercalate (pieces.map Prod.snd)) := by
  induction pieces generalizing before with
  | nil =>
    simp only [List.map_nil, List.intercalate_nil, List.append_nil]
    exact .literal hbefore.literal
  | cons piece pieces ih =>
    obtain ⟨body, close, hcs, hbody, htext, hclose⟩ := h piece List.mem_cons_self
    have hgroup {rest text : List Char} (hrest : Markup.Shows [] rest text) :=
      Markup.Shows.group hbefore.literal hbefore.getLast?_ne hbody htext.literal htext.getLast?_ne hclose hrest
    cases pieces with
    | nil =>
      have hlast := hgroup (.literal literal_nil)
      simpa [hcs] using hlast
    | cons next pieces =>
      have hrest := hgroup (ih sep hsep fun p hp => h p (List.mem_cons_of_mem _ hp))
      simp only [List.map_cons, List.intercalate_cons_cons] at hrest ⊢
      simpa [hcs] using hrest

/-- What the totals say. -/
def totalsText (t : Totals) : String :=
  let plural := if t.findings = 1 then "" else "s"
  " | ".intercalate (
    s!"{t.findings} finding{plural}" :: (t.bySeverity.map fun (severity, n) => s!"{n} {severity}") ++
    if t.suggested = 0 then [] else [s!"{t.suggested} with suggestions"])

lemma isStyle_severityStyle (severity : String) : IsStyle (severityStyle severity).toList := by
  unfold severityStyle
  split <;> decide +kernel

/-- The parts of the totals, each with what it says. -/
def totalsPieces (t : Totals) : List (String × String) :=
  let plural := if t.findings = 1 then "" else "s"
  let found := s!"{t.findings} finding{plural}"
  let suggested := s!"{t.suggested} with suggestions"
  (tagged "bold" found, found) ::
    (t.bySeverity.map fun (severity, n) =>
      (s!"[{severityStyle severity}]{n} {severity}[/]", s!"{n} {severity}")) ++
    if t.suggested = 0 then [] else [(tagged "green" suggested, suggested)]

lemma isPiece_of_mem {t : Totals} (h : ∀ entry ∈ t.bySeverity, Tame entry.1.toList) :
    ∀ piece ∈ totalsPieces t, IsPiece piece.1.toList piece.2.toList := by
  intro piece hmem
  rcases List.mem_append.mp hmem with hmem | hmem
  · rcases List.mem_cons.mp hmem with rfl | hmem
    · have hplural : Tame (if t.findings = 1 then "" else "s").toList := by split <;> decide
      exact isPiece_tagged (by decide +kernel) (by decide)
        (tame_append (tame_append (tame_toString _) (by decide : Tame " finding".toList)) hplural)
    · obtain ⟨⟨severity, n⟩, hentry, rfl⟩ := List.mem_map.mp hmem
      have htext := tame_append (tame_append (tame_toString n) (by decide : Tame " ".toList)) (h _ hentry)
      change IsPiece ("[" ++ severityStyle severity ++ "]" ++ toString n ++ " " ++ severity ++ "[/]").toList
        (toString n ++ " " ++ severity).toList
      refine ⟨_, [], ?_, isStyle_severityStyle severity, htext, Or.inl rfl⟩
      simp [tag]
  · split at hmem
    · cases hmem
    · rw [List.mem_singleton.mp hmem]
      exact isPiece_tagged isStyle_green (by decide)
        (tame_append (tame_toString _) (by decide : Tame " with suggestions".toList))

lemma totalsText_eq (t : Totals) : totalsText t = " | ".intercalate ((totalsPieces t).map Prod.snd) := by
  by_cases hnone : t.suggested = 0 <;> simp [totalsText, totalsPieces, hnone, Function.comp_def]

lemma shows_totalsMarkup {t : Totals} (h : ∀ entry ∈ t.bySeverity, Tame entry.1.toList) :
    Markup.Shows [] (totalsMarkup t).toList (totalsText t).toList := by
  have hmarkup : totalsMarkup t = " | ".intercalate ((totalsPieces t).map Prod.fst) := by
    by_cases hnone : t.suggested = 0 <;> simp [totalsMarkup, totalsPieces, hnone, Function.comp_def]
  have hpieces := shows_intercalate [] " | ".toList
    ((totalsPieces t).map fun piece => (piece.1.toList, piece.2.toList)) (by decide) (by decide)
    (List.forall_mem_map.mpr (isPiece_of_mem h))
  rw [List.map_map, List.map_map] at hpieces
  rw [hmarkup, totalsText_eq, String.toList_intercalate, String.toList_intercalate, List.map_map, List.map_map]
  exact hpieces

lemma tame_of_mem_totalsOf (findings : List Finding) :
    ∀ entry ∈ (totalsOf findings).bySeverity, Tame entry.1.toList := by
  have htame : ∀ severity ∈ countedSeverities, Tame severity.toList := by decide
  intro entry hentry
  obtain ⟨severity, hseverity, rfl⟩ := List.mem_map.mp (List.mem_of_mem_filter hentry)
  exact htame severity hseverity

lemma shows_totalsOf (findings : List Finding) :
    Markup.Shows [] (totalsMarkup (totalsOf findings)).toList (totalsText (totalsOf findings)).toList :=
  shows_totalsMarkup (tame_of_mem_totalsOf findings)

lemma exists_totalsBlocks (findings : List Finding) (files : List Path) :
    ∃ lines, Printed ((Report.of findings files).totals.toList.flatMap (totalsBlocks l)) lines ∧
      ShowsTotals l (Report.of findings files).totals lines := by
  cases htotals : (Report.of findings files).totals with
  | none => exact ⟨[], printed_nil, Or.inl ⟨rfl, rfl⟩⟩
  | some t =>
    obtain ⟨text, htext, -⟩ := read_of_shows (shows_totalsOf findings)
    obtain ⟨panel, hpanel⟩ := exists_markupPanel (l := l) .rounded "yellow" (some "Summary") ⟨text, htext⟩
    rw [← totals_of_mem htotals] at hpanel
    refine ⟨[] :: panel, ⟨[[[]], panel], ?_, by simp⟩, Or.inr ⟨t, panel, rfl, hpanel, rfl⟩⟩
    exact congrArg (fun block => [Layout.blank, block]) hpanel

/-! ### Pages -/

variable {findings : List Finding} {files : List Path}

lemma mem_sectionsOf {s : Section} (h : s ∈ sectionsOf findings) :
    (∃ f ∈ findings, s.path = pathText f) ∧ ∀ f ∈ s.findings, f ∈ findings := by
  constructor
  · have hpath := ((accounts_of findings []).covered s.path).mp (List.mem_map_of_mem h)
    exact (List.mem_map.mp hpath).imp fun f hf => ⟨hf.1, hf.2.symm⟩
  · intro f hf
    exact (sections_perm findings).mem_iff.mp (List.mem_flatMap.mpr ⟨s, h, hf⟩)

lemma exists_section {f : Finding} (h : f ∈ findings) :
    ∃ s ∈ sectionsOf findings, s.path = pathText f ∧ f ∈ s.findings := by
  obtain ⟨s, hs, hpath⟩ := List.mem_map.mp
    (((accounts_of findings []).covered (pathText f)).mpr (List.mem_map_of_mem h))
  refine ⟨s, hs, hpath, ?_⟩
  rw [((accounts_of findings []).rows s hs).perm.mem_iff, List.mem_filter]
  exact ⟨h, decide_eq_true hpath.symm⟩

lemma sectionsOf_eq_nil_iff : sectionsOf findings = [] ↔ findings = [] := by
  constructor
  · intro h
    refine List.eq_nil_iff_forall_not_mem.mpr fun f hf => ?_
    obtain ⟨s, hs, -⟩ := exists_section hf
    rw [h] at hs
    cases hs
  · rintro rfl
    simp [sectionsOf, paths]

lemma path_mem_of_mem_countsOf {c : FileCount} (h : c ∈ countsOf findings files) : c.path ∈ files :=
  (accounts_of findings files).listed.mem_iff.mp (List.mem_map_of_mem h)

lemma exists_count {p : Path} (h : p ∈ files) : ∃ c ∈ countsOf findings files, c.path = p :=
  List.mem_map.mp ((accounts_of findings files).listed.mem_iff.mpr h)

lemma countsOf_eq_nil_iff : countsOf findings files = [] ↔ files = [] := by
  rw [← List.length_eq_zero_iff, (countsOf_perm findings files).length_eq, List.length_map,
    List.length_eq_zero_iff]

lemma isEmpty_iff : (Report.of findings files).sections = [] ∧ (Report.of findings files).files = [] ↔
    findings = [] ∧ files = [] :=
  and_congr sectionsOf_eq_nil_iff countsOf_eq_nil_iff

lemma page_eq (hwidth : 0 < l.width) (hany : ¬ (findings = [] ∧ files = [])) :
    (Report.of findings files).page ws l = .ofBlocks ((sectionsOf findings).flatMap (sectionBlocks ws l) ++
      (if files = [] then [] else fileBlocks ws l (countsOf findings files)) ++
        (Report.of findings files).totals.toList.flatMap (totalsBlocks l)) := by
  have hfiles : (Report.of findings files).files = [] ↔ files = [] := countsOf_eq_nil_iff
  rw [page, blocks, if_neg (by omega), if_neg (mt isEmpty_iff.mp hany)]
  simp only [hfiles]
  rfl

/-- The page of a legible report shows all of it. -/
theorem showsReport_of_legible (h : Legible ws findings files) (hwidth : 0 < l.width) :
    ShowsReport ws l (Report.of findings files) ((Report.of findings files).page ws l) := by
  by_cases hany : findings = [] ∧ files = []
  · have hnone := isEmpty_iff.mpr hany
    obtain ⟨lines, hlines⟩ : ∃ lines, allClear l = .ok lines := exists_markupPanel _ _ _ readable_allClear
    refine Or.inl ⟨hnone, lines, hlines, ?_⟩
    rw [page, blocks, if_neg (by omega), if_pos hnone, hlines, Page.ofBlocks, Page.ofBlocks, List.append_nil]
  · have hblocks : ∀ s ∈ sectionsOf findings,
        ∃ lines, Printed (sectionBlocks ws l s) lines ∧ ShowsSection ws l s lines := by
      intro s hs
      obtain ⟨⟨f, hf, hpath⟩, hmem⟩ := mem_sectionsOf hs
      obtain ⟨path, hshort, hread⟩ := h.header f hf
      exact printed_sectionBlocks hwidth (hpath ▸ hshort) hread fun g hg => h.message g (hmem g hg)
    obtain ⟨sections, hprinted, hsections⟩ := printed_flatMap hblocks
    obtain ⟨counts, hprinted', hcounts⟩ : ∃ counts,
        Printed (if files = [] then [] else fileBlocks ws l (countsOf findings files)) counts ∧
          ShowsFiles ws l (countsOf findings files) counts := by
      by_cases hfiles : files = []
      · rw [if_pos hfiles]
        exact ⟨[], printed_nil, Or.inl ⟨countsOf_eq_nil_iff.mpr hfiles, rfl⟩⟩
      · rw [if_neg hfiles]
        exact printed_fileBlocks (fun hnil => hfiles (countsOf_eq_nil_iff.mp hnil)) fun c hc =>
          h.file c.path (path_mem_of_mem_countsOf hc)
    obtain ⟨totals, hprinted'', htotals⟩ := exists_totalsBlocks (l := l) findings files
    refine Or.inr ⟨mt isEmpty_iff.mp hany, sections, counts, totals, ?_, hsections, hcounts, htotals⟩
    rw [page_eq hwidth hany, ((hprinted.append hprinted').append hprinted'').ofBlocks]

/-- It does not break off, however wide the terminal is. -/
lemma failure_of_legible (h : Legible ws findings files) :
    ((Report.of findings files).page ws l).failure = none := by
  by_cases hwidth : l.width = 0
  · rw [page, blocks, if_pos hwidth]
    rfl
  · exact (showsReport_of_legible h (by omega)).failure

lemma readable_of_sectionBlocks {s : Section} (hwidth : 10 < l.width)
    (h : ∀ b ∈ sectionBlocks ws l s, ∃ lines, b = .ok lines) :
    (∃ path, shorten ws (.ofString s.path) = .ok path ∧ (Content.markup (tagged "bold cyan" path)).Readable) ∧
      ∀ f ∈ s.findings, (Content.markup f.message).Readable := by
  have hopening {b : Block} (hb : b ∈ [Layout.blank, (do
      let path ← shorten ws (.ofString s.path)
      l.markupPanel Frame.invisible "blue" none (tagged "bold cyan" path)), l.table (findingTable s.findings)]) :
      ∃ lines, b = .ok lines := by
    refine h b ?_
    rw [sectionBlocks, List.append_assoc, List.append_assoc]
    exact List.mem_append_left _ hb
  constructor
  · obtain ⟨lines, hlines⟩ := hopening (List.mem_cons_of_mem _ List.mem_cons_self)
    obtain ⟨path, hshort, hpanel⟩ := bind_eq_ok_iff.mp hlines
    exact ⟨path, hshort, readable_of_markupPanel (by omega) hpanel⟩
  · obtain ⟨lines, hlines⟩ := hopening (List.mem_cons_of_mem _ (List.mem_cons_of_mem _ List.mem_cons_self))
    exact readable_of_findingTable (by omega) hlines

/-- On a terminal that is wide enough a page breaks off if the report is not legible, and only then. -/
theorem failure_page_iff (hwidth : 10 < l.width) :
    ((Report.of findings files).page ws l).failure = none ↔ Legible ws findings files := by
  refine ⟨fun h => ?_, failure_of_legible⟩
  by_cases hany : findings = [] ∧ files = []
  · obtain ⟨rfl, rfl⟩ := hany
    exact ⟨nofun, nofun, nofun⟩
  · rw [page_eq (by omega) hany] at h
    have hall := exists_ok_of_failure h
    have hsection {f : Finding} (hf : f ∈ findings) :
        (∃ path, shorten ws (.ofString (pathText f)) = .ok path ∧
          (Content.markup (tagged "bold cyan" path)).Readable) ∧ (Content.markup f.message).Readable := by
      obtain ⟨s, hs, hpath, hmem⟩ := exists_section hf
      have hblocks : ∀ b ∈ sectionBlocks ws l s, ∃ lines, b = .ok lines := fun b hb =>
        hall b (List.mem_append_left _ (List.mem_append_left _ (List.mem_flatMap.mpr ⟨s, hs, hb⟩)))
      have h := readable_of_sectionBlocks hwidth hblocks
      exact ⟨hpath ▸ h.1, h.2 f hmem⟩
    refine ⟨fun f hf => (hsection hf).1, fun f hf => (hsection hf).2, fun p hp => ?_⟩
    obtain ⟨c, hc, rfl⟩ : ∃ c ∈ countsOf findings files, c.path = p := exists_count hp
    refine readable_of_fileBlocks hwidth (fun b hb => hall b ?_) c hc
    rw [if_neg (List.ne_nil_of_mem hp)]
    exact List.mem_append_left _ (List.mem_append_right _ hb)

end AsyncActions.Report
