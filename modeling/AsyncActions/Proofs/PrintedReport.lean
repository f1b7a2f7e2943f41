import AsyncActions.Proofs.PrintedTables
import AsyncActions.Proofs.ShownReport
import Mathlib.Tactic.IntervalCases

/-!
# Reports in print

What the lines of a page say: below the path of each section a table with a row for each finding, and its
notes; the count of each file; and the totals. Where a terminal has room for all columns, their widths are
known.
-/

namespace AsyncActions.Report

open Terminal Markup

/-- Text without signs of tags or pictures. -/
def Unmarked (text : String) : Prop := '[' ∉ text.toList ∧ ':' ∉ text.toList

instance (text : String) : Decidable (Unmarked text) := inferInstanceAs (Decidable (_ ∧ _))

/-- What the row of a finding says. -/
def rowTexts (f : Finding) : List String :=
  [toString f.location.line, toString f.location.column, Text.upper f.severity, "[" ++ f.ruleId ++ "]", f.message]

/-- What the row of a file says. -/
def countTexts (path : String) (c : FileCount) : List String :=
  [path, if c.count = 0 then "OK" else "FLAGGED", toString c.count]

def snippetText (snippet : String) : String := "  |-- " ++ String.ofList (Text.strip snippet.toList)

def suggestionText (s : Suggestion) : String :=
  let inserted := Text.quoted (String.ofList (Text.strip s.fix.text.toList))
  "  [Suggestion] " ++ s.description ++ s!" (insert {inserted} at {s.fix.line}:{s.fix.column})"

/-- What is said about a finding below the table. -/
def notes (l : Layout) (f : Finding) : List String :=
  (f.location.snippet.filter (· ≠ "")).toList.map snippetText ++
    if l.verbose then f.suggestions.map suggestionText else []

/-- What is said about a rule below the notes. -/
def ruleNotes (ruleId : String) : List String :=
  match remedy? ruleId with
  | some remedy => [s!"  [Fix] [{ruleId}] {remedy}", s!"        see {Rule.docsUrl ruleId}"]
  | none => []

namespace Layout

/-- The lines show a text over the width of the terminal. -/
def PrintsNote (l : Layout) (text : String) (lines : List Line) : Prop :=
  ∃ drawn, PrintsText l.width .fold (visible text) drawn ∧ List.Forall₂ (Cut l.width) drawn lines

/-- The lines show a text in a panel, if that has room for any. -/
def PrintsBox (l : Layout) (frame : Frame) (title : Option String) (text : List Char) (lines : List Line) : Prop :=
  ∃ drawn, (4 < l.width → PrintsText (l.width - 4) .fold text drawn) ∧ PrintsPanel frame title l.width drawn lines

/-- The lines show a row for each finding. Where there is room for all columns, only the width of the messages
is open. -/
def PrintsFindings (l : Layout) (findings : List Finding) (lines : List Line) : Prop := ∃ widths drawn,
  (findingTable findings).widths (l.width - (findingTable findings).frameWidth) = .ok widths ∧
    (58 ≤ l.width → ∃ message, widths = [7, 6, 12, 24, message] ∧ 3 ≤ message ∧ message + 55 ≤ l.width) ∧
    PrintsTable (findingTable findings) widths (findings.map rowTexts) drawn ∧ List.Forall₂ (Cut l.width) drawn lines

/-- The lines show these rows of files in a panel. -/
def PrintsCounts (l : Layout) (rows : List (List Content)) (texts : List (List String)) (lines : List Line) : Prop :=
  ∃ widths drawn, (fileTable rows).widths (l.width - 4 - (fileTable rows).frameWidth) = .ok widths ∧
    (33 ≤ l.width → ∃ file, widths = [file, 12, 10] ∧ 3 ≤ file ∧ file + 30 ≤ l.width) ∧
    PrintsTable (fileTable rows) widths texts drawn ∧ PrintsPanel .rounded none l.width drawn lines

end Layout

/-- The number is shown without losses in a column of that width, if it has no more digits. -/
def FitsDigits (width n : Nat) : Prop := n < 10 ^ width → Fits width .ellipsis (visible (toString n))

/-- The lines show a section. A backslash at the end of its path would make text of the tag that follows. -/
def PrintsSection (ws : Workspace) (l : Layout) (s : Section) (lines : List Line) : Prop :=
  ∃ path text header table below remedies, shorten ws (.ofString s.path) = .ok path ∧
    (path.toList.getLast? ≠ some '\\' → 4 < l.width → text = visible path) ∧
    l.PrintsBox .invisible none text header ∧ l.PrintsFindings s.findings table ∧
    (∀ f ∈ s.findings, FitsDigits 5 f.location.line.val ∧ FitsDigits 4 f.location.column.val) ∧
    List.Forall₂ l.PrintsNote (s.findings.flatMap (notes l)) below ∧
    List.Forall₂ l.PrintsNote ((s.findings.map (·.ruleId)).eraseDups.flatMap ruleNotes) remedies ∧
    lines = [] :: header ++ table ++ below.flatten ++ [] :: if l.verbose then remedies.flatten ++ [[]] else []

/-- The lines show a row for each file in a panel, or nothing if there are no files. -/
def PrintsFiles (ws : Workspace) (l : Layout) (files : List FileCount) (lines : List Line) : Prop :=
  files = [] ∧ lines = [] ∨ files ≠ [] ∧ ∃ paths rows panel,
    List.Forall₂ (fun c path => shorten ws c.path = .ok path) files paths ∧
    List.Forall₂ (fun c row => fileRow ws c = .ok row) files rows ∧
    (4 < l.width → l.PrintsCounts rows (List.zipWith countTexts paths files) panel) ∧
    (∀ c ∈ files, FitsDigits 8 c.count) ∧ lines = [] :: panel

/-- The lines show the totals in a panel, if there are any. They can be shown without losses. -/
def PrintsTotals (l : Layout) (totals : Option Totals) (lines : List Line) : Prop :=
  totals = none ∧ lines = [] ∨ ∃ t panel, totals = some t ∧
    l.PrintsBox .rounded (some "Summary") (visible (totalsText t)) panel ∧
    Fits (l.width - 4) .fold (visible (totalsText t)) ∧ lines = [] :: panel

/-- The lines of the page show the report as a whole. -/
def PrintsReport (ws : Workspace) (l : Layout) (r : Report) (p : Page) : Prop :=
  (r.sections = [] ∧ r.files = []) ∧ (∃ lines, p = ⟨lines, none⟩ ∧
      l.PrintsBox .rounded (some "actionscan") (visible "No issues found.") lines) ∨
  ¬ (r.sections = [] ∧ r.files = []) ∧ ∃ sections counts totals,
    p = ⟨sections.flatten ++ counts ++ totals, none⟩ ∧
    List.Forall₂ (PrintsSection ws l) r.sections sections ∧ PrintsFiles ws l r.files counts ∧
    PrintsTotals l r.totals totals

section

variable {findings : List Finding} {rows : List (List Content)} {room : Nat} {widths : List Nat}

/-- A head is as long as it looks. -/
lemma longest_head {head : String} (hliteral : '[' ∉ head.toList ∧ ':' ∉ head.toList)
    (h : 0 < ((Text.lines (shown head.toList)).map cells).foldl max 0) {t : Styled}
    (ht : (Content.markup head).read = .ok t) : 0 < t.longest := by
  obtain ⟨t', ht', hchars⟩ := Markup.read_of_shows (.literal (Markup.literal_of_not_mem hliteral.1 hliteral.2))
  obtain rfl : t' = t := Except.ok.inj (ht'.symm.trans ht)
  rw [Styled.longest, hchars]
  exact h

lemma widths_findingTable (h : (findingTable findings).widths room = .ok widths) (hroom : 52 ≤ room) :
    ∃ message, widths = [7, 6, 12, 24, message] ∧ 3 ≤ message ∧ message + 49 ≤ room := by
  have hcolumns : (findingTable findings).columns =
      (findingTable findings).columns.take 4 ++ column "Message" .left "white" none :: [] := rfl
  obtain ⟨message, hle, rfl, hsum⟩ := Table.widths_of_free h hcolumns rfl
    (fun t ht => longest_head (by decide) (by decide +kernel) ht) (by simp [findingTable, column]) nofun hroom
  refine ⟨message, rfl, hle, ?_⟩
  change 7 + (6 + (12 + (24 + (message + 0)))) ≤ room at hsum
  omega

lemma widths_fileTable (h : (fileTable rows).widths room = .ok widths) (hroom : 25 ≤ room) :
    ∃ file, widths = [file, 12, 10] ∧ 3 ≤ file ∧ file + 22 ≤ room := by
  have hcolumns : (fileTable rows).columns =
      [] ++ column "File" .left "white" none :: (fileTable rows).columns.drop 1 := rfl
  obtain ⟨file, hle, rfl, hsum⟩ := Table.widths_of_free h hcolumns rfl
    (fun t ht => longest_head (by decide) (by decide +kernel) ht) nofun (by simp [fileTable, column]) hroom
  refine ⟨file, rfl, hle, ?_⟩
  change file + (12 + (10 + 0)) ≤ room at hsum
  omega

end

variable {ws : Workspace} {l : Layout}

lemma printsNotes_textLines {styled : List Styled} {texts : List String}
    (h : styled.map Styled.chars = texts.map visible) (hwidth : 0 < l.width) :
    ∃ parts, styled.flatMap l.textLines = parts.flatten ∧ List.Forall₂ l.PrintsNote texts parts := by
  refine ⟨styled.map l.textLines, List.flatMap_def .., List.forall₂_map_right_iff.mpr ?_⟩
  have hchars : List.Forall₂ (fun t text => t.chars = visible text) styled texts := by
    rw [← List.forall₂_eq_eq_eq, List.forall₂_map_left_iff, List.forall₂_map_right_iff] at h
    exact h
  refine hchars.flip.imp fun text t ht => ⟨t.render l.width .loose .fold, ?_, forall₂_cut _ _⟩
  exact ht ▸ t.printsText_render hwidth

lemma chars_snippetLine (snippet : String) : (snippetLine snippet).chars = visible (snippetText snippet) := by
  rw [← shown_toList]
  simp only [snippetLine, snippetText, Styled.concat, List.foldl, Styled.append, Styled.empty, Styled.ofText, dim,
    shown, String.toList_append, String.toList_ofList, List.filter_append, List.nil_append]

lemma chars_suggestionLine (s : Suggestion) : (suggestionLine s).chars = visible (suggestionText s) := by
  rw [← shown_toList]
  simp only [suggestionLine, suggestionText, Styled.concat, List.foldl, Styled.append, Styled.empty, Styled.ofText,
    dim, shown, String.toList_append, List.filter_append, List.nil_append]

lemma map_chars_noteTexts (f : Finding) : (noteTexts l f).map Styled.chars = (notes l f).map visible := by
  have hsnippet : Styled.chars ∘ snippetLine = visible ∘ snippetText := funext chars_snippetLine
  have hsuggestion : Styled.chars ∘ suggestionLine = visible ∘ suggestionText := funext chars_suggestionLine
  unfold noteTexts notes
  rw [List.map_append, List.map_append, List.map_map, List.map_map, hsnippet]
  split
  · rw [List.map_map, List.map_map, hsuggestion]
  · rfl

lemma map_chars_remedyTexts (ruleId : String) :
    (remedyTexts ruleId).map Styled.chars = (ruleNotes ruleId).map visible := by
  unfold remedyTexts ruleNotes
  cases remedy? ruleId with
  | none => rfl
  | some remedy =>
    simp only [List.map_cons, List.map_nil, ← shown_toList]
    rfl

/-- What is in a panel is what its markup reads. -/
lemma exists_printsBox {frame : Frame} {style markup : String} {title : Option String} {lines : List Line}
    (hframe : frame.Thin) (h : l.markupPanel frame style title markup = .ok lines) :
    ∃ text, (4 < l.width → ∃ t, (Content.markup markup).read = .ok t ∧ t.chars = text) ∧
      l.PrintsBox frame title text lines := by
  have hpanel (t : Styled) :=
    printsPanel_cut hframe (.named style) title l.width fun width => t.render width .loose .fold
  unfold Layout.markupPanel at h
  split at h
  · next hnarrow =>
    obtain rfl := Except.ok.inj h
    exact ⟨[], fun hwide => absurd hnarrow (by omega), _, fun hwide => absurd hnarrow (by omega), hpanel .empty⟩
  · next hwide =>
    obtain ⟨t, ht, h⟩ := bind_eq_ok_iff.mp h
    obtain rfl := Except.ok.inj h
    exact ⟨t.chars, fun _ => ⟨t, mapError_eq_ok_iff.mp ht, rfl⟩, t.render (l.width - 4) .loose .fold,
      fun _ => t.printsText_render (by omega), hpanel t⟩

lemma printsBox_of_says {frame : Frame} {style markup text : String} {title : Option String} {lines : List Line}
    (hframe : frame.Thin) (h : l.markupPanel frame style title markup = .ok lines)
    (hsaid : (Content.markup markup).Says text.toList) : l.PrintsBox frame title (visible text) lines := by
  obtain ⟨chars, hchars, drawn, hdrawn, hpanel⟩ := exists_printsBox hframe h
  refine ⟨drawn, fun hwidth => ?_, hpanel⟩
  obtain ⟨t, ht, rfl⟩ := hchars hwidth
  obtain ⟨t', ht', hshown⟩ := hsaid
  obtain rfl := Except.ok.inj (ht.symm.trans ht')
  rw [← shown_toList, ← hshown]
  exact hdrawn hwidth

lemma Unmarked.literal {text : String} (h : Unmarked text) : Literal text.toList := literal_of_not_mem h.1 h.2

lemma Unmarked.verbatim {text : String} (h : Unmarked text) : (Content.markup text).Says text.toList :=
  read_of_shows (.literal h.literal)

lemma unmarked_toString (n : Nat) : Unmarked (toString n) := ⟨(tame_toString n).1, (tame_toString n).2.1⟩

lemma says_ofText (text : String) (style : Style) : (Content.styled (.ofText text style)).Says text.toList :=
  ⟨_, rfl, rfl⟩

lemma Tame.narrow {cs : List Char} (h : Tame cs) : Narrow cs :=
  fun c hc => cellWidth_of_isPlain (List.all_eq_true.mp h.2.2.2 c hc)

lemma isSpace_of_isDigit {c : Char} (h : c.isDigit = true) : Text.isSpace c = false := by
  simp only [Char.isDigit, Bool.and_eq_true, decide_eq_true_iff, UInt32.le_iff_toNat_le] at h
  change 48 ≤ c.toNat ∧ c.toNat ≤ 57 at h
  obtain ⟨hlow, hhigh⟩ := h
  rw [← Char.ofNat_toNat c]
  interval_cases c.toNat <;> decide

lemma fitsDigits {width : Nat} (hwidth : 0 < width) (n : Nat) : FitsDigits width n := by
  intro h
  have hdigit : ∀ c ∈ visible (toString n), c.isDigit = true :=
    fun c hc => isDigit_of_mem_toString (List.mem_of_mem_filter hc)
  have hlength : (visible (toString n)).length ≤ width := by
    refine (List.length_filter_le _ _).trans ?_
    rw [Nat.toString_eq_repr, String.length_toList]
    exact (Nat.length_repr_le_iff hwidth).mpr h
  refine ⟨fun c hc => (tame_toString n).narrow c (List.mem_of_mem_filter hc),
    fun _ => ⟨?_, fun run hrun _ => hrun.length_le.trans hlength⟩⟩
  rw [Option.all_eq_true]
  intro c hc
  rw [isSpace_of_isDigit (hdigit c (List.mem_of_mem_head? hc))]
  rfl

/-! ### Tables -/

section

variable {findings : List Finding} {lines : List Line}

lemma saysAll_findingRow {f : Finding} (h : Unmarked f.message) : SaysAll (findingRow f) (rowTexts f) :=
  .cons (unmarked_toString _).verbatim <| .cons (unmarked_toString _).verbatim <| .cons (says_ofText _ _) <|
    .cons (says_ofText _ _) <| .cons h.verbatim .nil

lemma printsFindings_of_drawsTable (hmessages : ∀ f ∈ findings, Unmarked f.message)
    (h : l.DrawsTable (findingTable findings) lines) : l.PrintsFindings findings lines := by
  obtain ⟨drawn, hdrawn, rfl⟩ := h
  have hheads : ∀ c ∈ (findingTable findings).columns, Unmarked c.head := by
    simp only [findingTable, column, List.forall_mem_cons]
    decide
  have hrows : List.Forall₂ (fun cells texts => SaysAll cells texts ∧
      (findingTable findings).columns.length = cells.length) (findings.map findingRow) (findings.map rowTexts) :=
    List.forall₂_map_left_iff.mpr (List.forall₂_map_right_iff.mpr (List.forall₂_same.mpr fun f hf =>
      ⟨saysAll_findingRow (hmessages f hf), rfl⟩))
  obtain ⟨widths, hwidths, hprints⟩ :=
    printsTable_of_draws hdrawn Frame.thin_simple (fun c hc => (hheads c hc).verbatim) hrows
  refine ⟨widths, drawn, hwidths, fun hwide => ?_, hprints, forall₂_cut _ _⟩
  have hframe : (findingTable findings).frameWidth = 6 := rfl
  obtain ⟨message, hcolumns, hle, hsum⟩ := widths_findingTable hwidths (by omega)
  exact ⟨message, hcolumns, hle, by omega⟩

lemma saysAll_fileRow {c : FileCount} {path : String} {row : List Content} (hshort : shorten ws c.path = .ok path)
    (hpath : Unmarked path) (hrow : fileRow ws c = .ok row) :
    SaysAll row (countTexts path c) ∧ 3 = row.length := by
  obtain ⟨path', hshort', hrow⟩ := bind_eq_ok_iff.mp hrow
  obtain rfl := Except.ok.inj (hshort.symm.trans hshort')
  obtain rfl := Except.ok.inj hrow
  have hstatus : (Content.styled (if c.count = 0 then .ofText "OK" (.named "bold green")
      else .ofText "FLAGGED" (.named "bold red"))).Says (if c.count = 0 then "OK" else "FLAGGED").toList := by
    split
    · exact says_ofText _ _
    · exact says_ofText _ _
  exact ⟨.cons hpath.verbatim (.cons hstatus (.cons (unmarked_toString _).verbatim .nil)), rfl⟩

lemma saysAll_countTexts {files : List FileCount} {paths : List String} {rows : List (List Content)}
    (hpaths : List.Forall₂ (fun c path => shorten ws c.path = .ok path ∧ Unmarked path) files paths)
    (hrows : List.Forall₂ (fun c row => fileRow ws c = .ok row) files rows) :
    List.Forall₂ (fun row texts => SaysAll row texts ∧ 3 = row.length) rows (List.zipWith countTexts paths files) := by
  induction hpaths generalizing rows with
  | nil =>
    cases hrows
    exact .nil
  | cons hpath _ ih =>
    cases hrows with
    | cons hrow hrows => exact .cons (saysAll_fileRow hpath.1 hpath.2 hrow) (ih hrows)

lemma printsCounts_of_drawsPanel {rows : List (List Content)} {texts : List (List String)}
    (hrows : List.Forall₂ (fun row texts => SaysAll row texts ∧ 3 = row.length) rows texts)
    (h : l.DrawsPanel "cyan" (fileTable rows) lines) : l.PrintsCounts rows texts lines := by
  obtain ⟨drawn, hdrawn, rfl⟩ := h
  have hheads : ∀ c ∈ (fileTable rows).columns, Unmarked c.head := by
    simp only [fileTable, column, List.forall_mem_cons]
    decide
  obtain ⟨widths, hwidths, hprints⟩ :=
    printsTable_of_draws hdrawn Frame.thin_rounded (fun c hc => (hheads c hc).verbatim) hrows
  refine ⟨widths, drawn, hwidths, fun hwide => ?_, hprints, printsPanel_cut Frame.thin_rounded _ _ _ fun _ => drawn⟩
  have hframe : (fileTable rows).frameWidth = 4 := rfl
  obtain ⟨file, hcolumns, hle, hsum⟩ := widths_fileTable hwidths (by omega)
  exact ⟨file, hcolumns, hle, by omega⟩

end

/-! ### Parts of a report -/

section

variable {lines : List Line}

lemma ShowsSection.prints {s : Section} (h : ShowsSection ws l s lines) (hwidth : 0 < l.width)
    (hpath : ∀ path, shorten ws (.ofString s.path) = .ok path → Unmarked path)
    (hmessages : ∀ f ∈ s.findings, Unmarked f.message) : PrintsSection ws l s lines := by
  obtain ⟨path, header, table, hshort, hheader, htable, rfl⟩ := h
  obtain ⟨text, htext, hbox⟩ := exists_printsBox Frame.thin_invisible hheader
  have hnoteTexts :
      (s.findings.flatMap (noteTexts l)).map Styled.chars = (s.findings.flatMap (notes l)).map visible := by
    rw [List.map_flatMap, List.map_flatMap]
    exact List.flatMap_congr fun f _ => map_chars_noteTexts f
  have hremedyTexts (ruleIds : List String) :
      (ruleIds.flatMap remedyTexts).map Styled.chars = (ruleIds.flatMap ruleNotes).map visible := by
    rw [List.map_flatMap, List.map_flatMap]
    exact List.flatMap_congr fun ruleId _ => map_chars_remedyTexts ruleId
  obtain ⟨below, hbelow, hnotes⟩ := printsNotes_textLines hnoteTexts hwidth
  obtain ⟨remedies, hremedies, hruleNotes⟩ :=
    printsNotes_textLines (hremedyTexts (s.findings.map (·.ruleId)).eraseDups) hwidth
  refine ⟨path, text, header, table, below, remedies, hshort, fun hslash hwide => ?_, hbox,
    printsFindings_of_drawsTable hmessages htable,
    fun f _ => ⟨fitsDigits (by decide) _, fitsDigits (by decide) _⟩, hnotes, hruleNotes, ?_⟩
  · obtain ⟨t, ht, rfl⟩ := htext hwide
    obtain ⟨t', ht', hshown⟩ := read_of_shows
      (shows_tagged isStyle_header (by decide) (.literal (hpath path hshort).literal) hslash)
    obtain rfl := Except.ok.inj (ht.symm.trans ht')
    rw [hshown, shown_toList]
  · rw [hbelow, closingLines, hremedies]

lemma ShowsFiles.prints {files : List FileCount} (h : ShowsFiles ws l files lines)
    (hpaths : ∀ c ∈ files, ∃ path, shorten ws c.path = .ok path ∧ Unmarked path) : PrintsFiles ws l files lines := by
  rcases h with hnone | ⟨hne, rows, table, hrows, htable, rfl⟩
  · exact Or.inl hnone
  · obtain ⟨paths, hshort⟩ := exists_mapM fun c hc => (hpaths c hc).imp fun _ => And.left
    rw [mapM_eq_ok_iff] at hshort
    have hunmarked : List.Forall₂ (fun c path => shorten ws c.path = .ok path ∧ Unmarked path) files paths := by
      refine List.forall₂_iff_zip.mpr ⟨hshort.length_eq, fun {c path} hmem => ?_⟩
      have hc := List.forall₂_zip hshort hmem
      obtain ⟨path', hpath', hplain⟩ := hpaths c (List.of_mem_zip hmem).1
      obtain rfl := Except.ok.inj (hc.symm.trans hpath')
      exact ⟨hc, hplain⟩
    exact Or.inr ⟨hne, paths, rows, table, hshort, hrows, fun hwide =>
      printsCounts_of_drawsPanel (saysAll_countTexts hunmarked hrows) (htable hwide),
      fun c _ => fitsDigits (by decide) c.count, rfl⟩

/-- The totals are ordinary text. -/
lemma narrow_totalsText (findings : List Finding) : Narrow (visible (totalsText (totalsOf findings))) := by
  have hsep : Tame " | ".toList := by decide
  have hintercalate (parts : List (List Char)) (h : ∀ part ∈ parts, Narrow part) :
      Narrow (" | ".toList.intercalate parts) := by
    induction parts with
    | nil => nofun
    | cons part parts ih =>
      obtain ⟨hpart, hparts⟩ := List.forall_mem_cons.mp h
      cases parts with
      | nil => simpa using hpart
      | cons next parts =>
        rw [List.intercalate_cons_cons]
        exact List.forall_mem_append.mpr ⟨List.forall_mem_append.mpr ⟨hpart, hsep.narrow⟩, ih hparts⟩
  have htext : Narrow (totalsText (totalsOf findings)).toList := by
    rw [totalsText_eq, String.toList_intercalate, List.map_map]
    refine hintercalate _ (List.forall_mem_map.mpr fun piece hpiece => ?_)
    obtain ⟨body, close, -, -, htame, -⟩ := isPiece_of_mem (tame_of_mem_totalsOf findings) piece hpiece
    exact htame.narrow
  exact htext.of_subset fun c hc => List.mem_of_mem_filter hc

lemma ShowsTotals.prints {findings : List Finding} {files : List Path}
    (h : ShowsTotals l (Report.of findings files).totals lines) :
    PrintsTotals l (Report.of findings files).totals lines := by
  rcases h with hnone | ⟨t, panel, ht, hpanel, rfl⟩
  · exact Or.inl hnone
  · obtain rfl := totals_of_mem ht
    refine Or.inr ⟨_, panel, ht, ?_, ⟨narrow_totalsText findings, nofun⟩, rfl⟩
    exact printsBox_of_says Frame.thin_rounded hpanel (read_of_shows (shows_totalsOf findings))

end

/-- What is shown of a report without signs of markup is in print. -/
lemma ShowsReport.prints {findings : List Finding} {files : List Path} {p : Page}
    (h : ShowsReport ws l (Report.of findings files) p) (hwidth : 0 < l.width)
    (hpaths : ∀ f ∈ findings, ∀ path, shorten ws (.ofString (pathText f)) = .ok path → Unmarked path)
    (hmessages : ∀ f ∈ findings, Unmarked f.message)
    (hfiles : ∀ p ∈ files, ∃ path, shorten ws p = .ok path ∧ Unmarked path) :
    PrintsReport ws l (Report.of findings files) p := by
  rcases h with ⟨hempty, lines, hlines, rfl⟩ | ⟨hany, sections, counts, totals, rfl, hsections, hcounts, htotals⟩
  · refine Or.inl ⟨hempty, lines, rfl, printsBox_of_says Frame.thin_rounded hlines ?_⟩
    have htext : Literal "No issues found.".toList := literal_of_not_mem (by decide) (by decide)
    exact read_of_shows (shows_tagged isStyle_green (by decide) (.literal htext) (by decide))
  · refine Or.inr ⟨hany, sections, counts, totals, rfl, ?_, hcounts.prints fun c hc => ?_, htotals.prints⟩
    · refine List.forall₂_iff_zip.mpr ⟨hsections.length_eq, fun {s lines} hmem => ?_⟩
      obtain ⟨⟨f, hf, hpath⟩, hall⟩ := mem_sectionsOf (List.of_mem_zip hmem).1
      exact (List.forall₂_zip hsections hmem).prints hwidth (hpath ▸ hpaths f hf) fun g hg => hmessages g (hall g hg)
    · exact hfiles c.path (path_mem_of_mem_countsOf hc)

end AsyncActions.Report
