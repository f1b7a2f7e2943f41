import AsyncActions.Proofs.FullReport

/-!
# Paths and messages as markup

A page reads its paths and messages as markup. Each says what its markup shows, which is what is written
only where there is no tag, and a tag that closes no style breaks the page off. Handlers and shades are set
aside: whether they mean something depends on values that are looked into only when they are shown.
-/

namespace AsyncActions.Report

open Terminal Markup

/-- Text without signs of a handler or of a shade. -/
def Settled (text : String) : Prop :=
  ¬ "[@".toList <:+: text.toList ∧ ¬ "rgb(".toList <:+: (Text.lower text).toList

instance (text : String) : Decidable (Settled text) := inferInstanceAs (Decidable (_ ∧ _))

/-- All that a report reads as markup has no such signs. -/
structure SettledReport (ws : Workspace) (findings : List Finding) (files : List Path) : Prop where
  header : ∀ f ∈ findings, ∀ path, shorten ws (.ofString (pathText f)) = .ok path → Settled path
  message : ∀ f ∈ findings, Settled f.message
  file : ∀ p ∈ files, ∀ path, shorten ws p = .ok path → Settled path

/-- The cell says what the markup shows, which is the markup itself just if there is no tag in it. -/
def ReadsMarkup (cell : Content) (markup : String) : Prop :=
  Settled markup → ∀ text, Markup.Shows [] markup.toList text →
    cell.Says text ∧ (text = markup.toList ↔ ¬ HasTag markup.toList)

section

variable {markup : String}

lemma readsMarkup_markup : ReadsMarkup (.markup markup) markup :=
  fun _ _ h => ⟨read_of_shows h, h.eq_self_iff⟩

lemma not_readable_of_strays (h : Strays [] markup.toList) : ¬ (Content.markup markup).Readable := by
  rintro ⟨t, ht⟩
  obtain ⟨e, he⟩ := read_of_strays h
  cases he.symm.trans ht

/-- The tags of a header around a path do not show. -/
lemma readsMarkup_header (hslash : markup.toList.getLast? ≠ some '\\') :
    ReadsMarkup (.markup (tagged "bold cyan" markup)) markup :=
  fun _ _ h => ⟨read_of_shows (shows_tagged isStyle_header (by decide) h hslash), h.eq_self_iff⟩

end

/-- A page breaks off if there is markup in it that cannot be read, and only then. Where all can be
read, it shows the paths and messages as their markup. -/
theorem page_reads_markup (ws : Workspace) (l : Layout) (findings : List Finding) (files : List Path) :
    (SettledReport ws findings files → 10 < l.width →
      (((Report.of findings files).page ws l).failure = none ↔ Legible ws findings files)) ∧
    (SettledReport ws findings files → 0 < l.width → Legible ws findings files →
      ShowsReport ws l (Report.of findings files) ((Report.of findings files).page ws l)) ∧
    (∀ markup : String, Settled markup → Strays [] markup.toList → ¬ (Content.markup markup).Readable) ∧
    (∀ f : Finding, ∃ cell, (findingRow f)[4]? = some cell ∧ ReadsMarkup cell f.message) ∧
    (∀ c path, shorten ws c.path = .ok path →
      ∃ row cell, fileRow ws c = .ok row ∧ row[0]? = some cell ∧ ReadsMarkup cell path) ∧
    (∀ path : String, path.toList.getLast? ≠ some '\\' →
      ReadsMarkup (.markup (tagged "bold cyan" path)) path) := by
  refine ⟨fun _ => failure_page_iff, fun _ hwidth h => showsReport_of_legible h hwidth,
    fun _ _ => not_readable_of_strays, fun f => ?_, fun c path h => ?_, fun path => readsMarkup_header⟩
  · exact ⟨_, rfl, readsMarkup_markup⟩
  · have hrow : fileRow ws c = .ok _ := bind_eq_ok_iff.mpr ⟨path, h, rfl⟩
    exact ⟨_, _, hrow, rfl, readsMarkup_markup⟩

/-! ### A directory in brackets -/

/-- A page of a site that is named after a part of its address. -/
def slugPath : Path := ⟨.relative, ["app", "[slug]", "page.tsx"]⟩

lemma resolve_slugPath : emptyWorkspace.resolve slugPath = .ok ⟨.absolute, "w" :: slugPath.parts⟩ :=
  Workspace.resolve_of_direct_absolute (Workspace.direct_of_linkless nofun rfl (by decide))

lemma shorten_slugPath : shorten emptyWorkspace slugPath = .ok "app/[slug]/page.tsx" := by
  rw [shorten, Workspace.shorten, resolve_slugPath]
  decide +kernel

lemma shows_slugPath : Markup.Shows [] "app/[slug]/page.tsx".toList "app//page.tsx".toList := by
  have hbefore : Literal "app/".toList := literal_of_not_mem (by decide) (by decide)
  have hafter : Literal "/page.tsx".toList := literal_of_not_mem (by decide) (by decide)
  have hbody : IsStyle "slug".toList := by decide +kernel
  exact .enter hbefore (by decide) hbody.isTagBody hbody.head?_ne hbody.sound (.literal hafter)

lemma strays_message : Strays [] "see [/a]".toList := by
  have hcloses : Closes "a".toList "a".toList := by decide
  have hbefore : Literal "see ".toList := literal_of_not_mem (by decide) (by decide)
  refine .here hbefore (by decide) (hcloses.isTagBody (by decide +kernel)) ?_
  rintro opened' (⟨-, last, hlast⟩ | ⟨-, style, -, hmem, -⟩)
  · cases hlast
  · cases hmem

/-- The directory is missing wherever the path is shown, and a message that closes a style breaks the page
off. -/
theorem page_slugPath :
    Settled "app/[slug]/page.tsx" ∧ Settled "see [/a]" ∧
    shorten emptyWorkspace (.ofString slugPath.text) = .ok "app/[slug]/page.tsx" ∧
    (Content.markup (tagged "bold cyan" "app/[slug]/page.tsx")).Says "app//page.tsx".toList ∧
    (fileRow emptyWorkspace ⟨slugPath, 0⟩).map (·[0]?) = .ok (some (.markup "app/[slug]/page.tsx")) ∧
    (Content.markup "app/[slug]/page.tsx").Says "app//page.tsx".toList ∧
    ¬ (Content.markup "app/[slug]/page.tsx").Says "app/[slug]/page.tsx".toList ∧
    ((Report.of [findingAt slugPath "see [/a]" defaultSeverity] []).page emptyWorkspace ⟨80, false⟩).failure ≠ none := by
  have hwritten : Path.ofString slugPath.text = slugPath := by decide +kernel
  have hsaid : (Content.markup "app/[slug]/page.tsx").Says "app//page.tsx".toList :=
    read_of_shows shows_slugPath
  refine ⟨by decide +kernel, by decide +kernel, hwritten ▸ shorten_slugPath, ?_, ?_, hsaid, ?_, ?_⟩
  · exact read_of_shows (shows_tagged isStyle_header (by decide) shows_slugPath (by decide))
  · rw [fileRow, shorten_slugPath]
    rfl
  · rintro ⟨t, ht, hchars⟩
    obtain ⟨t', ht', hchars'⟩ := hsaid
    cases ht.symm.trans ht'
    exact absurd (hchars.symm.trans hchars') (by decide)
  · intro hnone
    have hlegible := (failure_page_iff (by decide : 10 < (⟨80, false⟩ : Layout).width)).mp hnone
    exact not_readable_of_strays strays_message (hlegible.message _ List.mem_cons_self)

end AsyncActions.Report
