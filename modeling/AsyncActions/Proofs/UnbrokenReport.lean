import AsyncActions.Proofs.CollectedFiles
import AsyncActions.Proofs.ShownReport

/-!
# Reports that do not break off

A report reads paths and messages as markup and looks paths up. If no name of a path and no message has
an opening bracket, and if no path runs through links, each block of the report can be shown.
-/

namespace AsyncActions

/-! ### Paths as text -/

namespace Path

/-- No name of the path has an opening bracket. -/
def Plain (p : Path) : Prop := ∀ name ∈ p.parts, '[' ∉ name.toList

lemma mem_intercalate_iff {c : Char} {sep : List Char} {parts : List (List Char)} (hsep : c ∉ sep) :
    c ∈ sep.intercalate parts ↔ ∃ part ∈ parts, c ∈ part := by
  induction parts with
  | nil => simp
  | cons part parts ih =>
    cases parts with
    | nil => simp
    | cons next parts => simp [List.intercalate_cons_cons, ih, hsep]

/-- Of the signs that do not part names, those of the names are in the text of a path. -/
lemma mem_text_iff {p : Path} {c : Char} (hslash : c ≠ '/') (hpoint : c ≠ '.') :
    c ∈ p.text.toList ↔ ∃ name ∈ p.parts, c ∈ name.toList := by
  unfold text
  split
  · next hempty => simp [hempty.2, hpoint]
  · have hroot : c ∉ p.root.text.toList := by cases p.root <;> simp [PathRoot.text, hslash]
    rw [String.toList_append, String.toList_intercalate, List.mem_append, or_iff_right hroot,
      mem_intercalate_iff (by simpa using hslash)]
    simp

lemma Plain.not_mem_text {p : Path} (h : p.Plain) : '[' ∉ p.text.toList := by
  rw [mem_text_iff (by decide) (by decide)]
  exact fun ⟨name, hname, hmem⟩ => h name hname hmem

lemma pieces_of_not_mem {cs : List Char} (h : '/' ∉ cs) : pieces cs = [cs] := by
  induction cs with
  | nil => rfl
  | cons c cs ih =>
    have hc : c ≠ '/' := fun he => h (he ▸ List.mem_cons_self)
    rw [pieces, if_neg hc, ih fun hmem => h (List.mem_cons_of_mem _ hmem)]

lemma pieces_append {cs : List Char} (h : '/' ∉ cs) (rest : List Char) :
    pieces (cs ++ '/' :: rest) = cs :: pieces rest := by
  induction cs with
  | nil => rw [List.nil_append, pieces, if_pos rfl]
  | cons c cs ih =>
    have hc : c ≠ '/' := fun he => h (he ▸ List.mem_cons_self)
    rw [List.cons_append, pieces, if_neg hc, ih fun hmem => h (List.mem_cons_of_mem _ hmem)]

lemma pieces_intercalate {names : List (List Char)} (hne : names ≠ []) (h : ∀ cs ∈ names, '/' ∉ cs) :
    pieces (['/'].intercalate names) = names := by
  induction names with
  | nil => exact absurd rfl hne
  | cons cs names ih =>
    have hcs := h cs List.mem_cons_self
    cases names with
    | nil =>
      rw [List.intercalate_singleton]
      exact pieces_of_not_mem hcs
    | cons next names =>
      rw [List.intercalate_cons_cons, List.append_assoc, List.singleton_append, pieces_append hcs,
        ih (List.cons_ne_nil _ _) fun cs hmem => h cs (List.mem_cons_of_mem _ hmem)]

lemma IsName.isStep {name : String} (h : IsName name) : isStep name.toList = true := by
  obtain ⟨hempty, hpoint, -, -⟩ := h
  have hne : name.toList ≠ [] := fun he => hempty (String.toList_injective he)
  have hne' : name.toList ≠ ['.'] := fun he => hpoint (String.toList_injective he)
  simp [Path.isStep, hne, hne']

/-- A path from the root starts with one slash. -/
lemma takeWhile_slash {parts : List String} (h : ∀ name ∈ parts, IsName name) :
    ('/' :: ['/'].intercalate (parts.map String.toList)).takeWhile (· = '/') = ['/'] := by
  rw [List.takeWhile_cons_of_pos (by simp), List.cons_inj_right]
  cases parts with
  | nil => rfl
  | cons name parts =>
    obtain ⟨hempty, -, -, hslash⟩ := h name List.mem_cons_self
    cases hcs : name.toList with
    | nil => exact absurd (String.toList_injective hcs) hempty
    | cons c cs =>
      have hc : c ≠ '/' := fun he => hslash (hcs ▸ he ▸ List.mem_cons_self)
      cases parts with
      | nil => simp [hcs, hc]
      | cons next parts =>
        rw [List.map_cons, List.map_cons, List.intercalate_cons_cons, hcs]
        simp [hc]

/-- An absolute path whose names are names is read again as it is written. -/
lemma ofString_text {p : Path} (hroot : p.root = .absolute) (h : ∀ name ∈ p.parts, IsName name) :
    ofString p.text = p := by
  obtain ⟨root, parts⟩ := p
  subst hroot
  have htext : (Path.mk .absolute parts).text.toList =
      '/' :: ['/'].intercalate (parts.map String.toList) := by
    have hslash : "/".toList = ['/'] := by decide
    rw [text, if_neg (by simp), String.toList_append, String.toList_intercalate, PathRoot.text, hslash,
      List.singleton_append]
  have hsteps : (pieces ('/' :: ['/'].intercalate (parts.map String.toList))).filter isStep =
      parts.map String.toList := by
    rw [pieces, if_pos rfl, List.filter_cons_of_neg (by decide)]
    by_cases hparts : parts = []
    · rw [hparts]
      rfl
    · rw [pieces_intercalate (by simpa using hparts)
        (List.forall_mem_map.mpr fun name hname => (h name hname).2.2.2)]
      exact List.filter_eq_self.mpr (List.forall_mem_map.mpr fun name hname => (h name hname).isStep)
  have hback : (parts.map String.toList).map String.ofList = parts := by
    rw [List.map_map]
    exact List.map_id'' (fun name => String.ofList_toList) parts
  unfold ofString
  simp only [htext, takeWhile_slash h, hsteps, hback, List.length_singleton]

end Path

/-! ### Reports -/

namespace Report

open Terminal Markup

variable {ws : Workspace} {l : Layout}

/-- A path that a report can show. -/
structure Presentable (ws : Workspace) (p : Path) : Prop where
  written : Path.ofString p.text = p
  direct : ws.Direct p
  plain : p.Plain

lemma Presentable.shorten {p : Path} (h : Presentable ws p) :
    ∃ text, Report.shorten ws p = .ok text ∧ '[' ∉ text.toList := by
  have hplain : ((p.relativeTo? ws.directory).getD p).Plain := by
    unfold Path.relativeTo?
    split
    · exact fun name hname => h.plain name (List.mem_of_mem_drop hname)
    · exact h.plain
  refine ⟨_, ?_, hplain.not_mem_text⟩
  rw [Report.shorten, Workspace.shorten, Workspace.resolve_of_direct h.direct]
  rfl

/-- A finding that a report can show. -/
structure PresentableFinding (ws : Workspace) (f : Finding) : Prop where
  path : Presentable ws f.location.path
  message : '[' ∉ f.message.toList

/-- A report that is made of what can be shown does not break off. -/
theorem failure_page {findings : List Finding} {files : List Path}
    (hfindings : ∀ f ∈ findings, PresentableFinding ws f) (hfiles : ∀ p ∈ files, Presentable ws p) :
    ((Report.of findings files).page ws l).failure = none := by
  refine failure_of_legible ⟨fun f hf => ?_, fun f hf => readable_plain (hfindings f hf).message, fun p hp => ?_⟩
  · obtain ⟨path, hshort, hplain⟩ := (hfindings f hf).path.shorten
    rw [pathText, (hfindings f hf).path.written]
    exact ⟨path, hshort, readable_tagged isStyle_header (by decide) hplain⟩
  · obtain ⟨path, hshort, hplain⟩ := (hfiles p hp).shorten
    exact ⟨path, hshort, readable_plain hplain⟩

end Report

end AsyncActions
