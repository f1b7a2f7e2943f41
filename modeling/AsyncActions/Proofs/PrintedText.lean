import AsyncActions.Proofs.BrokenText
import AsyncActions.Proofs.StableSorts
import Mathlib.Data.List.Forall2

/-!
# Text in print

Text is printed part by part, each on a line of its own. A line shows a beginning of its part, and all of
it if the part has room.
-/

namespace AsyncActions.Terminal

/-- What stands for the end of a text that is cut. -/
def Overflow.mark : Overflow → List Char
  | .fold => []
  | .ellipsis => ['…']

/-- The line shows a beginning of the text. -/
def Starts (o : Overflow) (whole line : List Char) : Prop := ∃ before start after,
  line = List.replicate before ' ' ++ start ++ after ∧ start <+: whole ∧ ∀ c ∈ after, c = ' ' ∨ c ∈ o.mark

/-- The lines show the parts of a text. -/
structure PrintsParts (width : Nat) (o : Overflow) (text : List Char) (parts : List (List Char))
    (lines : List Line) : Prop where
  spaced : Spaced text parts.flatten
  starts : List.Forall₂ (fun part line => Starts o part line.chars) parts lines
  roomy : Steady text →
    List.Forall₂ (fun part line => cells part ≤ width → Text.strip line.chars = Text.strip part) parts lines
  whole : Fits width o text → List.Forall₂ (fun part line => Text.strip line.chars = Text.strip part) parts lines
  narrow : Steady text → ∀ line ∈ lines, line.width ≤ width

/-- The lines show a text. -/
def PrintsText (width : Nat) (o : Overflow) (text : List Char) (lines : List Line) : Prop :=
  ∃ parts, PrintsParts width o text parts lines

/-- The bell, the backspace, and what leaves a line or goes back to its start. -/
def controls : List Char := ['\x07', '\x08', '\x0b', '\x0c', '\x0d']

/-- What is to be seen of a text. -/
def visible (text : String) : List Char := text.toList.filter (· ∉ controls)

lemma shown_toList (text : String) : shown text.toList = visible text := by
  have hiff (c : Char) : isControl c = true ↔ c ∈ controls := by
    have hlines : '\x0b' ≤ c ∧ c ≤ '\x0d' ↔ c = '\x0b' ∨ c = '\x0c' ∨ c = '\x0d' := by
      simp only [Char.le_def, UInt32.le_iff_toNat_le, Char.ext_iff, ← UInt32.toNat_inj]
      change 11 ≤ c.val.toNat ∧ c.val.toNat ≤ 13 ↔ c.val.toNat = 11 ∨ c.val.toNat = 12 ∨ c.val.toNat = 13
      omega
    simp only [isControl, Bool.or_eq_true, Bool.and_eq_true, decide_eq_true_iff, hlines, controls, List.mem_cons,
      List.not_mem_nil, or_false, or_assoc]
  refine List.filter_congr fun c _ => Bool.eq_iff_iff.mpr ?_
  rw [Bool.not_eq_true', ← Bool.not_eq_true, hiff, decide_eq_true_iff]

section

variable {o : Overflow} {whole line : List Char}

lemma starts_of_isPrefix (h : line <+: whole) : Starts o whole line := ⟨0, line, [], by simp, h, nofun⟩

lemma Starts.blanks_append (h : Starts o whole line) (n : Nat) : Starts o whole (List.replicate n ' ' ++ line) := by
  obtain ⟨before, start, after, rfl, hstart, hafter⟩ := h
  exact ⟨n + before, start, after, by simp [← List.replicate_append_replicate], hstart, hafter⟩

lemma Starts.append (h : Starts o whole line) {tail : List Char} (htail : ∀ c ∈ tail, c = ' ' ∨ c ∈ o.mark) :
    Starts o whole (line ++ tail) := by
  obtain ⟨before, start, after, rfl, hstart, hafter⟩ := h
  exact ⟨before, start, after ++ tail, by simp, hstart, List.forall_mem_append.mpr ⟨hafter, htail⟩⟩

lemma Starts.append_blanks (h : Starts o whole line) (n : Nat) : Starts o whole (line ++ List.replicate n ' ') :=
  h.append fun _ hc => Or.inl (List.eq_of_mem_replicate hc)

lemma Starts.take (h : Starts o whole line) (n : Nat) : Starts o whole (line.take n) := by
  obtain ⟨before, start, after, rfl, hstart, hafter⟩ := h
  rw [List.take_append, List.take_append, List.take_replicate]
  exact ⟨_, _, _, rfl, (List.take_prefix _ _).trans hstart, fun c hc => hafter c (List.mem_of_mem_take hc)⟩

lemma Starts.steady (h : Starts o whole line) (hwhole : Steady whole) : Steady line := by
  obtain ⟨before, start, after, rfl, hstart, hafter⟩ := h
  have hblanks : Steady (List.replicate before ' ') := steady_replicate (by decide) before
  have hends : Steady (' ' :: o.mark) := by cases o <;> decide
  exact steady_append.mpr ⟨steady_append.mpr ⟨hblanks, hwhole.of_subset hstart.subset⟩,
    hends.of_subset fun c hc => List.mem_cons.mpr (hafter c hc)⟩

lemma Starts.begins (h : Starts o whole line) {line' : List Char} (hline : Begins line line') :
    Starts o whole line' := by
  obtain ⟨start, gap, hstart, rfl⟩ := hline
  rw [List.prefix_iff_eq_take.mp hstart]
  exact (h.take _).append_blanks gap

end

namespace Styled

variable {t : Styled}

lemma flatMap_slices (cs : List Char) {b : Nat} {bs : List Nat} (h : (b :: bs).IsChain (· ≤ ·))
    (hend : ∃ n ∈ b :: bs, cs.length ≤ n) :
    ((b :: bs).zip bs).flatMap (fun (first, last) => (cs.take last).drop first) = cs.drop b := by
  induction bs generalizing b with
  | nil =>
    obtain ⟨n, hn, hle⟩ := hend
    rw [List.mem_singleton.mp hn] at hle
    simpa using (List.drop_eq_nil_of_le hle).symm
  | cons c bs ih =>
    obtain ⟨hle, hrest⟩ := List.isChain_cons_cons.mp h
    have hend' : ∃ n ∈ c :: bs, cs.length ≤ n := by
      obtain ⟨n, hn, hlength⟩ := hend
      rcases List.mem_cons.mp hn with rfl | hn
      · exact ⟨c, List.mem_cons_self, hlength.trans hle⟩
      · exact ⟨n, hn, hlength⟩
    rw [List.zip_cons_cons, List.flatMap_cons, ih hrest hend', ← drop_eq_slice_append hle]

/-- The borders between styles do not change what a text says. -/
lemma chars_toLine (t : Styled) : t.toLine.chars = t.chars := by
  have hle (m n : Nat) : decide (m ≤ n) = true ↔ id m ≤ id n := decide_eq_true_iff
  have hsorted : t.borders.Pairwise (· < ·) := eraseDups_pairwise (stableSort_mergeSort hle _).sorted
  have hmem {n : Nat} (h : n = 0 ∨ n = t.length) : n ∈ t.borders := by
    rw [borders, List.mem_eraseDups, List.mem_mergeSort]
    rcases h with rfl | rfl <;> simp
  have hchars : t.toLine.chars =
      (t.borders.zip t.borders.tail).flatMap fun (first, last) => (t.chars.take last).drop first := by
    rw [toLine, Line.chars, List.flatMap_map]
  obtain ⟨b, bs, hborders⟩ := List.exists_cons_of_ne_nil (List.ne_nil_of_mem (hmem (Or.inl rfl)))
  rw [hborders] at hsorted hchars
  obtain rfl : 0 = b := (List.mem_cons.mp (hborders ▸ hmem (Or.inl rfl))).resolve_right fun hzero =>
    Nat.not_lt_zero b ((List.pairwise_cons.mp hsorted).1 0 hzero)
  have hchain : (0 :: bs).IsChain (· ≤ ·) := (hsorted.imp Nat.le_of_lt).isChain
  rw [hchars, List.tail_cons, flatMap_slices t.chars hchain ⟨t.length, hborders ▸ hmem (Or.inr rfl), Nat.le_refl _⟩,
    List.drop_zero]

/-- Only white space at the end is left out. -/
lemma exists_stripPast_append (t : Styled) (size : Nat) :
    ∃ gap, t.chars = (t.stripPast size).chars ++ gap ∧ ∀ c ∈ gap, Text.isSpace c = true := by
  obtain ⟨white, hwhite, hspace⟩ := exists_stripEnd_append t.chars
  unfold stripPast
  dsimp only
  split
  · exact ⟨[], by simp, nofun⟩
  · rw [chars_withChars]
    refine ⟨_, (List.take_append_drop _ _).symm, fun c hc => hspace c ?_⟩
    have hkept : (Text.stripEnd t.chars).length ≤
        t.length - min (t.length - (Text.stripEnd t.chars).length) (t.length - size) := by
      have hle : (Text.stripEnd t.chars).length ≤ t.length := (stripEnd_isPrefix t.chars).length_le
      omega
    rw [hwhite, List.drop_append, ← hwhite, List.drop_eq_nil_of_le hkept, List.nil_append] at hc
    exact List.mem_of_mem_drop hc

/-- A part that fits without the blanks at its end fits as it is then. -/
lemma length_stripPast_le {size : Nat} (h : Trimmed size t.chars) : (t.stripPast size).chars.length ≤ size := by
  unfold stripPast
  rw [Trimmed] at h
  have hlength : t.length = t.chars.length := rfl
  have hle : (Text.stripEnd t.chars).length ≤ t.length := (stripEnd_isPrefix t.chars).length_le
  dsimp only
  split
  · omega
  · rw [chars_withChars, List.length_take]
    omega

section

variable {width : Nat} {placement : Placement} {o : Overflow} {whole : List Char}

lemma truncate_of_le (h : cells t.chars ≤ width) : t.truncate width o = t := if_pos h

lemma starts_truncate (h : Starts o whole t.chars) : Starts o whole (t.truncate width o).chars := by
  unfold truncate
  split
  · exact h
  · cases o with
    | fold => rw [chars_withChars]; exact h.begins (begins_fitCells _ _)
    | ellipsis =>
      rw [chars_withChars]
      exact (h.begins (begins_fitCells _ _)).append fun c hc => Or.inr hc

lemma cells_truncate_le (h : Steady t.chars) (hwidth : 0 < width) : cells (t.truncate width o).chars ≤ width := by
  unfold truncate
  split
  · assumption
  · cases o with
    | fold => rw [chars_withChars]; exact h.cells_fitCells_le width
    | ellipsis =>
      have hmark : Steady ['…'] := by decide
      have hone : cells ['…'] = 1 := by decide +kernel
      have hfit := h.cells_fitCells_le (width - 1)
      rw [chars_withChars, cells_append (steady_append.mpr ⟨h.begins (begins_fitCells _ _), hmark⟩), hone]
      omega

lemma starts_align (h : Starts o whole t.chars) : Starts o whole (t.align width placement o).chars := by
  have hcut : Starts o whole (t.stripEnd.truncate width o).chars := by
    refine starts_truncate (h.begins (begins_of_isPrefix ?_))
    rw [chars_stripEnd]
    exact stripEnd_isPrefix _
  unfold align
  cases placement with
  | loose => exact h
  | left =>
    dsimp only
    split
    · exact h.append_blanks _
    · exact starts_truncate h
  | center => exact (hcut.blanks_append _).append_blanks _
  | right => exact hcut.blanks_append _

/-- Text that has room is only moved. -/
lemma strip_align (h : Steady t.chars) (hroom : cells t.chars ≤ width) :
    Text.strip (t.align width placement o).chars = Text.strip t.chars ∧
      cells (t.align width placement o).chars ≤ width := by
  have hsteady := (starts_align (starts_of_isPrefix (List.prefix_refl t.chars)) : Starts o _
    (t.align width placement o).chars).steady h
  have hprefix : t.stripEnd.chars <+: t.chars := by
    rw [chars_stripEnd]
    exact stripEnd_isPrefix _
  have hend := (h.cells_le_of_isPrefix hprefix).trans hroom
  have hstrip : Text.strip t.stripEnd.chars = Text.strip t.chars := by rw [chars_stripEnd, strip_stripEnd]
  unfold align at hsteady ⊢
  cases placement with
  | loose => exact ⟨rfl, hroom⟩
  | left =>
    dsimp only at hsteady ⊢
    split
    · next hless =>
      rw [if_pos hless, chars_padRight] at hsteady
      rw [chars_padRight, strip_append_blanks, cells_append hsteady, cells_blanks]
      exact ⟨rfl, by omega⟩
    · rw [truncate_of_le hroom]
      exact ⟨rfl, hroom⟩
  | center =>
    dsimp only at hsteady ⊢
    rw [truncate_of_le hend, chars_padRight, chars_padLeft] at hsteady ⊢
    rw [strip_append_blanks, strip_blanks_append, cells_append hsteady, cells_append (steady_append.mp hsteady).1,
      cells_blanks, cells_blanks]
    exact ⟨hstrip, by omega⟩
  | right =>
    dsimp only at hsteady ⊢
    rw [truncate_of_le hend, chars_padLeft] at hsteady ⊢
    rw [strip_blanks_append, cells_append hsteady, cells_blanks]
    exact ⟨hstrip, by omega⟩

/-- A part of a text on its line. -/
def placed (width : Nat) (placement : Placement) (o : Overflow) (part : Styled) : Styled :=
  ((part.stripPast width).align width placement o).truncate width o

/-- The parts of a text, one for each line. -/
def parts (width : Nat) (o : Overflow) (t : Styled) : List Styled :=
  (t.lines.map expandTabs).flatMap fun line => line.divide (breaks width o line.chars)

lemma wrap_eq (t : Styled) : t.wrap width placement o = (t.parts width o).map (placed width placement o) := by
  rw [wrap, parts, List.flatMap_map, List.map_flatMap]
  rfl

lemma starts_placed (t : Styled) : Starts o t.chars (t.placed width placement o).chars := by
  obtain ⟨gap, hgap, -⟩ := t.exists_stripPast_append width
  exact starts_truncate (starts_align (starts_of_isPrefix (hgap ▸ List.prefix_append _ _)))

lemma strip_placed (h : Steady t.chars) (hroom : cells (t.stripPast width).chars ≤ width) :
    Text.strip (t.placed width placement o).chars = Text.strip t.chars := by
  obtain ⟨gap, hgap, hspace⟩ := t.exists_stripPast_append width
  have hkept : Steady (t.stripPast width).chars := (steady_append.mp (hgap ▸ h)).1
  obtain ⟨hstrip, hcells⟩ : Text.strip ((t.stripPast width).align width placement o).chars =
      Text.strip (t.stripPast width).chars ∧ cells ((t.stripPast width).align width placement o).chars ≤ width :=
    strip_align hkept hroom
  rw [placed, truncate_of_le hcells, hstrip, hgap, strip_append hspace]

lemma cells_placed_le (h : Steady t.chars) (hwidth : 0 < width) : cells (t.placed width placement o).chars ≤ width := by
  obtain ⟨gap, hgap, -⟩ := t.exists_stripPast_append width
  have halign : Starts o t.chars ((t.stripPast width).align width placement o).chars :=
    starts_align (starts_of_isPrefix (hgap ▸ List.prefix_append _ _))
  exact cells_truncate_le (halign.steady h) hwidth

lemma isChain_breaks (t : Styled) : (0 :: breaks width o t.chars).IsChain (· ≤ ·) :=
  isChain_breaksFrom (Nat.le_refl 0) _

lemma spaced_parts (t : Styled) : Spaced t.chars ((t.parts width o).map chars).flatten := by
  have hparts (lines : List Styled) : ((lines.flatMap fun line => line.divide (breaks width o line.chars)).map
      chars).flatten = (lines.map chars).flatten := by
    induction lines with
    | nil => rfl
    | cons line lines ih =>
      rw [List.flatMap_cons, List.map_append, List.flatten_append, ih,
        flatten_divide line (isChain_breaks line), List.map_cons, List.flatten_cons]
  rw [parts, hparts]
  exact t.spaced_lines

/-- Text that fits has neither line feeds nor tabs. -/
lemma parts_of_fits (h : Fits width o t.chars) : t.parts width o = t.divide (breaks width o t.chars) := by
  have hfeed : placesOf '\n' 0 t.chars = [] := placesOf_eq_nil_iff.mpr fun hmem => absurd (h.narrow _ hmem) (by decide)
  have htab : placesOf '\t' 1 t.chars = [] := placesOf_eq_nil_iff.mpr fun hmem => absurd (h.narrow _ hmem) (by decide)
  have hlines : t.lines = [t] := if_pos hfeed
  have htabs : t.expandTabs = t := if_pos htab
  rw [parts, hlines, List.map_singleton, htabs, List.flatMap_singleton]

/-- The lines of a text show it. -/
theorem printsText_render (t : Styled) (hwidth : 0 < width) :
    PrintsText width o t.chars (t.render width placement o) := by
  have hrender : t.render width placement o =
      (t.parts width o).map fun part => (part.placed width placement o).toLine := by
    rw [render, if_neg (by omega), wrap_eq, List.map_map]
    rfl
  have hforall {R : List Char → Line → Prop}
      (h : ∀ part ∈ t.parts width o, R part.chars (part.placed width placement o).toLine) :
      List.Forall₂ R ((t.parts width o).map chars) (t.render width placement o) := by
    rw [hrender, List.forall₂_map_left_iff, List.forall₂_map_right_iff]
    exact List.forall₂_same.mpr h
  have hsteady (h : Steady t.chars) : ∀ part ∈ t.parts width o, Steady part.chars := fun part hpart =>
    (t.spaced_parts.steady h).of_subset fun c hc => List.mem_flatten.mpr ⟨_, List.mem_map_of_mem hpart, hc⟩
  refine ⟨(t.parts width o).map chars, t.spaced_parts, hforall fun part _ => ?_,
    fun h => hforall fun part hpart hroom => ?_, fun h => hforall fun part hpart => ?_, fun h line hline => ?_⟩
  · rw [chars_toLine]
    exact starts_placed part
  · obtain ⟨gap, hgap, -⟩ := part.exists_stripPast_append width
    rw [chars_toLine]
    exact strip_placed (hsteady h part hpart)
      (((hsteady h part hpart).cells_le_of_isPrefix (hgap ▸ List.prefix_append _ _)).trans hroom)
  · have htrimmed := h.trimmed hwidth part (parts_of_fits h ▸ hpart)
    have hnarrow : Narrow part.chars := by
      refine h.narrow.of_subset fun c hc => ?_
      rw [← flatten_divide t (isChain_breaks t), ← parts_of_fits h]
      exact List.mem_flatten.mpr ⟨_, List.mem_map_of_mem hpart, hc⟩
    obtain ⟨gap, hgap, -⟩ := part.exists_stripPast_append width
    have hkept : Narrow (part.stripPast width).chars :=
      hnarrow.of_subset fun c hc => hgap ▸ List.mem_append_left gap hc
    rw [chars_toLine]
    exact strip_placed hnarrow.steady (hkept.cells.le.trans (length_stripPast_le htrimmed))
  · rw [hrender] at hline
    obtain ⟨part, hpart, rfl⟩ := List.mem_map.mp hline
    have hplaced : Steady (part.placed width placement o).chars := (starts_placed part).steady (hsteady h part hpart)
    rw [Line.width_of_steady (chars_toLine _ ▸ hplaced), chars_toLine]
    exact cells_placed_le (hsteady h part hpart) hwidth

end

end Styled

end AsyncActions.Terminal
