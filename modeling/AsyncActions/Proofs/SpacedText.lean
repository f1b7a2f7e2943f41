import AsyncActions.Proofs.FittedText
import AsyncActions.Terminal.Wrap
import Mathlib.Data.List.Chain
import Mathlib.Data.List.DropRight

/-!
# Text between line feeds

A text is divided at its line feeds, which are left out, and gets blanks for its tabs. Nothing else happens
to it. White space at the ends of a line is of no account.
-/

namespace AsyncActions.Terminal

/-- Text of which line feeds may be left out and in which tabs may be blanks. -/
inductive Spaced : List Char → List Char → Prop
  | nil : Spaced [] []
  | keep (c : Char) {cs ds : List Char} : Spaced cs ds → Spaced (c :: cs) (c :: ds)
  | feed {cs ds : List Char} : Spaced cs ds → Spaced ('\n' :: cs) ds
  | tab (n : Nat) {cs ds : List Char} : Spaced cs ds → Spaced ('\t' :: cs) (List.replicate (n + 1) ' ' ++ ds)

section

variable {cs ds : List Char}

lemma Spaced.refl : (cs : List Char) → Spaced cs cs
  | [] => .nil
  | c :: cs => .keep c (Spaced.refl cs)

lemma Spaced.append (h : Spaced cs ds) {cs' ds' : List Char} (h' : Spaced cs' ds') :
    Spaced (cs ++ cs') (ds ++ ds') := by
  induction h with
  | nil => exact h'
  | keep c _ ih => exact .keep c ih
  | feed _ ih => exact .feed ih
  | tab n _ ih =>
    rw [List.append_assoc]
    exact .tab n ih

lemma Spaced.steady (h : Spaced cs ds) (hcs : Steady cs) : Steady ds := by
  have hblank : Steady [' '] := by decide
  induction h with
  | nil => exact hcs
  | keep c _ ih =>
    obtain ⟨hc, hrest⟩ := steady_append.mp (List.singleton_append ▸ hcs : Steady ([c] ++ _))
    exact steady_append.mpr ⟨hc, ih hrest⟩
  | feed _ ih => exact ih (hcs.of_subset (List.subset_cons_self _ _))
  | tab n _ ih => exact steady_append.mpr ⟨steady_replicate hblank _, ih (hcs.of_subset (List.subset_cons_self _ _))⟩

/-! ### Text without blanks at its ends -/

lemma stripEnd_isPrefix (cs : List Char) : Text.stripEnd cs <+: cs := List.rdropWhile_prefix _ _

/-- What follows the stripped text is white. -/
lemma exists_stripEnd_append (cs : List Char) :
    ∃ gap, cs = Text.stripEnd cs ++ gap ∧ ∀ c ∈ gap, Text.isSpace c = true := by
  refine ⟨cs.rtakeWhile Text.isSpace, List.rdropWhile_append_rtakeWhile.symm, fun c hc => ?_⟩
  exact List.mem_takeWhile_imp (List.mem_reverse.mp hc)

lemma stripEnd_append (hds : ∀ c ∈ ds, Text.isSpace c = true) : Text.stripEnd (cs ++ ds) = Text.stripEnd cs := by
  unfold Text.stripEnd
  rw [List.reverse_append, List.dropWhile_append_of_pos fun c hc => hds c (List.mem_reverse.mp hc)]

lemma strip_append (hds : ∀ c ∈ ds, Text.isSpace c = true) : Text.strip (cs ++ ds) = Text.strip cs := by
  unfold Text.strip
  rw [List.dropWhile_append]
  split
  · next hempty =>
    rw [List.isEmpty_iff.mp hempty, List.dropWhile_eq_nil_iff.mpr hds]
  · exact stripEnd_append hds

lemma strip_blanks_append (n : Nat) (cs : List Char) : Text.strip (List.replicate n ' ' ++ cs) = Text.strip cs := by
  unfold Text.strip
  rw [List.dropWhile_append_of_pos fun c hc => by rw [List.eq_of_mem_replicate hc]; decide]

lemma isSpace_of_mem_blanks {n : Nat} : ∀ c ∈ List.replicate n ' ', Text.isSpace c = true :=
  fun c hc => by rw [List.eq_of_mem_replicate hc]; decide

lemma strip_append_blanks (cs : List Char) (n : Nat) : Text.strip (cs ++ List.replicate n ' ') = Text.strip cs :=
  strip_append isSpace_of_mem_blanks

lemma strip_stripEnd (cs : List Char) : Text.strip (Text.stripEnd cs) = Text.strip cs := by
  obtain ⟨gap, hgap, hspace⟩ := exists_stripEnd_append cs
  conv_rhs => rw [hgap, strip_append hspace]

end

namespace Styled

variable {t : Styled}

@[simp] lemma chars_withChars (t : Styled) (cs : List Char) : (t.withChars cs).chars = cs := by
  unfold withChars
  split <;> rfl

@[simp] lemma chars_padLeft (n : Nat) (t : Styled) : (t.padLeft n).chars = List.replicate n ' ' ++ t.chars := rfl

@[simp] lemma chars_padRight (n : Nat) (t : Styled) : (t.padRight n).chars = t.chars ++ List.replicate n ' ' := rfl

@[simp] lemma chars_stripEnd (t : Styled) : t.stripEnd.chars = Text.stripEnd t.chars := chars_withChars t _

lemma drop_eq_slice_append {first next : Nat} (h : first ≤ next) (cs : List Char) :
    cs.drop first = (cs.take next).drop first ++ cs.drop next := by
  conv_lhs => rw [← List.take_append_drop next cs, List.drop_append]
  rcases Nat.le_total next cs.length with hle | hle
  · rw [List.length_take, Nat.min_eq_left hle, Nat.sub_eq_zero_of_le h, List.drop_zero]
  · rw [List.drop_eq_nil_of_le hle, List.drop_nil]

/-- Cut at places that are in order, the parts are the text from the first place on. -/
lemma flatten_divideFrom (t : Styled) {first : Nat} {places : List Nat} (h : (first :: places).IsChain (· ≤ ·)) :
    ((t.divideFrom first places).map chars).flatten = t.chars.drop first := by
  induction places generalizing first with
  | nil => simp [divideFrom, slice, length]
  | cons next places ih =>
    obtain ⟨hle, hrest⟩ := List.isChain_cons_cons.mp h
    rw [divideFrom, List.map_cons, List.flatten_cons, ih hrest, drop_eq_slice_append hle]
    rfl

lemma isChain_placesOf {c : Char} {first n : Nat} (h : first ≤ n) (cs : List Char) :
    (first :: placesOf c n cs).IsChain (· ≤ ·) := by
  induction cs generalizing first n with
  | nil => exact List.isChain_singleton _
  | cons d cs ih =>
    rw [placesOf]
    split
    · exact List.isChain_cons_cons.mpr ⟨h, ih (Nat.le_succ n)⟩
    · exact ih (Nat.le_succ_of_le h)

lemma isChain_feeds {first n : Nat} (h : first ≤ n) (cs : List Char) :
    (first :: (placesOf '\n' n cs).flatMap fun n => [n, n + 1]).IsChain (· ≤ ·) := by
  induction cs generalizing first n with
  | nil => exact List.isChain_singleton _
  | cons d cs ih =>
    rw [placesOf]
    split
    · exact List.isChain_cons_cons.mpr ⟨h, List.isChain_cons_cons.mpr ⟨Nat.le_succ n, ih (Nat.le_refl _)⟩⟩
    · exact ih (Nat.le_succ_of_le h)

lemma placesOf_eq_nil_iff {c : Char} {n : Nat} {cs : List Char} : placesOf c n cs = [] ↔ c ∉ cs := by
  induction cs generalizing n with
  | nil => simp [placesOf]
  | cons d cs ih =>
    rw [placesOf]
    split
    · next h => simp [h]
    · next h => simp [ih, Ne.symm h]

lemma flatten_divide (t : Styled) {places : List Nat} (h : (0 :: places).IsChain (· ≤ ·)) :
    ((t.divide places).map chars).flatten = t.chars := by
  unfold divide
  split
  · simp
  · rw [flatten_divideFrom t h, List.drop_zero]

lemma chars_concat (texts : List Styled) : (concat texts).chars = (texts.map chars).flatten := by
  have hfold (t : Styled) : (texts.foldl append t).chars = t.chars ++ (texts.map chars).flatten := by
    induction texts generalizing t with
    | nil => simp
    | cons u texts ih =>
      rw [List.foldl_cons, ih]
      simp [append]
  exact hfold empty

lemma spaced_spread (column : Nat) (parts : List Styled) :
    Spaced (parts.map chars).flatten ((spread column parts).map chars).flatten := by
  induction parts generalizing column with
  | nil => exact .nil
  | cons part parts ih =>
    rw [spread]
    split
    · next htab =>
      have hpart : part.chars.dropLast ++ ['\t'] = part.chars := List.dropLast_append_getLast? _ htab
      refine Spaced.append ?_ (ih _)
      rw [← hpart]
      simpa [widen, List.replicate_succ] using (Spaced.refl part.chars.dropLast).append (Spaced.tab _ .nil)
    · exact (Spaced.refl _).append (ih _)

lemma spaced_expandTabs (t : Styled) : Spaced t.chars t.expandTabs.chars := by
  unfold expandTabs
  dsimp only
  split
  · exact Spaced.refl _
  · have hspread := spaced_spread 0 (t.divideFrom 0 (placesOf '\t' 1 t.chars))
    rw [flatten_divideFrom t (isChain_placesOf (Nat.zero_le 1) _), List.drop_zero] at hspread
    have hfilter (parts : List Styled) :
        ((parts.filter (·.chars ≠ [])).map chars).flatten = (parts.map chars).flatten := by
      rw [← List.flatten_filter_ne_nil (L := parts.map chars), List.filter_map]
      rfl
    rwa [chars_concat, hfilter]

/-- Between line feeds, with blanks in place of tabs, the text is still what it was. -/
lemma spaced_lines (t : Styled) : Spaced t.chars ((t.lines.map expandTabs).map chars).flatten := by
  have hpieces (pieces : List Styled) : Spaced (pieces.map chars).flatten
      (((pieces.filter (·.chars ≠ ['\n'])).map expandTabs).map chars).flatten := by
    induction pieces with
    | nil => exact .nil
    | cons piece pieces ih =>
      by_cases hfeed : piece.chars = ['\n']
      · rw [List.filter_cons_of_neg (by simpa using hfeed), List.map_cons, List.flatten_cons, hfeed]
        exact .feed ih
      · rw [List.filter_cons_of_pos (by simpa using hfeed)]
        exact (spaced_expandTabs piece).append ih
  unfold lines
  dsimp only
  split
  · simpa using spaced_expandTabs t
  · have hplaces : (0 :: (placesOf '\n' 0 t.chars).flatMap fun n => [n, n + 1]).IsChain (· ≤ ·) :=
      isChain_feeds (Nat.le_refl 0) _
    have hlines := hpieces (t.divideFrom 0 ((placesOf '\n' 0 t.chars).flatMap fun n => [n, n + 1]))
    rwa [flatten_divideFrom t hplaces, List.drop_zero] at hlines

end Styled

end AsyncActions.Terminal
