import AsyncActions.Proofs.SpacedText

/-!
# Breaks between words

A line is broken before a word that has no more room, and a word that is longer than a line is folded. Where
each sign takes one cell, the parts fit: whenever words are folded, and otherwise if no word is too long.
-/

namespace AsyncActions.Terminal

/-- Text of which each sign takes one cell. -/
def Narrow (cs : List Char) : Prop := ∀ c ∈ cs, cellWidth c = 1

/-- Text that fits on lines of a width without losses. -/
structure Fits (width : Nat) (o : Overflow) (text : List Char) : Prop where
  narrow : Narrow text
  words : o = .ellipsis → text.head?.all (!Text.isSpace ·) ∧
    ∀ run, run <:+: text → (∀ c ∈ run, Text.isSpace c = false) → run.length ≤ width

lemma flatten_chopAfter_isPrefix (width size : Nat) (line : List Char) (ks : List Cluster) :
    (chopAfter width size line ks).flatten <+: line ++ ks.flatMap Cluster.text := by
  induction ks generalizing size line with
  | nil =>
    rw [chopAfter]
    split
    · exact List.nil_prefix
    · simp
  | cons k ks ih =>
    rw [chopAfter, List.flatMap_cons]
    split
    · rw [List.flatten_cons]
      exact (List.prefix_append_right_inj line).mpr (ih k.cells k.text)
    · rw [← List.append_assoc]
      exact ih (size + k.cells) (line ++ k.text)

lemma flatten_chop_isPrefix (width : Nat) (cs : List Char) : (chop width cs).flatten <+: cs := by
  have hchop := flatten_chopAfter_isPrefix width 0 [] (clusters cs)
  rwa [flatMap_clusters] at hchop

lemma isChain_starts_append {first start : Nat} (h : first ≤ start) {parts : List (List Char)} {rest : List Nat}
    (hrest : ∀ last ≤ start + parts.flatten.length, (last :: rest).IsChain (· ≤ ·)) :
    (first :: (starts start parts ++ rest)).IsChain (· ≤ ·) := by
  induction parts generalizing first start with
  | nil => exact hrest first h
  | cons p ps ih =>
    have hrest' : ∀ last ≤ start + p.length + ps.flatten.length, (last :: rest).IsChain (· ≤ ·) :=
      fun last hlast => hrest last (by rw [List.flatten_cons, List.length_append]; omega)
    rw [starts, List.append_assoc]
    split
    · exact ih (by omega) hrest'
    · exact List.isChain_cons_cons.mpr ⟨h, ih (Nat.le_add_right _ _) hrest'⟩

/-- Breaks are in order. -/
lemma isChain_breaksFrom {width : Nat} {o : Overflow} {first start filled : Nat} (h : first ≤ start)
    (words : List (List Char)) : (first :: breaksFrom width o start filled words).IsChain (· ≤ ·) := by
  induction words generalizing first start filled with
  | nil => exact List.isChain_singleton _
  | cons word words ih =>
    unfold breaksFrom
    dsimp only
    split
    · exact ih (by omega)
    · split
      · split
        · have hlength := (flatten_chop_isPrefix width word).length_le
          exact isChain_starts_append h fun last hlast => ih (by omega)
        · exact isChain_starts_append h fun last hlast => ih (by simpa using hlast)
      · split
        · exact List.isChain_cons_cons.mpr ⟨h, ih (by omega)⟩
        · exact ih (by omega)

/-! ### Words -/

/-- A word with the white space after it. -/
def IsWord (cs : List Char) : Prop :=
  ∃ run gap, cs = run ++ gap ∧ (∀ c ∈ run, Text.isSpace c = false) ∧ ∀ c ∈ gap, Text.isSpace c = true

lemma flatten_words (cs : List Char) :
    Text.words cs = [] ∧ (∀ c ∈ cs, Text.isSpace c = true) ∨ Text.words cs ≠ [] ∧ (Text.words cs).flatten = cs := by
  induction cs with
  | nil => exact Or.inl ⟨rfl, nofun⟩
  | cons c cs ih =>
    rcases ih with ⟨hwords, hspace⟩ | ⟨hwords, hflatten⟩
    · rw [Text.words, hwords]
      by_cases hc : Text.isSpace c = true
      · exact Or.inl ⟨if_pos hc, List.forall_mem_cons.mpr ⟨hc, hspace⟩⟩
      · exact Or.inr (by simp [hc])
    · obtain ⟨w, ws, hcons⟩ := List.exists_cons_of_ne_nil hwords
      rw [hcons, List.flatten_cons] at hflatten
      rw [Text.words, hcons]
      dsimp only
      split
      · exact Or.inr ⟨List.cons_ne_nil _ _, by simp [hflatten]⟩
      · refine Or.inr ⟨List.cons_ne_nil _ _, ?_⟩
        rw [List.flatten_cons, List.flatten_cons, List.cons_append, ← List.append_assoc,
          List.takeWhile_append_dropWhile, hflatten]

lemma IsWord.cons {c : Char} {cs : List Char} (hc : Text.isSpace c = false) (h : IsWord cs)
    (hhead : ∀ d ∈ cs.head?, Text.isSpace d = false) : IsWord (c :: cs) := by
  obtain ⟨run, gap, rfl, hrun, hgap⟩ := h
  cases run with
  | nil =>
    obtain rfl : gap = [] := List.eq_nil_iff_forall_not_mem.mpr fun d hd => by
      obtain ⟨e, gap, rfl⟩ := List.exists_cons_of_ne_nil (List.ne_nil_of_mem hd)
      exact absurd (hgap e List.mem_cons_self) (by simp [hhead e rfl])
    exact ⟨[c], [], rfl, List.forall_mem_singleton.mpr hc, nofun⟩
  | cons d run => exact ⟨c :: d :: run, gap, rfl, List.forall_mem_cons.mpr ⟨hc, hrun⟩, hgap⟩

lemma dropWhile_isSpace_of_head {cs : List Char} (h : ∀ c ∈ cs.head?, Text.isSpace c = false) :
    cs.dropWhile Text.isSpace = cs := by
  cases cs with
  | nil => rfl
  | cons c cs => exact List.dropWhile_cons_of_neg (by simp [h c rfl])

lemma head?_words {cs w : List Char} {ws : List (List Char)} (h : Text.words cs = w :: ws) (hne : w ≠ []) :
    w.head? = cs.head? := by
  have hflatten := ((flatten_words cs).resolve_left fun hnone => by rw [h] at hnone; cases hnone.1).2
  obtain ⟨c, w, rfl⟩ := List.exists_cons_of_ne_nil hne
  rw [← hflatten, h]
  rfl

/-- White space stands before the first word only. -/
lemma isWord_of_words {cs w : List Char} {ws : List (List Char)} (h : Text.words cs = w :: ws) :
    IsWord (w.dropWhile Text.isSpace) ∧ ∀ v ∈ ws, IsWord v := by
  induction cs generalizing w ws with
  | nil => cases h
  | cons c cs ih =>
    have hsingle (hc : Text.isSpace c = false) {gap : List Char} (hgap : ∀ d ∈ gap, Text.isSpace d = true) :
        IsWord ((c :: gap).dropWhile Text.isSpace) := by
      rw [dropWhile_isSpace_of_head (by simpa using hc)]
      exact ⟨[c], gap, rfl, List.forall_mem_singleton.mpr hc, hgap⟩
    rw [Text.words] at h
    split at h
    · next hnone =>
      have hspace := ((flatten_words cs).resolve_right fun hsome => hsome.1 hnone).2
      split at h
      · cases h
      · next hc =>
        cases h
        exact ⟨hsingle (by simpa using hc) hspace, nofun⟩
    · next w' ws' hsome =>
      obtain ⟨hw', hws'⟩ := ih hsome
      by_cases hc : Text.isSpace c = true
      · rw [if_pos (by simp [hc])] at h
        cases h
        rw [List.dropWhile_cons_of_pos hc]
        exact ⟨hw', hws'⟩
      · rw [Bool.not_eq_true] at hc
        by_cases hnext : cs.head?.any Text.isSpace = true
        · rw [if_neg (by simp [hc, hnext])] at h
          cases h
          exact ⟨hsingle hc fun d hd => List.mem_takeWhile_imp hd, List.forall_mem_cons.mpr ⟨hw', hws'⟩⟩
        · rw [if_pos (by simpa using Or.inr hnext)] at h
          cases h
          have hhead : ∀ d ∈ w'.head?, Text.isSpace d = false := fun d hd => by
            have hne : w' ≠ [] := by rintro rfl; cases hd
            rw [head?_words hsome hne] at hd
            simpa [Option.mem_def.mp hd] using hnext
          rw [dropWhile_isSpace_of_head hhead] at hw'
          rw [dropWhile_isSpace_of_head (by simpa using hc)]
          exact ⟨hw'.cons hc hhead, hws'⟩

/-! ### Parts that fit -/

section

variable {cs : List Char} {width : Nat} {o : Overflow}

lemma Narrow.steady (h : Narrow cs) : Steady cs :=
  ⟨fun hjoiner => absurd (h _ hjoiner) (by decide), fun hselector => absurd (h _ hselector) (by decide)⟩

lemma Narrow.cells (h : Narrow cs) : Terminal.cells cs = cs.length := by
  have hone : cs.map cellWidth = List.replicate cs.length 1 := List.map_eq_replicate_iff.mpr h
  rw [h.steady.cells, hone, List.sum_replicate_nat, Nat.mul_one]

lemma Narrow.of_subset (h : Narrow cs) {ds : List Char} (hsub : ds ⊆ cs) : Narrow ds := fun c hc => h c (hsub hc)

lemma Narrow.clusters (h : Narrow cs) : Terminal.clusters cs = cs.map Cluster.single := by
  have hafter (known : List Cluster) (last : Option Char) :
      Cluster.after known last false cs = known.reverse ++ cs.map Cluster.single := by
    induction cs generalizing known last with
    | nil => simp [Cluster.after]
    | cons c cs ih =>
      have hone := h c List.mem_cons_self
      have hjoiner : c ≠ joiner := by rintro rfl; exact absurd hone (by decide)
      have hselector : c ≠ pictureSelector := by rintro rfl; exact absurd hone (by decide)
      have hrest := ih (h.of_subset (List.subset_cons_self c cs))
      cases known with
      | nil => rw [Cluster.after, if_neg (by simp [hjoiner, hselector]), hrest]; rfl
      | cons k ks =>
        rw [Cluster.after, if_neg (by decide), if_neg hjoiner, if_neg hselector, if_neg (by simp [hone]), hrest]
        simp
  exact hafter [] none

/-- Folded, a text is all there, in lines that fit. -/
lemma Narrow.chop (h : Narrow cs) (hwidth : 0 < width) :
    (Terminal.chop width cs).flatten = cs ∧ ∀ p ∈ Terminal.chop width cs, p.length ≤ width := by
  have hafter {line : List Char} (hline : line.length ≤ width) :
      (chopAfter width line.length line (cs.map Cluster.single)).flatten = line ++ cs ∧
        ∀ p ∈ chopAfter width line.length line (cs.map Cluster.single), p.length ≤ width := by
    induction cs generalizing line with
    | nil =>
      rw [List.map_nil, chopAfter]
      split
      · next hnil => simp [List.length_eq_zero_iff.mp hnil]
      · simpa using hline
    | cons c cs ih =>
      have hone : (Cluster.single c).cells = 1 := h c List.mem_cons_self
      have hrest := h.of_subset (List.subset_cons_self c cs)
      rw [List.map_cons, chopAfter, hone]
      split
      · have hfirst : [c].length ≤ width := hwidth
        obtain ⟨hflatten, hlengths⟩ := ih hrest hfirst
        refine ⟨?_, List.forall_mem_cons.mpr ⟨hline, hlengths⟩⟩
        rw [List.flatten_cons]
        exact congrArg (line ++ ·) hflatten
      · have hline' : (line ++ [c]).length ≤ width := by rw [List.length_append, List.length_singleton]; omega
        obtain ⟨hflatten, hlengths⟩ := ih hrest hline'
        rw [List.length_append, List.length_singleton] at hflatten hlengths
        exact ⟨by simpa [Cluster.single] using hflatten, hlengths⟩
  rw [Terminal.chop, h.clusters]
  have hempty : ([] : List Char).length ≤ width := Nat.zero_le width
  exact hafter hempty

/-- The last part of a folded word is as wide as it is long. -/
lemma Narrow.exists_chop_eq (h : Narrow cs) (hwidth : 0 < width) (hne : cs ≠ []) :
    ∃ folded last, Terminal.chop width cs = folded ++ [last] ∧ folded.flatten ++ last = cs ∧
      Terminal.cells last = last.length ∧ last.length ≤ width := by
  obtain ⟨hflatten, hlengths⟩ := h.chop hwidth
  have hsome : Terminal.chop width cs ≠ [] := fun hnil => hne (by rw [← hflatten, hnil, List.flatten_nil])
  obtain ⟨folded, last, hparts⟩ := (List.eq_nil_or_concat _).resolve_left hsome
  rw [List.concat_eq_append] at hparts
  have hjoined : folded.flatten ++ last = cs := by
    rw [← hflatten, hparts, List.flatten_append, List.flatten_singleton]
  have hlast : last ∈ Terminal.chop width cs := hparts ▸ List.mem_append_right _ List.mem_cons_self
  exact ⟨folded, last, hparts, hjoined, (h.of_subset (hjoined ▸ List.subset_append_right _ _)).cells,
    hlengths last hlast⟩

end

/-- Without the blanks at its end, the part is no longer than a line. -/
def Trimmed (width : Nat) (part : List Char) : Prop := (Text.stripEnd part).length ≤ width

lemma trimmed_of_le {width : Nat} {part : List Char} (h : part.length ≤ width) : Trimmed width part :=
  (stripEnd_isPrefix part).length_le.trans h

lemma trimmed_append {width : Nat} {part word : List Char}
    (h : part.length + (Text.stripEnd word).length ≤ width) : Trimmed width (part ++ word) := by
  obtain ⟨gap, hgap, hspace⟩ := exists_stripEnd_append word
  rw [Trimmed, hgap, ← List.append_assoc, stripEnd_append hspace]
  refine (stripEnd_isPrefix _).length_le.trans ?_
  rwa [List.length_append]

section

variable {t : Styled} {width : Nat} {o : Overflow}

lemma slice_of_isPrefix {cs word : List Char} {start : Nat} (h : word <+: cs.drop start) :
    (cs.take (start + word.length)).drop start = word := by
  rw [List.drop_take, Nat.add_sub_cancel_left]
  exact (List.prefix_iff_eq_take.mp h).symm

lemma prefix_drop_add {cs before word : List Char} {start : Nat} (h : before ++ word <+: cs.drop start) :
    word <+: cs.drop (start + before.length) := by
  obtain ⟨rest, hrest⟩ := h
  rw [← List.drop_drop, ← hrest, List.append_assoc, List.drop_left]
  exact List.prefix_append _ _

/-- A word that is folded ends the part before it and makes parts of its own. -/
lemma trimmed_starts {first start : Nat} {parts : List (List Char)} {rest : List Nat} (hfirst : start = 0 → first = 0)
    (hpart : Trimmed width ((t.chars.take start).drop first)) (hne : parts ≠ [])
    (hparts : ∀ p ∈ parts, p.length ≤ width) (hword : parts.flatten <+: t.chars.drop start)
    (hrest : ∀ part ∈ t.divideFrom (start + parts.dropLast.flatten.length) rest, Trimmed width part.chars) :
    ∀ part ∈ t.divideFrom first (starts start parts ++ rest), Trimmed width part.chars := by
  induction parts generalizing first start with
  | nil => exact absurd rfl hne
  | cons p ps ih =>
    have hrest' : ∀ part ∈ t.divideFrom start (starts (start + p.length) ps ++ rest), Trimmed width part.chars := by
      cases ps with
      | nil => exact hrest
      | cons q ps =>
        obtain ⟨hp, hps⟩ := List.forall_mem_cons.mp hparts
        refine ih (fun hzero => by omega) ?_ (List.cons_ne_nil q ps) hps ?_ ?_
        · rw [slice_of_isPrefix ((List.prefix_append _ _).trans hword)]
          exact trimmed_of_le hp
        · exact prefix_drop_add hword
        · rw [List.dropLast_cons_cons, List.flatten_cons, List.length_append, ← Nat.add_assoc] at hrest
          exact hrest
    rw [starts, List.append_assoc]
    split
    · next hzero =>
      rw [List.nil_append, hfirst hzero, ← hzero]
      exact hrest'
    · exact List.forall_mem_cons.mpr ⟨hpart, hrest'⟩

/-- Where its signs take a cell each, a text is broken into parts that fit. -/
lemma trimmed_breaksFrom (hnarrow : Narrow t.chars) (hwidth : 0 < width) {first start : Nat}
    {words : List (List Char)} (hle : first ≤ start) (hfirst : start = 0 → first = 0)
    (hwords : t.chars.drop start = words.flatten) (hfit : o = .ellipsis → ∀ word ∈ words, Trimmed width word)
    (hpart : Trimmed width ((t.chars.take start).drop first)) :
    ∀ part ∈ t.divideFrom first (breaksFrom width o start (start - first) words), Trimmed width part.chars := by
  induction words generalizing first start with
  | nil =>
    have hend : t.chars.length ≤ start := List.drop_eq_nil_iff.mp hwords
    rw [List.take_of_length_le hend] at hpart
    refine List.forall_mem_singleton.mpr ?_
    simpa [Styled.slice, Styled.length] using hpart
  | cons word words ih =>
    have hword : word <+: t.chars.drop start := hwords ▸ List.prefix_append _ _
    have hslice := slice_of_isPrefix hword
    have hnext : t.chars.drop (start + word.length) = words.flatten := by
      rw [← List.drop_drop, hwords, List.flatten_cons, List.drop_left]
    have hnarrow' : Narrow word := hnarrow.of_subset fun c hc => List.mem_of_mem_drop (hword.subset hc)
    have hsize : cells (Text.stripEnd word) = (Text.stripEnd word).length :=
      (hnarrow'.of_subset (stripEnd_isPrefix word).subset).cells
    have hfilled : start + word.length - first = start - first + word.length := by omega
    have hfit' : o = .ellipsis → ∀ w ∈ words, Trimmed width w := fun he w hw => hfit he w (List.mem_cons_of_mem _ hw)
    -- from a break before the word on, the word is the part
    have hbroken (htrimmed : Trimmed width word) : ∀ part ∈ t.divideFrom start
        (breaksFrom width o (start + word.length) word.length words), Trimmed width part.chars := by
      have hrest := ih (Nat.le_add_right start word.length) (fun hzero => by omega) hnext hfit' (by rwa [hslice])
      rwa [Nat.add_sub_cancel_left] at hrest
    unfold breaksFrom
    dsimp only
    rw [hnarrow'.cells]
    split
    · next hroom =>
      have hjoined : Trimmed width ((t.chars.take (start + word.length)).drop first) := by
        rw [Styled.drop_eq_slice_append hle, List.take_take, Nat.min_eq_left (Nat.le_add_right _ _), hslice]
        refine trimmed_append ?_
        rw [List.length_drop, List.length_take]
        omega
      have hrest := ih (by omega) (fun hzero => by omega) hnext hfit' hjoined
      rwa [hfilled] at hrest
    · split
      · next hlong =>
        cases o with
        | ellipsis =>
          have hshort := hfit rfl word List.mem_cons_self
          rw [Trimmed] at hshort
          omega
        | fold =>
          have hne : word ≠ [] := by
            rintro rfl
            exact absurd hlong (by simp [Text.stripEnd, cells])
          obtain ⟨hflatten, hlengths⟩ := hnarrow'.chop hwidth
          obtain ⟨folded, last, hparts, hjoined, hcells, hlast⟩ := hnarrow'.exists_chop_eq hwidth hne
          refine trimmed_starts hfirst hpart (by simp [hparts]) hlengths (by rwa [hflatten]) ?_
          have hlength : word.length = folded.flatten.length + last.length := by
            rw [← hjoined, List.length_append]
          have htrimmed : Trimmed width
              ((t.chars.take (start + word.length)).drop (start + folded.flatten.length)) := by
            rw [hlength, ← Nat.add_assoc, slice_of_isPrefix (prefix_drop_add (hjoined ▸ hword))]
            exact trimmed_of_le hlast
          have hrest := ih (by omega) (fun hzero => by omega) hnext hfit' htrimmed
          have hdifference : start + word.length - (start + folded.flatten.length) = last.length := by omega
          rw [hdifference] at hrest
          simpa [hparts, hcells] using hrest
      · next hshort =>
        have htrimmed : Trimmed width word := by rw [Trimmed]; omega
        split
        · exact List.forall_mem_cons.mpr ⟨hpart, hbroken htrimmed⟩
        · -- at the start of the text nothing is filled
          omega

/-- No word of a text that fits is longer than a line, unless words are folded. -/
lemma Fits.trimmed_words {text : List Char} (h : Fits width o text) (he : o = .ellipsis) :
    ∀ word ∈ Text.words text, Trimmed width word := by
  obtain ⟨hhead, hruns⟩ := h.words he
  rcases flatten_words text with ⟨hnone, -⟩ | ⟨hsome, hflatten⟩
  · rw [hnone]
    nofun
  · have hwords : ∀ word ∈ Text.words text, IsWord word := by
      obtain ⟨w, ws, hcons⟩ := List.exists_cons_of_ne_nil hsome
      obtain ⟨hw, hws⟩ := isWord_of_words hcons
      rw [hcons]
      refine List.forall_mem_cons.mpr ⟨?_, hws⟩
      by_cases hempty : w = []
      · exact ⟨[], [], by simpa using hempty, nofun, nofun⟩
      · rwa [dropWhile_isSpace_of_head fun c hc => ?_] at hw
        rw [head?_words hcons hempty] at hc
        simpa [Option.mem_def.mp hc] using hhead
    intro word hmem
    obtain ⟨run, gap, rfl, hrun, hgap⟩ := hwords word hmem
    have hinfix : run ++ gap <:+: text := hflatten ▸ List.infix_of_mem_flatten hmem
    rw [Trimmed, stripEnd_append hgap]
    exact (stripEnd_isPrefix run).length_le.trans (hruns run ((List.infix_append' [] run gap).trans hinfix) hrun)

/-- Text that fits is broken into parts that fit. -/
lemma Fits.trimmed (h : Fits width o t.chars) (hwidth : 0 < width) :
    ∀ part ∈ t.divide (breaks width o t.chars), Trimmed width part.chars := by
  have hbreaks : ∀ part ∈ t.divideFrom 0 (breaks width o t.chars), Trimmed width part.chars := by
    rcases flatten_words t.chars with ⟨hnone, hspace⟩ | ⟨-, hflatten⟩
    · have hempty : Text.stripEnd t.chars = [] := List.rdropWhile_eq_nil_iff.mpr hspace
      rw [breaks, hnone]
      simp [breaksFrom, Styled.divideFrom, Styled.slice, Styled.length, Trimmed, hempty]
    · exact trimmed_breaksFrom h.narrow hwidth (Nat.le_refl 0) (fun _ => rfl) hflatten.symm h.trimmed_words
        (by simp [Trimmed, Text.stripEnd])
  unfold Styled.divide
  split
  · next hnone => simpa [hnone, Styled.divideFrom, Styled.slice, Styled.length] using hbreaks
  · exact hbreaks

end

end AsyncActions.Terminal
