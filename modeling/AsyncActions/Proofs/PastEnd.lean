import AsyncActions.Proofs.Splice

/-!
# Fixes past the end of the source

Each fix is held against the buffer as it has grown so far, and not against the source. That is enough: the
highest offset comes first, while the buffer is still the source, and if it is in range so are all others. So
applying fixes fails exactly if one of them lies past the end of the source, and the error speaks of the highest.
-/

namespace AsyncActions.Fix

/-- No fix of the list has a greater offset. -/
def IsHighest (fixes : List Fix) (top : Fix) : Prop := top ∈ fixes ∧ ∀ f ∈ fixes, f.offset ≤ top.offset

section

variable {fixes : List Fix} {source : Bytes}

lemma exists_mem_applied {f : Fix} (hf : f ∈ fixes) : ∃ g ∈ applied fixes, g.offset = f.offset := by
  have hsome : (fixes.find? (·.offset = f.offset)).isSome := List.find?_isSome.mpr ⟨f, hf, by simp⟩
  obtain ⟨g, hg⟩ := Option.isSome_iff_exists.mp hsome
  have hoffset : g.offset = f.offset := by simpa using List.find?_some hg
  exact ⟨g, mem_applied.mpr (hoffset ▸ hg), hoffset⟩

/-- Of the fixes that count, the last one has the greatest offset of all. -/
lemma isHighest_of_applied {lower : List Fix} {top : Fix} (h : applied fixes = lower ++ [top]) :
    IsHighest fixes top := by
  have hmem : top ∈ applied fixes := h ▸ List.mem_append_right _ List.mem_cons_self
  refine ⟨mem_of_mem_applied hmem, fun f hf => ?_⟩
  obtain ⟨g, hg, hoffset⟩ := exists_mem_applied hf
  have hpairs := applied_pairwise fixes
  rw [h] at hg hpairs
  rcases List.mem_append.mp hg with hg | hg
  · have := (List.pairwise_append.mp hpairs).2.2 g hg top List.mem_cons_self
    omega
  · rw [List.mem_singleton.mp hg] at hoffset
    omega

lemma exists_last_applied {f : Fix} (hf : f ∈ fixes) :
    ∃ lower top, applied fixes = lower ++ [top] ∧ IsHighest fixes top := by
  rcases List.eq_nil_or_concat' (applied fixes) with hnil | ⟨lower, top, hlast⟩
  · obtain ⟨g, hg, -⟩ := exists_mem_applied hf
    rw [hnil] at hg
    cases hg
  · exact ⟨lower, top, hlast, isHighest_of_applied hlast⟩

/-- The highest fix is held against the source as it was. -/
lemma applyAll_of_highest {top : Fix} (h : IsHighest fixes top) (hpast : source.length < top.offset) :
    applyAll source fixes = .error (.pastEnd top.offset source.length) := by
  obtain ⟨htop, hle⟩ := h
  -- another fix may be listed first at the same offset, so the one that is applied need not be `top` itself
  obtain ⟨lower, last, hlast, hmem, hge⟩ := exists_last_applied htop
  have hoffset : last.offset = top.offset := Nat.le_antisymm (hle last hmem) (hge top htop)
  have hfirst : insertInto source last = .error (.pastEnd top.offset source.length) := by
    rw [insertInto, if_pos (hoffset ▸ hpast), hoffset]
  have hfold : (applied fixes).reverse.foldlM insertInto source =
      .error (.pastEnd top.offset source.length) := by
    rw [hlast, List.reverse_concat, List.foldlM_cons, hfirst]
    rfl
  exact congrArg (Except.map fun result => Edited.mk result (applied fixes)) hfold

/-- The error is that of the highest fix, and no other. -/
lemma applyAll_eq_error_iff {e : EditError} : applyAll source fixes = .error e ↔
    ∃ top, IsHighest fixes top ∧ source.length < top.offset ∧ e = .pastEnd top.offset source.length := by
  constructor
  · intro h
    by_cases hb : ∃ f ∈ fixes, source.length < f.offset
    · obtain ⟨f, hf, hpast⟩ := hb
      obtain ⟨-, top, -, htop⟩ := exists_last_applied hf
      have hpast : source.length < top.offset := Nat.lt_of_lt_of_le hpast (htop.2 f hf)
      rw [applyAll_of_highest htop hpast] at h
      exact ⟨top, htop, hpast, (Except.error.inj h).symm⟩
    · have hin : ∀ f ∈ fixes, f.offset ≤ source.length :=
        fun f hf => Nat.not_lt.mp fun hpast => hb ⟨f, hf, hpast⟩
      rw [applyAll_eq hin] at h
      cases h
  · rintro ⟨top, htop, hpast, rfl⟩
    exact applyAll_of_highest htop hpast

lemma isHighest_of_same_offsets {others : List Fix}
    (h : ∀ offset, offset ∈ others.map (·.offset) ↔ offset ∈ fixes.map (·.offset)) {top : Fix}
    (htop : IsHighest fixes top) : ∃ g, IsHighest others g ∧ g.offset = top.offset := by
  obtain ⟨g, hg, hoffset⟩ := List.mem_map.mp ((h top.offset).mpr (List.mem_map_of_mem htop.1))
  refine ⟨g, ⟨hg, fun k hk => ?_⟩, hoffset⟩
  obtain ⟨f, hf, hf'⟩ := List.mem_map.mp ((h k.offset).mp (List.mem_map_of_mem hk))
  have := htop.2 f hf
  omega

end

/-- Applying fixes fails exactly if one of them, counted or not, is past the end of the source as it was. The error
then names the greatest offset of the list and the size of that source. Fixes at the same offsets fail in the same
way, in whatever order they are listed and whatever their texts are. -/
theorem applyAll_past_end (source : Bytes) (fixes : List Fix) :
    ((∃ e, applyAll source fixes = .error e) ↔ ∃ f ∈ fixes, source.length < f.offset) ∧
      (∀ e, applyAll source fixes = .error e → ∃ top, IsHighest fixes top ∧
        e = .pastEnd top.offset source.length ∧
        e.message = s!"Fix offset {top.offset} is past end of source ({source.length} bytes)") ∧
      ∀ others : List Fix, (∀ offset, offset ∈ others.map (·.offset) ↔ offset ∈ fixes.map (·.offset)) →
        ∀ e, applyAll source fixes = .error e → applyAll source others = .error e := by
  refine ⟨⟨?_, ?_⟩, ?_, ?_⟩
  · rintro ⟨e, he⟩
    obtain ⟨top, htop, hpast, -⟩ := applyAll_eq_error_iff.mp he
    exact ⟨top, htop.1, hpast⟩
  · rintro ⟨f, hf, hpast⟩
    obtain ⟨-, top, -, htop⟩ := exists_last_applied hf
    exact ⟨_, applyAll_of_highest htop (Nat.lt_of_lt_of_le hpast (htop.2 f hf))⟩
  · intro e he
    obtain ⟨top, htop, -, rfl⟩ := applyAll_eq_error_iff.mp he
    exact ⟨top, htop, rfl, rfl⟩
  · intro others hsame e he
    obtain ⟨top, htop, hpast, rfl⟩ := applyAll_eq_error_iff.mp he
    obtain ⟨g, hg, hoffset⟩ := isHighest_of_same_offsets hsame htop
    exact applyAll_eq_error_iff.mpr ⟨g, hg, hoffset ▸ hpast, by rw [hoffset]⟩

/-- Two fixes at one offset past the end, and long texts at the start and at the end that would make up for it. The
same offsets without the texts and in another order fail in the same way. -/
theorem applyAll_past_end_longTexts :
    let fix (offset : Nat) (text : String) : Fix := ⟨offset, text, .after 0, .after offset⟩
    let fixes := [fix 0 "a long text", fix 4 "", fix 2 "another one", fix 4 "x", fix 3 "é"]
    let others := [fix 2 "", fix 3 "", fix 0 "", fix 4 "y"]
    (∃ f ∈ fixes, [97, 98].length < f.offset) ∧
      (∀ offset, offset ∈ others.map (·.offset) ↔ offset ∈ fixes.map (·.offset)) ∧
      applyAll [97, 98] fixes = .error (.pastEnd 4 2) ∧ applyAll [97, 98] others = .error (.pastEnd 4 2) := by
  intro fix fixes others
  have hpast : ∃ f ∈ fixes, [97, 98].length < f.offset := by decide
  have hleft : ∀ offset ∈ others.map (·.offset), offset ∈ fixes.map (·.offset) := by decide
  have hright : ∀ offset ∈ fixes.map (·.offset), offset ∈ others.map (·.offset) := by decide
  have hsame : ∀ offset, offset ∈ others.map (·.offset) ↔ offset ∈ fixes.map (·.offset) :=
    fun offset => ⟨hleft offset, hright offset⟩
  obtain ⟨hfails, hnames, hothers⟩ := applyAll_past_end [97, 98] fixes
  obtain ⟨e, he⟩ := hfails.mpr hpast
  obtain ⟨top, htop, rfl, -⟩ := hnames e he
  have hoffset : top.offset = 4 := Nat.le_antisymm
    ((by decide : ∀ f ∈ fixes, f.offset ≤ 4) top htop.1) (htop.2 (fix 4 "") (by decide))
  rw [hoffset] at he
  exact ⟨hpast, hsame, he, hothers others hsame _ he⟩

end AsyncActions.Fix
