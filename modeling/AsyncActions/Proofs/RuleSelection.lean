import AsyncActions.Config
import Mathlib.Data.List.Basic
import Mathlib.Tactic.Common

/-!
# Rules selected by id

A selection names rules by their ids, in whatever order and however often. `Picked` says what is left of a list from
which entries are picked by their keys. The rules that run are picked from the configuration, so their order and number
are those of the configuration, while it is the selection that is unknown in part or not. Hence only the set of the
selected ids matters, and a selection can be narrowed down in steps.
-/

namespace AsyncActions

section Picked

variable {α κ : Type} [DecidableEq κ] {key : α → κ} {wanted : κ → Prop} {all picked : List α}

/-- The entries with a key that is wanted: all of each such key, in the order of the list, and no others. -/
structure Picked (key : α → κ) (wanted : κ → Prop) (all picked : List α) : Prop where
  sublist : picked.Sublist all
  sound : ∀ a ∈ picked, wanted (key a)
  complete : ∀ k, wanted k → picked.filter (fun a => key a = k) = all.filter fun a => key a = k

/-- A sublist that has as much of each key as the list leaves nothing out. -/
lemma eq_of_sublist_of_filter_key (key : α → κ) (h : picked.Sublist all)
    (hkey : ∀ a ∈ all, picked.filter (fun b => key b = key a) = all.filter fun b => key b = key a) :
    picked = all := by
  induction h with
  | slnil => rfl
  | @cons picked all a hsub ih =>
    -- the entry that is left out would be missing among those of its key
    have hfirst := hkey a List.mem_cons_self
    rw [List.filter_cons_of_pos (by simp)] at hfirst
    have hle := (hsub.filter fun b => decide (key b = key a)).length_le
    rw [hfirst, List.length_cons] at hle
    omega
  | @cons_cons picked all a hsub ih =>
    refine congrArg (a :: ·) (ih fun b hb => ?_)
    have hrest := hkey b (List.mem_cons_of_mem a hb)
    by_cases hk : key a = key b
    · rw [List.filter_cons_of_pos (by simpa using hk), List.filter_cons_of_pos (by simpa using hk)] at hrest
      exact (List.cons.inj hrest).2
    · rwa [List.filter_cons_of_neg (by simpa using hk), List.filter_cons_of_neg (by simpa using hk)] at hrest

lemma picked_iff [DecidablePred wanted] :
    Picked key wanted all picked ↔ picked = all.filter fun a => wanted (key a) := by
  constructor
  · rintro ⟨hsub, hwanted, hcomplete⟩
    have hself : picked.filter (fun a => wanted (key a)) = picked :=
      List.filter_eq_self.mpr fun a ha => by simpa using hwanted a ha
    have hsub' : picked.Sublist (all.filter fun a => wanted (key a)) := hself ▸ hsub.filter _
    refine eq_of_sublist_of_filter_key key hsub' fun a ha => ?_
    have ha : wanted (key a) := by simpa using (List.mem_filter.mp ha).2
    rw [hcomplete _ ha, List.filter_filter]
    refine List.filter_congr fun b _ => ?_
    by_cases hk : key b = key a
    · simp [hk, ha]
    · simp [hk]
  · rintro rfl
    refine ⟨List.filter_sublist, fun a ha => by simpa using (List.mem_filter.mp ha).2, fun k hk => ?_⟩
    rw [List.filter_filter]
    refine List.filter_congr fun a _ => ?_
    by_cases hkey : key a = k
    · simp [hkey, hk]
    · simp [hkey]

lemma Picked.mem (h : Picked key wanted all picked) {a : α} (ha : a ∈ all) (hwanted : wanted (key a)) : a ∈ picked := by
  have hmem : a ∈ all.filter fun b => key b = key a := List.mem_filter.mpr ⟨ha, by simp⟩
  rw [← h.complete _ hwanted] at hmem
  exact List.mem_of_mem_filter hmem

/-- Picking again, by keys that were wanted before too, gives what they pick at once. -/
lemma Picked.narrow (h : Picked key wanted all picked) {narrower : κ → Prop} (hkey : ∀ k, narrower k → wanted k)
    {fewer : List α} (hfewer : Picked key narrower all fewer) : Picked key narrower picked fewer := by
  classical
  rw [picked_iff] at h hfewer ⊢
  rw [hfewer, h, List.filter_filter]
  refine List.filter_congr fun a _ => ?_
  by_cases ha : narrower (key a)
  · simp [ha, hkey _ ha]
  · simp [ha]

end Picked

namespace Config

/-- Some rule of the configuration has that id. -/
def HasRule (c : Config) (id : String) : Prop := ∃ r ∈ c.rules, r.id = id

instance (c : Config) (id : String) : Decidable (c.HasRule id) := inferInstanceAs (Decidable (∃ r ∈ c.rules, _))

variable {c : Config} {ids later : List String} {rules : List Rule}

lemma unknownIds_eq (c : Config) (ids : List String) : c.unknownIds ids = ids.filter fun id => ¬ c.HasRule id := by
  refine List.filter_congr fun id _ => ?_
  have hknown : c.ruleIds.contains id = decide (c.HasRule id) := by
    rw [Bool.eq_iff_iff, List.contains_iff_mem, decide_eq_true_iff]
    exact List.mem_map
  rw [hknown, decide_not]

lemma unknownIds_eq_nil_iff : c.unknownIds ids = [] ↔ ∀ id ∈ ids, c.HasRule id := by
  simp [unknownIds_eq]

lemma picked_unknown_iff {unknown : List String} :
    Picked (fun id => id) (fun id => ¬ c.HasRule id) ids unknown ↔ unknown = c.unknownIds ids := by
  rw [unknownIds_eq]
  exact picked_iff

lemma picked_rules_iff : Picked Rule.id (· ∈ ids) c.rules rules ↔ rules = c.rules.filter fun r => ids.contains r.id := by
  rw [picked_iff]
  simp

lemma enabled_of_known (h : ∀ id ∈ ids, c.HasRule id) :
    c.enabled (some ids) = .ok (c.rules.filter fun r => ids.contains r.id) :=
  if_pos (unknownIds_eq_nil_iff.mpr h)

lemma enabled_of_unknown (h : ¬ ∀ id ∈ ids, c.HasRule id) :
    c.enabled (some ids) = .error (.unknownRules (c.unknownIds ids)) :=
  if_neg fun hnil => h (unknownIds_eq_nil_iff.mp hnil)

/-- A selection of known ids picks the rules with these ids. -/
lemma enabled_eq_ok_iff :
    c.enabled (some ids) = .ok rules ↔ (∀ id ∈ ids, c.HasRule id) ∧ Picked Rule.id (· ∈ ids) c.rules rules := by
  rw [picked_rules_iff]
  by_cases h : ∀ id ∈ ids, c.HasRule id
  · rw [enabled_of_known h, Except.ok.injEq]
    exact ⟨fun hr => ⟨h, hr.symm⟩, fun hr => hr.2.symm⟩
  · rw [enabled_of_unknown h]
    exact ⟨nofun, fun hr => absurd hr.1 h⟩

/-- Any other is refused, and the error names the unknown ids. -/
lemma enabled_eq_error_iff {e : ConfigError} :
    c.enabled (some ids) = .error e ↔ (∃ id ∈ ids, ¬ c.HasRule id) ∧ e = .unknownRules (c.unknownIds ids) := by
  have hnot : (∃ id ∈ ids, ¬ c.HasRule id) ↔ ¬ ∀ id ∈ ids, c.HasRule id := by simp
  rw [hnot]
  by_cases h : ∀ id ∈ ids, c.HasRule id
  · rw [enabled_of_known h]
    exact ⟨nofun, fun he => absurd h he.1⟩
  · rw [enabled_of_unknown h, Except.error.injEq]
    exact ⟨fun he => ⟨h, he.symm⟩, fun he => he.2.symm⟩

/-- Only which ids are selected matters, also to whether there is an error. -/
lemma toOption_enabled_congr {others : List String} (h : ∀ id, id ∈ ids ↔ id ∈ others) :
    (c.enabled (some ids)).toOption = (c.enabled (some others)).toOption := by
  by_cases hknown : ∀ id ∈ ids, c.HasRule id
  · have hothers : ∀ id ∈ others, c.HasRule id := fun id hid => hknown id ((h id).mpr hid)
    have hfilter : (c.rules.filter fun r => ids.contains r.id) = c.rules.filter fun r => others.contains r.id :=
      List.filter_congr fun r _ => by simp [h]
    rw [enabled_of_known hknown, enabled_of_known hothers, hfilter]
  · have hothers : ¬ ∀ id ∈ others, c.HasRule id := fun hall => hknown fun id hid => hall id ((h id).mp hid)
    rw [enabled_of_unknown hknown, enabled_of_unknown hothers]
    rfl

lemma enabled_all (h : ∀ id, id ∈ ids ↔ c.HasRule id) : c.enabled (some ids) = .ok c.rules := by
  have hall : (c.rules.filter fun r => ids.contains r.id) = c.rules :=
    List.filter_eq_self.mpr fun r hr => List.contains_iff_mem.mpr ((h r.id).mpr ⟨r, hr, rfl⟩)
  rw [enabled_of_known fun id hid => (h id).mp hid, hall]

/-- Some of the ids that were selected select the same from the rules that these gave and from all rules. -/
lemma enabled_narrow (h : c.enabled (some ids) = .ok rules) (hlater : later ⊆ ids) :
    ∃ chosen, c.enabled (some later) = .ok chosen ∧ ({ c with rules }).enabled (some later) = .ok chosen := by
  obtain ⟨hknown, hpicked⟩ := enabled_eq_ok_iff.mp h
  have hlaterKnown : ∀ id ∈ later, c.HasRule id := fun id hid => hknown id (hlater hid)
  refine ⟨_, enabled_of_known hlaterKnown, enabled_eq_ok_iff.mpr ⟨fun id hid => ?_, ?_⟩⟩
  · obtain ⟨r, hr, rfl⟩ := hlaterKnown id hid
    exact ⟨r, hpicked.mem hr (hlater hid), rfl⟩
  · exact hpicked.narrow (fun id hid => hlater hid) (picked_rules_iff.mpr rfl)

/-- A selection picks the rules with these ids from those that are configured, in the order of the configuration and as
often as they stand there. It is refused exactly if there is no rule of some id, and the error names all such ids, as
often as they were selected and in that order. So selections of the same ids are accepted alike and give the same
rules, the ids of all rules select all of them, and some of the ids that were selected before give the same whether
they select from the rules that these gave or from all. -/
theorem enabled_selects (c : Config) (ids : List String) :
    (∀ rules, c.enabled (some ids) = .ok rules ↔
      (∀ id ∈ ids, c.HasRule id) ∧ Picked Rule.id (· ∈ ids) c.rules rules) ∧
    ((∃ e, c.enabled (some ids) = .error e) ↔ ∃ id ∈ ids, ¬ c.HasRule id) ∧
    (∀ e, c.enabled (some ids) = .error e →
      ∃ unknown, Picked (fun id => id) (fun id => ¬ c.HasRule id) ids unknown ∧ e = .unknownRules unknown ∧
        e.message = "Unknown rule id(s): " ++ ", ".intercalate unknown) ∧
    (∀ others, (∀ id, id ∈ ids ↔ id ∈ others) →
      (c.enabled (some ids)).toOption = (c.enabled (some others)).toOption) ∧
    ((∀ id, id ∈ ids ↔ c.HasRule id) → c.enabled (some ids) = .ok c.rules) ∧
    ∀ rules, c.enabled (some ids) = .ok rules → ∀ later ⊆ ids, ∃ chosen,
      c.enabled (some later) = .ok chosen ∧ ({ c with rules }).enabled (some later) = .ok chosen := by
  refine ⟨fun rules => enabled_eq_ok_iff, by simp [enabled_eq_error_iff], fun e he => ?_,
    fun others => toOption_enabled_congr, enabled_all, fun rules hrules later => enabled_narrow hrules⟩
  obtain ⟨-, rfl⟩ := enabled_eq_error_iff.mp he
  exact ⟨_, picked_unknown_iff.mpr rfl, rfl, rfl⟩

/-- A rule of that id, which has nothing to say. -/
def silent (id : String) : Rule := .bare id fun _ _ => ⟨[], none, []⟩

/-- Rules of three ids, of which one is there twice. -/
def repeatedRules : Config := ⟨[silent "b", silent "a", silent "b", silent "c"], [], []⟩

/-- The rules keep their order and number, and an unknown id is named as often as it is selected. -/
theorem enabled_selects_repeatedRules :
    let c := repeatedRules
    let found := [silent "b", silent "a", silent "b"]
    ((∀ id ∈ ["a", "b", "a"], c.HasRule id) ∧ (∀ id, id ∈ ["a", "b", "a"] ↔ id ∈ ["b", "a"]) ∧
        (∀ id, id ∈ ["c", "a", "b"] ↔ c.HasRule id) ∧ ["b"] ⊆ ["a", "b", "a"]) ∧
      c.enabled (some ["a", "b", "a"]) = .ok found ∧
      (∃ e, c.enabled (some ["x", "a", "y", "x"]) = .error e ∧ e.message = "Unknown rule id(s): x, y, x") ∧
      (c.enabled (some ["a", "b", "a"])).toOption = (c.enabled (some ["b", "a"])).toOption ∧
      c.enabled (some ["c", "a", "b"]) = .ok c.rules ∧
      ∃ chosen, c.enabled (some ["b"]) = .ok chosen ∧ ({ c with rules := found }).enabled (some ["b"]) = .ok chosen := by
  intro c found
  have hknown : ∀ id ∈ ["a", "b", "a"], c.HasRule id := by decide
  have hsame : ∀ id, id ∈ ["a", "b", "a"] ↔ id ∈ ["b", "a"] := by
    intro id
    simp only [List.mem_cons, List.not_mem_nil, or_false]
    tauto
  have hall : ∀ id, id ∈ ["c", "a", "b"] ↔ c.HasRule id := by
    intro id
    have hrules : c.HasRule id ↔ id ∈ ["b", "a", "b", "c"] := (@List.mem_map _ _ id Rule.id c.rules).symm
    rw [hrules]
    simp only [List.mem_cons, List.not_mem_nil, or_false]
    tauto
  obtain ⟨hok, -, -, hcongr, -, hnarrow⟩ := enabled_selects c ["a", "b", "a"]
  have hsome : c.enabled (some ["a", "b", "a"]) = .ok found := (hok found).mpr ⟨hknown, picked_rules_iff.mpr rfl⟩
  obtain ⟨-, hexists, herror, -⟩ := enabled_selects c ["x", "a", "y", "x"]
  obtain ⟨e, he⟩ := hexists.mpr ⟨"x", by decide, by decide⟩
  obtain ⟨unknown, hunknown, -, hmessage⟩ := herror e he
  have hids : unknown = ["x", "y", "x"] := by
    rw [picked_unknown_iff.mp hunknown]
    decide
  refine ⟨⟨hknown, hsame, hall, by simp⟩, hsome, ⟨e, he, ?_⟩, hcongr _ hsame,
    (enabled_selects c ["c", "a", "b"]).2.2.2.2.1 hall, hnarrow found hsome ["b"] (by simp)⟩
  rw [hmessage, hids]
  rfl

end Config

end AsyncActions
