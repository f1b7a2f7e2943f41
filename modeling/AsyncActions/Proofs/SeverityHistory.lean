import AsyncActions.Config
import AsyncActions.Proofs.Lookup
import Mathlib.Data.List.Basic
import Mathlib.Data.List.Induction

/-!
# Severities set one after the other

Each change of severities gives a new configuration, and a change that is refused leaves things as they are. So
after any number of changes it is the last one that names a rule that decides its severity, and changes that name
different rules may change places.

A configuration lies in memory as parts that can be written in place. `Memory.setSeverity` copies all of them and
writes into the copy, so whatever was there before can be read as before, however many changes follow.
-/

namespace AsyncActions

/-- A change of severities, for the rules of these ids or for all rules of the configuration. -/
structure SeverityChange where
  severity : String
  ids : Option (List String)

namespace SeverityChange

/-- The severity that is meant, in whatever case it is written. -/
def level (ch : SeverityChange) : String := Text.lower ch.severity

/-- There is such a severity. -/
def Accepted (ch : SeverityChange) : Prop := ch.level ∈ ["error", "warning", "info"]

instance (ch : SeverityChange) : Decidable ch.Accepted := inferInstanceAs (Decidable (_ ∈ _))

end SeverityChange

namespace Config

/-- The ids that the change names. -/
def targets (c : Config) (ch : SeverityChange) : List String := ch.ids.getD c.ruleIds

/-- The change decides the severity of the rule, unless a later one does. -/
def Decides (c : Config) (id : String) (ch : SeverityChange) : Prop := ch.Accepted ∧ id ∈ c.targets ch

instance (c : Config) (id : String) (ch : SeverityChange) : Decidable (c.Decides id ch) :=
  inferInstanceAs (Decidable (_ ∧ _))

/-- The configuration after a change. If it is refused, that is the configuration as it was. -/
def changed (c : Config) (ch : SeverityChange) : Config :=
  match c.withSeverity ch.severity ch.ids with
  | .ok d => d
  | .error _ => c

/-- The configuration after changes one after the other. -/
def after (c : Config) (changes : List SeverityChange) : Config := changes.foldl changed c

/-- What the last change says that decides the severity of the rule. -/
def lastLevel? (c : Config) (changes : List SeverityChange) (id : String) : Option String :=
  ((changes.filter fun ch => c.Decides id ch).getLast?).map (·.level)

/-- The same rules and ignored directories, and the same override for each rule. -/
structure Same (c d : Config) : Prop where
  rules : c.rules = d.rules
  ignored : c.ignored = d.ignored
  severity : ∀ id, c.severity.lookup id = d.severity.lookup id

end Config

/-- Parts of configurations, each at an address, where it can be written in place. What is new goes to an
address of its own. -/
structure Memory where
  rules : List (List Rule)
  overrides : List Severities
  ignored : List (List String)

/-- Where the parts of a configuration are. -/
structure Handle where
  rules : Nat
  severity : Nat
  ignored : Nat

namespace Memory

def config (m : Memory) (h : Handle) : Config :=
  ⟨m.rules.getD h.rules [], m.overrides.getD h.severity [], m.ignored.getD h.ignored []⟩

/-- Each part of the configuration is there. -/
structure Holds (m : Memory) (h : Handle) : Prop where
  rules : h.rules < m.rules.length
  severity : h.severity < m.overrides.length
  ignored : h.ignored < m.ignored.length

/-- Copies of the parts of a configuration. -/
def copy (m : Memory) (h : Handle) : Memory × Handle :=
  let c := m.config h
  (⟨m.rules ++ [c.rules], m.overrides ++ [c.severity], m.ignored ++ [c.ignored]⟩,
    ⟨m.rules.length, m.overrides.length, m.ignored.length⟩)

/-- Write one override into a table that is there. -/
def write (m : Memory) (address : Nat) (severity id : String) : Memory :=
  { m with overrides := m.overrides.modify address (·.put severity id) }

/-- Set a severity in a copy of a configuration, id after id. -/
def setSeverity (m : Memory) (h : Handle) (ch : SeverityChange) : Except ConfigError (Memory × Handle) :=
  if severities.contains ch.level then
    let h' := (m.copy h).2
    .ok (((m.config h).targets ch).foldl (fun m id => m.write h'.severity ch.level id) (m.copy h).1, h')
  else .error (.unknownSeverity ch.level)

/-- Changes one after the other, each of the configuration that the one before gave. -/
def run (m : Memory) (h : Handle) : List SeverityChange → Memory × Handle
  | [] => (m, h)
  | ch :: changes =>
    match m.setSeverity h ch with
    | .ok (m', h') => m'.run h' changes
    | .error _ => m.run h changes

end Memory

namespace Severities

lemma lookup_put (overrides : Severities) (severity id key : String) :
    (overrides.put severity id).lookup key = if key = id then some severity else overrides.lookup key := by
  rw [put, List.lookup_cons]
  by_cases h : key = id
  · simp [h]
  · have hbeq : (key == id) = false := by simpa using h
    rw [hbeq, if_neg h]
    exact lookup_filter_ne h

lemma lookup_putAll (overrides : Severities) (severity : String) (ids : List String) (key : String) :
    (overrides.putAll severity ids).lookup key = if key ∈ ids then some severity else overrides.lookup key := by
  induction ids generalizing overrides with
  | nil => rfl
  | cons id ids ih =>
    have hstep : overrides.putAll severity (id :: ids) = (overrides.put severity id).putAll severity ids := rfl
    rw [hstep, ih, lookup_put]
    by_cases hid : key = id
    · simp [hid]
    · simp [hid]

end Severities

namespace Config

variable {c : Config} {ch : SeverityChange} {id : String}

/-- What a change makes of a configuration, if it is accepted, and the error if it is not. -/
lemma withSeverity_eq (c : Config) (ch : SeverityChange) :
    c.withSeverity ch.severity ch.ids =
      if ch.Accepted then .ok { c with severity := c.severity.putAll ch.level (c.targets ch) }
      else .error (.unknownSeverity ch.level) := by
  simp only [withSeverity, List.contains_iff_mem]
  rfl

lemma changed_of_accepted (h : ch.Accepted) :
    c.changed ch = { c with severity := c.severity.putAll ch.level (c.targets ch) } := by
  rw [changed, withSeverity_eq, if_pos h]

lemma changed_of_not_accepted (h : ¬ ch.Accepted) : c.changed ch = c := by
  rw [changed, withSeverity_eq, if_neg h]

lemma rules_changed (c : Config) (ch : SeverityChange) : (c.changed ch).rules = c.rules := by
  by_cases h : ch.Accepted
  · rw [changed_of_accepted h]
  · rw [changed_of_not_accepted h]

lemma ignored_changed (c : Config) (ch : SeverityChange) : (c.changed ch).ignored = c.ignored := by
  by_cases h : ch.Accepted
  · rw [changed_of_accepted h]
  · rw [changed_of_not_accepted h]

lemma lookup_changed (c : Config) (ch : SeverityChange) (id : String) :
    (c.changed ch).severity.lookup id = if c.Decides id ch then some ch.level else c.severity.lookup id := by
  by_cases h : ch.Accepted
  · rw [changed_of_accepted h, Severities.lookup_putAll]
    simp [Decides, h]
  · rw [changed_of_not_accepted h, if_neg fun hd => h hd.1]

/-! ### Many changes -/

lemma after_concat (c : Config) (changes : List SeverityChange) (ch : SeverityChange) :
    c.after (changes ++ [ch]) = (c.after changes).changed ch := by
  rw [after, List.foldl_concat]
  rfl

lemma rules_after (c : Config) (changes : List SeverityChange) : (c.after changes).rules = c.rules := by
  induction changes using List.reverseRecOn with
  | nil => rfl
  | append_singleton changes ch ih => rw [after_concat, rules_changed, ih]

lemma ignored_after (c : Config) (changes : List SeverityChange) : (c.after changes).ignored = c.ignored := by
  induction changes using List.reverseRecOn with
  | nil => rfl
  | append_singleton changes ch ih => rw [after_concat, ignored_changed, ih]

lemma decides_after (c : Config) (changes : List SeverityChange) :
    (c.after changes).Decides id ch ↔ c.Decides id ch := by
  -- the rules stay, so even a change of all rules means the same rules later on
  rw [Decides, Decides, targets, targets, ruleIds, ruleIds, rules_after]

lemma lastLevel?_concat (c : Config) (changes : List SeverityChange) (ch : SeverityChange) (id : String) :
    c.lastLevel? (changes ++ [ch]) id =
      if c.Decides id ch then some ch.level else c.lastLevel? changes id := by
  rw [lastLevel?, lastLevel?, List.filter_append]
  by_cases h : c.Decides id ch
  · simp [h]
  · simp [h]

/-- The override of a rule after changes is that of the last one that decides it, else the one at the start. -/
lemma lookup_after (c : Config) (changes : List SeverityChange) (id : String) :
    (c.after changes).severity.lookup id = (c.lastLevel? changes id).or (c.severity.lookup id) := by
  induction changes using List.reverseRecOn with
  | nil => rfl
  | append_singleton changes ch ih =>
    simp only [after_concat, lookup_changed, decides_after, lastLevel?_concat, ih]
    by_cases h : c.Decides id ch
    · simp [h]
    · simp [h]

lemma severityFor_after (c : Config) (changes : List SeverityChange) (id : String) :
    (c.after changes).severityFor id =
      (c.lastLevel? changes id).getD ((c.severity.lookup id).getD "warning") := by
  rw [severityFor, lookup_after]
  cases c.lastLevel? changes id with
  | some level => rfl
  | none => rfl

lemma lastLevel?_swap {ch ch' : SeverityChange} (h : (c.targets ch).Disjoint (c.targets ch'))
    (before later : List SeverityChange) (id : String) :
    c.lastLevel? (before ++ ch :: ch' :: later) id = c.lastLevel? (before ++ ch' :: ch :: later) id := by
  have hone : ¬ (c.Decides id ch ∧ c.Decides id ch') := fun ⟨hd, hd'⟩ => h hd.2 hd'.2
  -- one of the two at most is left by the filter, so their order is lost
  have hfilter : [ch, ch'].filter (fun ch => c.Decides id ch) = [ch', ch].filter (fun ch => c.Decides id ch) := by
    by_cases hd : c.Decides id ch
    · have hd' : ¬ c.Decides id ch' := fun hd' => hone ⟨hd, hd'⟩
      simp [hd, hd']
    · simp [List.filter_cons, hd]
  have hsplit (x y : SeverityChange) : before ++ x :: y :: later = before ++ ([x, y] ++ later) := rfl
  rw [lastLevel?, lastLevel?, hsplit, hsplit, List.filter_append, List.filter_append, List.filter_append,
    List.filter_append, hfilter]

lemma same_swap {ch ch' : SeverityChange} (h : (c.targets ch).Disjoint (c.targets ch'))
    (before later : List SeverityChange) :
    (c.after (before ++ ch :: ch' :: later)).Same (c.after (before ++ ch' :: ch :: later)) where
  rules := by rw [rules_after, rules_after]
  ignored := by rw [ignored_after, ignored_after]
  severity id := by rw [lookup_after, lookup_after, lastLevel?_swap h]

end Config

/-! ### Changes in memory -/

namespace Memory

variable {m : Memory} {g h : Handle}

/-- Copying gives a configuration that shares no part with those that were there, and these stay. -/
lemma copy_spec (m : Memory) (h : Handle) :
    (m.copy h).1.Holds (m.copy h).2 ∧ (m.copy h).1.config (m.copy h).2 = m.config h ∧
      ∀ g, m.Holds g → g.severity ≠ (m.copy h).2.severity ∧ (m.copy h).1.Holds g ∧
        (m.copy h).1.config g = m.config g := by
  refine ⟨⟨by simp [copy], by simp [copy], by simp [copy]⟩, by simp [copy, config], fun g hg => ?_⟩
  obtain ⟨hr, hs, hi⟩ := hg
  refine ⟨Nat.ne_of_lt hs, ⟨?_, ?_, ?_⟩, ?_⟩
  · simp only [copy, List.length_append, List.length_singleton]
    omega
  · simp only [copy, List.length_append, List.length_singleton]
    omega
  · simp only [copy, List.length_append, List.length_singleton]
    omega
  · simp [copy, config, List.getElem?_append_left, hr, hs, hi]

lemma Holds.write (hg : m.Holds g) (address : Nat) (severity id : String) :
    (m.write address severity id).Holds g :=
  ⟨hg.rules, by simpa [Memory.write] using hg.severity, hg.ignored⟩

lemma config_write_of_ne {address : Nat} (hne : g.severity ≠ address) (severity id : String) :
    (m.write address severity id).config g = m.config g := by
  have hget : (m.overrides.modify address (·.put severity id))[g.severity]? = m.overrides[g.severity]? :=
    List.getElem?_modify_ne _ _ (Ne.symm hne)
  simp [write, config, hget]

lemma config_write (hh : m.Holds h) (severity id : String) :
    (m.write h.severity severity id).config h =
      { m.config h with severity := (m.config h).severity.put severity id } := by
  obtain ⟨overrides, hget⟩ : ∃ overrides, m.overrides[h.severity]? = some overrides :=
    ⟨_, List.getElem?_eq_getElem hh.severity⟩
  simp [write, config, hget]

lemma foldl_write (severity : String) (ids : List String) (hh : m.Holds h) :
    let m' := ids.foldl (fun m id => m.write h.severity severity id) m
    m'.config h = { m.config h with severity := (m.config h).severity.putAll severity ids } ∧
      ∀ g, m.Holds g → m'.Holds g ∧ (g.severity ≠ h.severity → m'.config g = m.config g) := by
  induction ids generalizing m with
  | nil => exact ⟨rfl, fun g hg => ⟨hg, fun _ => rfl⟩⟩
  | cons id ids ih =>
    obtain ⟨hself, hothers⟩ := ih (hh.write h.severity severity id)
    refine ⟨?_, fun g hg => ?_⟩
    · rw [List.foldl_cons, hself, config_write hh]
      rfl
    · obtain ⟨hholds, hsame⟩ := hothers g (hg.write h.severity severity id)
      exact ⟨hholds, fun hne => (hsame hne).trans (config_write_of_ne hne severity id)⟩

/-- A change in memory gives what `withSeverity` gives, and all that was there before stays. -/
lemma setSeverity_spec (m : Memory) (h : Handle) (ch : SeverityChange) :
    (∃ m' h', m.setSeverity h ch = .ok (m', h') ∧ (m.config h).withSeverity ch.severity ch.ids = .ok (m'.config h') ∧
        m'.Holds h' ∧ ∀ g, m.Holds g → m'.Holds g ∧ m'.config g = m.config g) ∨
      ∃ e, m.setSeverity h ch = .error e ∧ (m.config h).withSeverity ch.severity ch.ids = .error e := by
  rw [Config.withSeverity_eq]
  by_cases ha : ch.Accepted
  · left
    obtain ⟨hcopied, hsame, hold⟩ := copy_spec m h
    obtain ⟨hself, hothers⟩ := foldl_write ch.level ((m.config h).targets ch) hcopied
    have hlisted : severities.contains ch.level = true := List.contains_iff_mem.mpr ha
    refine ⟨_, _, if_pos hlisted, ?_, (hothers _ hcopied).1, fun g hg => ?_⟩
    · rw [if_pos ha, hself, hsame]
    · obtain ⟨hne, hholds, hconfig⟩ := hold g hg
      obtain ⟨hholds', hconfig'⟩ := hothers g hholds
      exact ⟨hholds', (hconfig' hne).trans hconfig⟩
  · right
    have hlisted : ¬ severities.contains ch.level = true := fun h => ha (List.contains_iff_mem.mp h)
    exact ⟨_, if_neg hlisted, if_neg ha⟩

/-- A run of changes in memory ends at the configuration after them, and leaves what was there before. -/
lemma run_spec (changes : List SeverityChange) (hh : m.Holds h) :
    (m.run h changes).1.Holds (m.run h changes).2 ∧
      (m.run h changes).1.config (m.run h changes).2 = (m.config h).after changes ∧
      ∀ g, m.Holds g → (m.run h changes).1.Holds g ∧ (m.run h changes).1.config g = m.config g := by
  induction changes generalizing m h with
  | nil => exact ⟨hh, rfl, fun g hg => ⟨hg, rfl⟩⟩
  | cons ch changes ih =>
    have hafter : (m.config h).after (ch :: changes) = ((m.config h).changed ch).after changes := rfl
    rw [run, hafter, Config.changed]
    rcases setSeverity_spec m h ch with ⟨m', h', hset, hwith, hh', hold⟩ | ⟨e, hset, hwith⟩
    · rw [hset, hwith]
      obtain ⟨hholds, hconfig, hkept⟩ := ih hh'
      refine ⟨hholds, hconfig, fun g hg => ?_⟩
      obtain ⟨hg', hsame⟩ := hold g hg
      obtain ⟨hg'', hsame'⟩ := hkept g hg'
      exact ⟨hg'', hsame'.trans hsame⟩
    · rw [hset, hwith]
      exact ih hh

lemma run_append (m : Memory) (h : Handle) (changes later : List SeverityChange) :
    m.run h (changes ++ later) = (m.run h changes).1.run (m.run h changes).2 later := by
  induction changes generalizing m h with
  | nil => rfl
  | cons ch changes ih =>
    rw [List.cons_append, run, run]
    cases m.setSeverity h ch with
    | ok next => exact ih next.1 next.2
    | error _ => exact ih m h

end Memory

namespace Config

/-- After any changes one after the other, the severity of a rule is that of the last one that was accepted and names
it, else the one it had at the start; rules and ignored directories stay. A change is refused if there is no such
severity, and then nothing changes. Two neighbouring changes of different rules may change places, with the same
outcome whatever follows. In memory the configurations before a change, and all others that were there, can still be
read as they were, however many changes follow. -/
theorem severities_in_turn (c : Config) (changes : List SeverityChange) :
    (∀ id, (c.after changes).severityFor id =
        (c.lastLevel? changes id).getD ((c.severity.lookup id).getD "warning")) ∧
      (c.after changes).rules = c.rules ∧ (c.after changes).ignored = c.ignored ∧
      (∀ ch : SeverityChange,
        ((∃ d, (c.after changes).withSeverity ch.severity ch.ids = .ok d) ↔ ch.Accepted) ∧
        (¬ ch.Accepted →
          (c.after changes).withSeverity ch.severity ch.ids = .error (.unknownSeverity ch.level) ∧
          c.after (changes ++ [ch]) = c.after changes)) ∧
      (∀ ch ch' later, (c.targets ch).Disjoint (c.targets ch') →
        (c.after (changes ++ ch :: ch' :: later)).Same (c.after (changes ++ ch' :: ch :: later))) ∧
      ∀ (m : Memory) (h : Handle), m.Holds h → m.config h = c →
        let now := m.run h changes
        now.1.config now.2 = c.after changes ∧
        ∀ later, let last := m.run h (changes ++ later)
          last.1.config last.2 = c.after (changes ++ later) ∧ last.1.config now.2 = c.after changes ∧
          ∀ g, m.Holds g → last.1.config g = m.config g := by
  refine ⟨severityFor_after c changes, rules_after c changes, ignored_after c changes, fun ch => ⟨?_, fun hch => ?_⟩,
    fun ch ch' later hdisjoint => same_swap hdisjoint changes later, ?_⟩
  · rw [withSeverity_eq]
    by_cases hch : ch.Accepted
    · simp [hch]
    · simp [hch]
  · rw [withSeverity_eq, if_neg hch, after_concat, changed_of_not_accepted hch]
    exact ⟨rfl, rfl⟩
  · rintro m h hh rfl
    obtain ⟨hheld, hconfig, -⟩ := Memory.run_spec changes hh
    refine ⟨hconfig, fun later => ?_⟩
    obtain ⟨-, hlater, hkept⟩ := Memory.run_spec (changes ++ later) hh
    refine ⟨hlater, ?_, fun g hg => (hkept g hg).2⟩
    rw [Memory.run_append]
    exact ((Memory.run_spec later hheld).2.2 _ hheld).2.trans hconfig

/-- Two rules, of which one has an override. -/
def overridden : Config :=
  ⟨[.bare "first" fun _ _ => ⟨[], none, []⟩, .bare "second" fun _ _ => ⟨[], none, []⟩], [("second", "info")], [".git"]⟩

/-- A change of all rules, one that is refused, and one of a rule that there is and one that there is not. -/
def mixedChanges : List SeverityChange :=
  [⟨"ERROR", none⟩, ⟨"loud", none⟩, ⟨"Warning", some ["second", "other"]⟩]

/-- The last of the changes decides the second rule and the first of them the first. Read in memory, the
configuration at the start still has its override. -/
theorem severities_in_turn_mixedChanges :
    let m : Memory := ⟨[overridden.rules], [[], overridden.severity], [overridden.ignored]⟩
    let h : Handle := ⟨0, 1, 0⟩
    let loud : SeverityChange := ⟨"loud", none⟩
    let first : SeverityChange := ⟨"info", some ["first"]⟩
    let second : SeverityChange := ⟨"error", some ["second"]⟩
    let c := overridden.after mixedChanges
    (m.Holds h ∧ m.config h = overridden ∧ ¬ loud.Accepted ∧
        (overridden.targets first).Disjoint (overridden.targets second)) ∧
      c.severityFor "first" = "error" ∧ c.severityFor "second" = "warning" ∧
      ((m.run h mixedChanges).1.config h).severityFor "second" = "info" ∧
      c.withSeverity "loud" none = .error (.unknownSeverity "loud") ∧
      (overridden.after (mixedChanges ++ [first, second])).Same
        (overridden.after (mixedChanges ++ [second, first])) := by
  intro m h loud first second c
  have hholds : m.Holds h := ⟨by decide, by decide, by decide⟩
  have hloud : ¬ loud.Accepted := by decide +kernel
  have hdisjoint : (overridden.targets first).Disjoint (overridden.targets second) := by
    simp [targets, first, second]
  have hlower : loud.level = "loud" := by decide +kernel
  obtain ⟨hlast, -, -, hchange, hswap, hmemory⟩ := severities_in_turn overridden mixedChanges
  obtain ⟨-, hlater⟩ := hmemory m h hholds rfl
  have hkept : (m.run h mixedChanges).1.config h = m.config h := (hlater []).2.2 h hholds
  refine ⟨⟨hholds, rfl, hloud, hdisjoint⟩, ?_, ?_, ?_, ?_, hswap first second [] hdisjoint⟩
  · rw [hlast]
    decide +kernel
  · rw [hlast]
    decide +kernel
  · rw [hkept]
    decide +kernel
  · have hrefused := ((hchange loud).2 hloud).1
    rw [hlower] at hrefused
    exact hrefused

end Config

end AsyncActions
