import AsyncActions.Rule
import Mathlib.Data.List.Flatten
import Mathlib.Data.List.Perm.Basic
import Mathlib.Tactic.Common

/-!
# Rules that fail

What a rule yields is kept at once, finding after finding, and a rule may break off at any of them. `Rule.inTurn` is
that loop, with failures that are caught around each rule. This file shows that no failure gets out of it and that
nothing kept is lost: it comes to what `Rule.runAll` gives. So no rule has a say in what the others contribute.
-/

namespace AsyncActions

/-- What is kept while rules run: the findings so far, and what was said. -/
structure Kept where
  findings : List Finding
  log : Log

/-- More findings and records after those that were kept. -/
def Kept.add (kept : Kept) (found : List Finding) (said : Log) : Kept := ⟨kept.findings ++ found, kept.log ++ said⟩

/-- A computation with what is kept at hand. It may break off, and what was kept until then stays. -/
abbrev Keeping := ExceptT String (StateM Kept)

namespace Keeping

def keep (f : Finding) : Keeping Unit := modify fun kept => kept.add [f] []

def say (r : Record) : Keeping Unit := modify fun kept => kept.add [] [r]

/-- How a computation ends, and what is kept then. -/
def ends (c : Keeping Unit) (kept : Kept) : Except String Unit × Kept := (c.run.run kept).run

end Keeping

/-- Take over what a rule says and yields, piece by piece, up to its end or its failure. -/
def Outcome.drain (outcome : Outcome) : Keeping Unit := do
  outcome.log.forM Keeping.say
  outcome.findings.forM Keeping.keep
  match outcome.failure with
  | some reason => throw reason
  | none => pure ()

namespace Rule

/-- Run a rule. If it fails, that is noted and goes no further. -/
def attempt (rule : Rule) (source : Source) (severity : String) : Keeping Unit :=
  tryCatch (rule.run source severity).drain fun _ => Keeping.say (rule.failureRecord source)

/-- Run rules one after the other. -/
def inTurn (rules : List Rule) (severityOf : String → String) (source : Source) : Keeping Unit :=
  rules.forM fun r => r.attempt source (severityOf r.id)

/-- What each rule yields before its end or failure. -/
def contributions (rules : List Rule) (severityOf : String → String) (source : Source) : List (List Finding) :=
  rules.map fun r => (r.run source (severityOf r.id)).findings

/-- The rules that fail. -/
def failing (rules : List Rule) (severityOf : String → String) (source : Source) : List Rule :=
  rules.filter fun r => (r.run source (severityOf r.id)).failure.isSome

end Rule

/-! ### Steps of the loop -/

lemma Kept.add_nil (kept : Kept) : kept.add [] [] = kept := by simp [Kept.add]

lemma Kept.add_add (kept : Kept) (found more : List Finding) (said rest : Log) :
    (kept.add found said).add more rest = kept.add (found ++ more) (said ++ rest) := by
  simp [Kept.add, List.append_assoc]

namespace Keeping

lemma ends_bind (c d : Keeping Unit) (kept : Kept) : (c >>= fun _ => d).ends kept =
    match c.ends kept with
    | (.ok _, next) => d.ends next
    | (.error reason, next) => (.error reason, next) := by
  simp only [ends, ExceptT.run, StateT.run, Id.run, bind, ExceptT.bind, ExceptT.mk, StateT.bind]
  cases c kept with
  | mk result next => cases result <;> rfl

lemma ends_tryCatch (c : Keeping Unit) (handle : String → Keeping Unit) (kept : Kept) :
    (tryCatch c handle).ends kept =
      match c.ends kept with
      | (.ok _, next) => (.ok (), next)
      | (.error reason, next) => (handle reason).ends next := by
  simp only [ends, ExceptT.run, StateT.run, Id.run, tryCatch, tryCatchThe, MonadExceptOf.tryCatch, ExceptT.tryCatch,
    ExceptT.mk, bind, StateT.bind]
  cases c kept with
  | mk result next => cases result <;> rfl

/-- Steps that never break off and only add to what is kept, one after the other, add all that they would add. -/
lemma ends_forM {α : Type} {step : α → Keeping Unit} {found : α → List Finding} {said : α → Log}
    (h : ∀ a kept, (step a).ends kept = (.ok (), kept.add (found a) (said a))) (as : List α) (kept : Kept) :
    (as.forM step).ends kept = (.ok (), kept.add (as.flatMap found) (as.flatMap said)) := by
  induction as generalizing kept with
  | nil =>
    rw [List.flatMap_nil, List.flatMap_nil, Kept.add_nil]
    rfl
  | cons a as ih =>
    have hcons : (a :: as).forM step = (step a >>= fun _ => as.forM step) := rfl
    rw [hcons, ends_bind, h]
    simp only [ih, Kept.add_add, List.flatMap_cons]

end Keeping

/-- Draining keeps all that a rule yielded, also where it ends in a failure. -/
lemma Outcome.ends_drain (outcome : Outcome) (kept : Kept) : outcome.drain.ends kept =
    ((match outcome.failure with
      | some reason => .error reason
      | none => .ok ()), kept.add outcome.findings outcome.log) := by
  have hempty {α β : Type} (as : List α) : as.flatMap (fun _ => ([] : List β)) = [] :=
    List.flatMap_eq_nil_iff.mpr fun _ _ => rfl
  have hsay : (outcome.log.forM Keeping.say).ends kept = (.ok (), kept.add [] outcome.log) := by
    have hstep (r : Record) (kept : Kept) : (Keeping.say r).ends kept = (.ok (), kept.add [] [r]) := rfl
    rw [Keeping.ends_forM hstep, hempty, List.flatMap_singleton']
  have hkeep (kept : Kept) : (outcome.findings.forM Keeping.keep).ends kept =
      (.ok (), kept.add outcome.findings []) := by
    have hstep (f : Finding) (kept : Kept) : (Keeping.keep f).ends kept = (.ok (), kept.add [f] []) := rfl
    rw [Keeping.ends_forM hstep, hempty, List.flatMap_singleton']
  rw [drain, Keeping.ends_bind, hsay]
  dsimp only
  rw [Keeping.ends_bind, hkeep, Kept.add_add, List.nil_append, List.append_nil]
  cases outcome.failure with
  | none => rfl
  | some reason => rfl

namespace Rule

/-- A failure is noted after all that the rule yielded, and the loop can go on. -/
lemma ends_attempt (rule : Rule) (source : Source) (severity : String) (kept : Kept) :
    (rule.attempt source severity).ends kept =
      (.ok (), kept.add (rule.run source severity).findings (rule.logOn source severity)) := by
  rw [attempt, Keeping.ends_tryCatch, Outcome.ends_drain, logOn]
  cases (rule.run source severity).failure with
  | none => simp
  | some reason =>
    have hnote (kept : Kept) : (Keeping.say (rule.failureRecord source)).ends kept =
        (.ok (), kept.add [] [rule.failureRecord source]) := rfl
    simp [hnote, Kept.add_add]

lemma ends_inTurn (rules : List Rule) (severityOf : String → String) (source : Source) (kept : Kept) :
    (inTurn rules severityOf source).ends kept =
      (.ok (), kept.add (runAll rules severityOf source).1 (runAll rules severityOf source).2) :=
  Keeping.ends_forM (fun r kept => r.ends_attempt source (severityOf r.id) kept) rules kept

/-! ### What is kept in the end -/

lemma findings_runAll (rules : List Rule) (severityOf : String → String) (source : Source) :
    (runAll rules severityOf source).1 = (contributions rules severityOf source).flatten :=
  List.flatMap_def

/-- The log is a mix of what the rules say themselves and one record for each that fails. -/
lemma log_runAll (rules : List Rule) (severityOf : String → String) (source : Source) :
    let errors := (failing rules severityOf source).map (·.failureRecord source)
    let own := rules.flatMap fun r => (r.run source (severityOf r.id)).log
    (own ++ errors).Perm (runAll rules severityOf source).2 ∧ errors.Sublist (runAll rules severityOf source).2 ∧
      own.Sublist (runAll rules severityOf source).2 := by
  intro errors own
  let note (r : Rule) : Log :=
    if (r.run source (severityOf r.id)).failure.isSome then [r.failureRecord source] else []
  have herrors : errors = rules.flatMap note := by
    simp only [errors, failing, note]
    induction rules with
    | nil => rfl
    | cons r rules ih =>
      rw [List.flatMap_cons, ← ih, List.filter_cons]
      split
      · rfl
      · rfl
  rw [herrors]
  exact ⟨List.flatMap_append_perm rules _ note,
    List.Sublist.flatMap_right rules fun r _ => List.sublist_append_right _ _,
    List.Sublist.flatMap_right rules fun r _ => List.sublist_append_left _ _⟩

/-- Running rules one after the other never breaks off, whichever of them fail and wherever. It gives what each
yielded before its end or failure, in the order of the rules, and for each failure one error that names the rule and
the file, in that order too. A rule that is replaced, taken out or put in changes its own part of the findings and no other. -/
theorem runAll_isolates (rules : List Rule) (severityOf : String → String) (source : Source) :
    (∀ kept, (inTurn rules severityOf source).ends kept =
        (.ok (), kept.add (runAll rules severityOf source).1 (runAll rules severityOf source).2)) ∧
      (runAll rules severityOf source).1 = (contributions rules severityOf source).flatten ∧
      (let errors : Log := (failing rules severityOf source).map fun r =>
         ⟨.error, "main", s!"Rule {r.id} failed on {source.path}"⟩
       let own := rules.flatMap fun r => (r.run source (severityOf r.id)).log
       (own ++ errors).Perm (runAll rules severityOf source).2 ∧
        errors.Sublist (runAll rules severityOf source).2 ∧ own.Sublist (runAll rules severityOf source).2) ∧
      ∀ (i : Nat) (other : Rule),
        let yielded := (other.run source (severityOf other.id)).findings
        (runAll (rules.set i other) severityOf source).1 =
            ((contributions rules severityOf source).set i yielded).flatten ∧
          (runAll (rules.eraseIdx i) severityOf source).1 =
            ((contributions rules severityOf source).eraseIdx i).flatten ∧
          (runAll (rules.insertIdx i other) severityOf source).1 =
            ((contributions rules severityOf source).insertIdx i yielded).flatten := by
  refine ⟨ends_inTurn rules severityOf source, findings_runAll rules severityOf source,
    log_runAll rules severityOf source, fun i other => ?_⟩
  simp only [findings_runAll, contributions, List.map_set, List.eraseIdx_map, List.map_insertIdx, and_self]

/-- The second of three rules fails after its first finding. -/
example (f g h : Finding) (source : Source) :
    let yields (id : String) (fs : List Finding) (failure : Option String) : Rule :=
      .bare id fun _ _ => ⟨fs, failure, []⟩
    (inTurn [yields "first" [f] none, yields "second" [g] (some "broken"), yields "third" [h] none] (fun _ => "info")
        source).ends ⟨[], []⟩ =
      (.ok (), ⟨[f, g, h], [⟨.error, "main", s!"Rule second failed on {source.path}"⟩]⟩) := rfl

end Rule

end AsyncActions
