import OrdersContract.Proofs.Acceptance
import OrdersContract.Proofs.GroupOutcomes

set_option autoImplicit false

namespace OrdersContract

open Json

def failuresIn (outcomes : List Outcome) : List Outcome := outcomes.filter (!·.passed)

theorem failuresIn_append (front back : List Outcome) :
    failuresIn (front ++ back) = failuresIn front ++ failuresIn back :=
  List.filter_append front back

@[simp] theorem failuresIn_cons_pass (label : String) (rest : List Outcome) :
    failuresIn (.pass label :: rest) = failuresIn rest := rfl

theorem failuresIn_eq_nil_iff {outcomes : List Outcome} :
    failuresIn outcomes = [] ↔ ∀ outcome ∈ outcomes, outcome.passed = true := by
  simp [failuresIn]

theorem failuresIn_flatMap {α : Type} (items : List α) (below : α → List Outcome) :
    failuresIn (items.flatMap below) = items.flatMap fun item => failuresIn (below item) := by
  rw [failuresIn, List.filter_flatMap]
  rfl

theorem flatMap_zipIdx_modify {α β : Type} {items : List α} {below : α × Nat → List β}
    {change : α → α} {i : Nat} {item : α} (found : items[i]? = some item)
    (none : ∀ k other, k ≠ i → items[k]? = some other → below (other, k) = []) :
    (items.modify i change).zipIdx.flatMap below = below (change item, i) := by
  -- Counted from any start, so that the elements can be taken off one by one.
  suffices counted : ∀ start, (∀ k other, k ≠ i → items[k]? = some other →
      below (other, start + k) = []) →
      ((items.modify i change).zipIdx start).flatMap below = below (change item, start + i) by
    simpa using counted 0 (by simpa using none)
  clear none
  induction items generalizing i with
  | nil => simp at found
  | cons first rest ih =>
    intro start none
    cases i with
    | zero =>
      obtain rfl : first = item := by simpa using found
      have others : (rest.zipIdx (start + 1)).flatMap below = [] := by
        rw [List.flatMap_eq_nil_iff]
        rintro ⟨other, k⟩ listed
        obtain ⟨behind, held⟩ := List.mk_mem_zipIdx_iff_le_and_getElem?_sub.mp listed
        have own := none (k - (start + 1) + 1) other (by omega) (by simpa using held)
        rwa [show start + (k - (start + 1) + 1) = k by omega] at own
      rw [List.modify_zero_cons, List.zipIdx_cons, List.flatMap_cons, others, List.append_nil]
      rfl
    | succ i =>
      have front : below (first, start) = [] := none 0 first (by omega) (by simp)
      have further := ih (by simpa using found) (start + 1) fun k other apart listed => by
        have own := none (k + 1) other (by omega) (by simpa using listed)
        rwa [show start + (k + 1) = start + 1 + k by omega] at own
      rw [List.modify_succ_cons, List.zipIdx_cons, List.flatMap_cons, front, List.nil_append,
        further, show start + 1 + i = start + (i + 1) by omega]

/-- These are the failures of a report, in order, and whatever has another label has passed. -/
structure Report.FailsOnly (report : Report) (expected : List Outcome) : Prop where
  failures : report.failures = expected
  count : report.failCount = expected.length
  others : ∀ outcome ∈ report.outcomes, outcome.label ∉ expected.map Outcome.label →
    outcome.passed = true

theorem RuleSet.failsOnly_of_failuresIn {ruleSet : RuleSet} {document : Value}
    {expected : List Outcome} (same : failuresIn (ruleSet.check document).outcomes = expected) :
    (ruleSet.check document).FailsOnly expected := by
  refine ⟨same, ?_, ?_⟩
  · rw [check, Report.ofOutcomes_failCount, List.countP_eq_length_filter, ← same]
    rfl
  · intro outcome recorded unlisted
    cases passed : outcome.passed with
    | true => rfl
    | false =>
      have listed : outcome ∈ expected := same ▸ List.mem_filter.mpr ⟨recorded, by simp [passed]⟩
      exact absurd (List.mem_map_of_mem listed) unlisted

namespace Rule

instance (rule : Rule) (node : Value) : Decidable (rule.Holds node) :=
  inferInstanceAs (Decidable (_ → _))

def failure (rule : Rule) (node : Value) (path : Path) : Outcome :=
  .fail (rule.labelAt path) (rule.detail.map (· node))

def failing (rules : List Rule) (node : Value) : List Rule := rules.filter (¬ ·.Holds node)

theorem failuresIn_filterMap (rules : List Rule) (node : Value) (path : Path) :
    failuresIn (rules.filterMap (·.outcome? node path)) =
      (failing rules node).map (·.failure node path) := by
  induction rules with
  | nil => rfl
  | cons rule rest ih =>
    have own : failuresIn (rule.outcome? node path).toList =
        if rule.Holds node then [] else [rule.failure node path] := by
      by_cases applies : rule.appliesTo node <;> by_cases holds : rule.evaluate node <;>
        simp [outcome?, outcome, Holds, failure, failuresIn, applies, holds, Outcome.pass,
          Outcome.fail]
    have split : (rule :: rest).filterMap (·.outcome? node path) =
        (rule.outcome? node path).toList ++ rest.filterMap (·.outcome? node path) := by
      cases made : rule.outcome? node path <;> simp [made]
    rw [split, failuresIn_append, own, ih]
    by_cases holds : rule.Holds node <;> simp [holds, failing]

theorem map_failure_failing (rules : List Rule) (node : Value) (path : Path) :
    (failing rules node).map (·.failure node path) =
      rules.flatMap fun rule => if rule.Holds node then [] else [rule.failure node path] := by
  induction rules with
  | nil => rfl
  | cons rule rest ih =>
    rw [List.flatMap_cons, ← ih]
    by_cases holds : rule.Holds node <;> simp [failing, holds]

theorem failing_eq_nil {rules : List Rule} {node : Value} (hold : ∀ rule ∈ rules, rule.Holds node) :
    failing rules node = [] :=
  List.filter_eq_nil_iff.mpr fun rule listed => by simp [hold rule listed]

end Rule

namespace Group

variable {group : Group} {gate : Rule}

def failures (group : Group) (parent : Value) (path : Path) : List Outcome :=
  failuresIn (group.outcomes parent path)

def failuresAt (group : Group) (node : Value) (place : Path) : List Outcome :=
  failuresIn (group.outcomesAt node place)

def AcceptsNode (group : Group) (node : Value) : Prop :=
  (∀ rule ∈ group.rules, rule.Holds node) ∧ ∀ child ∈ group.children, child.Accepts node

theorem failures_of_accepts {parent : Value} (accepts : group.Accepts parent) (path : Path) :
    group.failures parent path = [] :=
  failuresIn_eq_nil_iff.mpr ((group.outcomes_passed_iff parent path).mpr accepts)

theorem failuresAt_eq (group : Group) (node : Value) (place : Path) :
    group.failuresAt node place = (Rule.failing group.rules node).map (·.failure node place) ++
      group.children.flatMap (·.failures node place) := by
  rw [failuresAt, outcomesAt, failuresIn_append, Rule.failuresIn_filterMap, failuresIn_flatMap]
  rfl

theorem failuresAt_of_leaf (leaf : group.children = []) (node : Value) (place : Path) :
    group.failuresAt node place = (Rule.failing group.rules node).map (·.failure node place) := by
  rw [failuresAt_eq, leaf, List.flatMap_nil, List.append_nil]

theorem failuresAt_of_accepts {node : Value} (accepts : group.AcceptsNode node) (place : Path) :
    group.failuresAt node place = [] := by
  rw [failuresAt_eq, Rule.failing_eq_nil accepts.1, List.map_nil, List.nil_append,
    List.flatMap_eq_nil_iff]
  exact fun child listed => failures_of_accepts (accepts.2 child listed) place

theorem failures_of_refused (gated : group.precondition = some gate) (unguarded : gate.guard = none)
    {parent : Value} (refused : gate.evaluate parent = false) (path : Path) :
    group.failures parent path = [gate.failure parent path] := by
  rw [failures, outcomes_of_gated gated unguarded, Rule.outcome, refused]
  rfl

theorem failures_of_ungated (ungated : group.precondition = none) (parent : Value) (path : Path) :
    group.failures parent path = failuresIn (group.outcomesBelow parent path) := by
  rw [failures, outcomes_of_ungated ungated]

theorem failures_of_gated (gated : group.precondition = some gate) (unguarded : gate.guard = none)
    {parent : Value} (holds : gate.evaluate parent = true) (path : Path) :
    group.failures parent path = failuresIn (group.outcomesBelow parent path) := by
  rw [failures, outcomes_of_gated gated unguarded, Rule.outcome, if_pos holds, if_pos holds,
    failuresIn_cons_pass]

theorem failuresBelow_each {name : String} (scope : group.scope = .each name) (parent : Value)
    (path : Path) :
    failuresIn (group.outcomesBelow parent path) =
      (parent.elements name).zipIdx.flatMap fun numbered =>
        group.failuresAt numbered.1 (path ++ [.field name, .index numbered.2]) := by
  rw [outcomesBelow_each scope, failuresIn_flatMap]
  rfl

/-- Where one of the accepted elements of a list was changed, all failures are those of that one. -/
theorem failuresBelow_each_modify {name : String} (scope : group.scope = .each name)
    {parent item : Value} {items : List Value} {change : Value → Value} {i : Nat}
    (changed : parent.elements name = items.modify i change) (found : items[i]? = some item)
    (accepts : ∀ item ∈ items, group.AcceptsNode item) (path : Path) :
    failuresIn (group.outcomesBelow parent path) =
      group.failuresAt (change item) (path ++ [.field name, .index i]) := by
  rw [failuresBelow_each scope, changed, flatMap_zipIdx_modify found]
  intro k other _ listed
  exact failuresAt_of_accepts (accepts other (List.mem_of_getElem? listed)) _

end Group

end OrdersContract
