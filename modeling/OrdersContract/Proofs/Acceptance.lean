import OrdersContract.Proofs.Fields
import OrdersContract.Proofs.Visits

set_option autoImplicit false

namespace OrdersContract

open Json

def Rule.Holds (rule : Rule) (node : Value) : Prop :=
  rule.appliesTo node = true → rule.evaluate node = true

def Scope.Selects (scope : Scope) (parent node : Value) : Prop :=
  match scope with
  | .current => node = parent
  | .field name => parent.field name = .present node
  | .each name => node ∈ parent.elements name

namespace Rule

theorem holds_iff_of_no_guard {rule : Rule} (unguarded : rule.guard = none) (node : Value) :
    rule.Holds node ↔ rule.evaluate node = true := by
  simp [Holds, appliesTo, unguarded]

theorem holds_iff_of_guard {rule : Rule} {guard : Value → Bool} (guarded : rule.guard = some guard)
    (node : Value) : rule.Holds node ↔ (guard node = true → rule.evaluate node = true) := by
  simp [Holds, appliesTo, guarded]

@[simp] theorem holds_mk (label : String) (evaluate : Value → Bool)
    (detail : Option (Value → String)) (node : Value) :
    (mk label evaluate detail none).Holds node ↔ evaluate node = true :=
  holds_iff_of_no_guard rfl node

@[simp] theorem holds_ofField (label name : String) (requirement : Field → Bool) (node : Value) :
    (ofField label name requirement).Holds node ↔ requirement (node.field name) = true :=
  holds_iff_of_no_guard rfl node

@[simp] theorem holds_withDetail (detail : Value → String) (rule : Rule) (node : Value) :
    (rule.withDetail detail).Holds node ↔ rule.Holds node := Iff.rfl

theorem outcome?_passed_iff (rule : Rule) (node : Value) (path : Path) :
    (∀ outcome ∈ rule.outcome? node path, outcome.passed = true) ↔ rule.Holds node := by
  by_cases applies : rule.appliesTo node <;>
    by_cases holds : rule.evaluate node <;>
      simp [outcome?, outcome, Holds, applies, holds, Outcome.pass, Outcome.fail]

theorem filterMap_outcome?_passed_iff (rules : List Rule) (node : Value) (path : Path) :
    (∀ outcome ∈ rules.filterMap (·.outcome? node path), outcome.passed = true) ↔
      ∀ rule ∈ rules, rule.Holds node := by
  simp only [← outcome?_passed_iff _ node path, List.mem_filterMap]
  constructor
  · intro passed rule member outcome found
    exact passed outcome ⟨rule, member, found⟩
  · rintro passed outcome ⟨rule, member, found⟩
    exact passed rule member outcome found

end Rule

theorem Scope.exists_mem_nodes_iff (scope : Scope) (parent node : Value) (path : Path) :
    (∃ place, (node, place) ∈ scope.nodes parent path) ↔ scope.Selects parent node := by
  cases scope with
  | current => simp [nodes, Selects]
  | field name => cases here : parent.field name <;> simp [nodes, Selects, here, eq_comm]
  | each name =>
    simp only [nodes, Selects, List.mem_mapIdx, Prod.mk.injEq]
    constructor
    · rintro ⟨_, i, within, rfl, _⟩
      exact List.getElem_mem within
    · intro member
      obtain ⟨i, within, same⟩ := List.mem_iff_getElem.mp member
      exact ⟨_, i, within, same, rfl⟩

namespace Group

mutual

def Accepts : Group → Value → Prop
  | mk _ scope precondition rules children, parent =>
    (∀ rule ∈ precondition, rule.Holds parent) ∧
      ∀ node, scope.Selects parent node → (∀ rule ∈ rules, rule.Holds node) ∧ AllAccept children node
  termination_by structural group => group

def AllAccept : List Group → Value → Prop
  | [], _ => True
  | group :: rest, node => group.Accepts node ∧ AllAccept rest node
  termination_by structural groups => groups

end

theorem allAccept_iff (groups : List Group) (node : Value) :
    AllAccept groups node ↔ ∀ group ∈ groups, group.Accepts node := by
  induction groups with
  | nil => simp [AllAccept]
  | cons group rest ih => simp [AllAccept, ih]

theorem accepts_iff (group : Group) (parent : Value) :
    group.Accepts parent ↔ (∀ rule ∈ group.precondition, rule.Holds parent) ∧
      ∀ node, group.scope.Selects parent node →
        (∀ rule ∈ group.rules, rule.Holds node) ∧ ∀ child ∈ group.children, child.Accepts node := by
  cases group with
  | mk name scope precondition rules children =>
    simp only [Accepts, allAccept_iff, Group.precondition, Group.scope, Group.rules, Group.children]

theorem accepts_current_iff {group : Group} (scope : group.scope = .current) (node : Value) :
    group.Accepts node ↔ (∀ rule ∈ group.precondition, rule.Holds node) ∧
      (∀ rule ∈ group.rules, rule.Holds node) ∧ ∀ child ∈ group.children, child.Accepts node := by
  rw [accepts_iff, scope]
  exact and_congr_right' forall_eq

theorem accepts_each_iff {group : Group} {name : String} (scope : group.scope = .each name)
    (parent : Value) :
    group.Accepts parent ↔ (∀ rule ∈ group.precondition, rule.Holds parent) ∧
      ∀ node ∈ parent.elements name,
        (∀ rule ∈ group.rules, rule.Holds node) ∧ ∀ child ∈ group.children, child.Accepts node := by
  rw [accepts_iff, scope]
  rfl

theorem accepts_object_iff {group : Group} {name : String} (scope : group.scope = .field name)
    (leaf : group.children = []) {parent : Value}
    (gate : (∀ rule ∈ group.precondition, rule.Holds parent) ↔
      ∃ members, parent.get? name = some (.object members)) :
    group.Accepts parent ↔ ∃ members, parent.get? name = some (.object members) ∧
      ∀ rule ∈ group.rules, rule.Holds (.object members) := by
  rw [accepts_iff, gate, scope, leaf]
  constructor
  · rintro ⟨⟨members, found⟩, below⟩
    have selected : Scope.Selects (.field name) parent (.object members) :=
      Value.field_eq_present_iff.mpr ⟨found, by simp⟩
    exact ⟨members, found, (below _ selected).1⟩
  · rintro ⟨members, found, hold⟩
    refine ⟨⟨members, found⟩, ?_⟩
    intro node selected
    obtain ⟨same, _⟩ := Value.field_eq_present_iff.mp selected
    obtain rfl := Option.some.inj (found.symm.trans same)
    exact ⟨hold, by simp⟩

theorem gated_passed_iff (gate : Option Outcome) (below : List Outcome) :
    (∀ outcome ∈ gate.toList ++ (if gate.all Outcome.passed then below else []),
      outcome.passed = true) ↔
      (∀ outcome ∈ gate, outcome.passed = true) ∧ ∀ outcome ∈ below, outcome.passed = true := by
  cases gate with
  | none => simp
  | some outcome => by_cases passed : outcome.passed <;> simp [passed]

theorem outcomes_passed_iff (group : Group) (parent : Value) (path : Path) :
    (∀ outcome ∈ group.outcomes parent path, outcome.passed = true) ↔ group.Accepts parent := by
  induction group generalizing parent path with
  | mk name scope precondition rules children ih =>
    have gate : (∀ outcome ∈ precondition.bind (·.outcome? parent path), outcome.passed = true) ↔
        ∀ rule ∈ precondition, rule.Holds parent := by
      cases precondition with
      | none => simp
      | some rule => simpa using rule.outcome?_passed_iff parent path
    have atNode (node : Value) (place : Path) :
        (∀ outcome ∈ rules.filterMap (·.outcome? node place) ++ outcomesOfAll children node place,
          outcome.passed = true) ↔ (∀ rule ∈ rules, rule.Holds node) ∧ AllAccept children node := by
      rw [List.forall_mem_append, Rule.filterMap_outcome?_passed_iff, outcomesOfAll_eq_flatMap,
        List.forall_mem_flatMap, allAccept_iff]
      exact and_congr_right' (forall₂_congr fun child member => ih child member node place)
    rw [outcomes, Accepts, gated_passed_iff, gate, List.forall_mem_flatMap]
    refine and_congr_right' ?_
    constructor
    · intro passed node selected
      obtain ⟨place, listed⟩ := (scope.exists_mem_nodes_iff parent node path).mpr selected
      exact (atNode node place).mp (passed (node, place) listed)
    · rintro accepted ⟨node, place⟩ listed
      have selected := (scope.exists_mem_nodes_iff parent node path).mp ⟨place, listed⟩
      exact (atNode node place).mpr (accepted node selected)

end Group

theorem RuleSet.check_failCount_eq_zero_iff (ruleSet : RuleSet) (document : Value) :
    (ruleSet.check document).failCount = 0 ↔ ruleSet.root.Accepts document := by
  rw [check, Report.ofOutcomes_failCount, List.countP_eq_zero,
    ← ruleSet.root.outcomes_passed_iff document []]
  simp

end OrdersContract
