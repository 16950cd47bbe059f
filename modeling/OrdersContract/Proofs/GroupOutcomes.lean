import OrdersContract.Proofs.Fields
import OrdersContract.Proofs.Labels
import OrdersContract.Rule.Check

set_option autoImplicit false

namespace OrdersContract

open Json

namespace Rule

@[simp] theorem outcome_label (rule : Rule) (node : Value) (path : Path) :
    (rule.outcome node path).label = rule.labelAt path := by
  rw [outcome]
  split <;> rfl

@[simp] theorem passed_outcome (rule : Rule) (node : Value) (path : Path) :
    (rule.outcome node path).passed = rule.evaluate node := by
  cases holds : rule.evaluate node <;> simp [outcome, holds, Outcome.pass, Outcome.fail]

theorem outcome?_of_unguarded {rule : Rule} (unguarded : rule.guard = none) (node : Value)
    (path : Path) : rule.outcome? node path = some (rule.outcome node path) := by
  simp [outcome?, appliesTo, unguarded]

theorem map_label_outcomes (rules : List Rule) (node : Value) (place : Path) :
    (rules.filterMap (·.outcome? node place)).map Outcome.label =
      (rules.filter (·.appliesTo node)).map (·.labelAt place) := by
  induction rules with
  | nil => rfl
  | cons rule rest ih =>
    by_cases applies : rule.appliesTo node
    next =>
      have made : rule.outcome? node place = some (rule.outcome node place) := if_pos applies
      simp [made, applies, ih]
    next =>
      have unmade : rule.outcome? node place = none := if_neg applies
      simp [unmade, applies, ih]

end Rule

namespace Scope

variable {α : Type}

theorem flatMap_nodes_current (parent : Value) (path : Path) (below : Value × Path → List α) :
    (current.nodes parent path).flatMap below = below (parent, path) := by
  simp [nodes]

theorem flatMap_nodes_each (name : String) (parent : Value) (path : Path)
    (below : Value × Path → List α) :
    ((each name).nodes parent path).flatMap below =
      (parent.elements name).zipIdx.flatMap fun numbered =>
        below (numbered.1, path ++ [.field name, .index numbered.2]) := by
  rw [nodes, List.mapIdx_eq_zipIdx_map, List.flatMap_map]

end Scope

namespace Group

variable {group : Group} {gate : Rule}

def outcomesAt (group : Group) (node : Value) (place : Path) : List Outcome :=
  group.rules.filterMap (·.outcome? node place) ++ group.children.flatMap (·.outcomes node place)

def outcomesBelow (group : Group) (parent : Value) (path : Path) : List Outcome :=
  (group.scope.nodes parent path).flatMap fun selected => group.outcomesAt selected.1 selected.2

theorem outcomes_eq (group : Group) (parent : Value) (path : Path) :
    group.outcomes parent path =
      (group.precondition.bind (·.outcome? parent path)).toList ++
        if group.precondition.all (fun gate => !gate.appliesTo parent || gate.evaluate parent) then
          group.outcomesBelow parent path
        else [] := by
  obtain ⟨name, scope, precondition, rules, children⟩ := group
  have opens : (precondition.bind (·.outcome? parent path)).all Outcome.passed =
      precondition.all fun gate => !gate.appliesTo parent || gate.evaluate parent := by
    cases precondition with
    | none => rfl
    | some gate => cases applies : gate.appliesTo parent <;> simp [Rule.outcome?, applies]
  simp only [outcomes, opens, outcomesOfAll_eq_flatMap]
  rfl

theorem outcomes_of_ungated (open_ : group.precondition = none) (parent : Value) (path : Path) :
    group.outcomes parent path = group.outcomesBelow parent path := by
  rw [outcomes_eq, open_]
  rfl

theorem outcomes_of_gated (gated : group.precondition = some gate) (unguarded : gate.guard = none)
    (parent : Value) (path : Path) :
    group.outcomes parent path = gate.outcome parent path ::
      if gate.evaluate parent then group.outcomesBelow parent path else [] := by
  simp [outcomes_eq, gated, Rule.outcome?_of_unguarded unguarded, Rule.appliesTo, unguarded]

theorem outcomesBelow_current (scope : group.scope = .current) (parent : Value) (path : Path) :
    group.outcomesBelow parent path = group.outcomesAt parent path := by
  rw [outcomesBelow, scope, Scope.flatMap_nodes_current]

theorem outcomesBelow_each {name : String} (scope : group.scope = .each name) (parent : Value)
    (path : Path) :
    group.outcomesBelow parent path = (parent.elements name).zipIdx.flatMap fun numbered =>
      group.outcomesAt numbered.1 (path ++ [.field name, .index numbered.2]) := by
  rw [outcomesBelow, scope, Scope.flatMap_nodes_each]

theorem outcomesBelow_field {name : String} {node : Value} (scope : group.scope = .field name)
    {parent : Value} (found : (parent.field name).value? = some node) (path : Path) :
    group.outcomesBelow parent path = group.outcomesAt node (path ++ [.field name]) := by
  simp [outcomesBelow, scope, Scope.nodes, found]

theorem outcomes_of_single {rule : Rule} (unguarded : rule.guard = none) (name : String)
    (node : Value) (path : Path) :
    (mk name .current none [rule] []).outcomes node path = [rule.outcome node path] := by
  rw [outcomes_of_ungated rfl, outcomesBelow_current rfl, outcomesAt]
  simp [Group.rules, Group.children, Rule.outcome?_of_unguarded unguarded]

theorem map_label_outcomesAt (group : Group) (node : Value) (place : Path) :
    (group.outcomesAt node place).map Outcome.label =
      (group.rules.filter (·.appliesTo node)).map (·.labelAt place) ++
        group.children.flatMap fun child => (child.outcomes node place).map Outcome.label := by
  rw [outcomesAt, List.map_append, Rule.map_label_outcomes, List.map_flatMap]

end Group

end OrdersContract
