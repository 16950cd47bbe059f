import OrdersContract.Report.Outcome
import OrdersContract.Rule.Basic

set_option autoImplicit false

namespace OrdersContract

open Json

namespace Rule

def outcome (rule : Rule) (node : Value) (path : Path) : Outcome :=
  let label := rule.labelAt path
  if rule.evaluate node then .pass label else .fail label (rule.detail.map (· node))

def outcome? (rule : Rule) (node : Value) (path : Path) : Option Outcome :=
  if rule.appliesTo node then some (rule.outcome node path) else none

end Rule

namespace Group

mutual

def outcomes : Group → Value → Path → List Outcome
  | mk _ scope precondition rules children, parent, path =>
    -- A precondition that does not apply is no obstacle.
    let gate := precondition.bind (·.outcome? parent path)
    gate.toList ++
      if gate.all Outcome.passed then
        (scope.nodes parent path).flatMap fun (node, place) =>
          rules.filterMap (·.outcome? node place) ++ outcomesOfAll children node place
      else []
  termination_by structural group => group

def outcomesOfAll : List Group → Value → Path → List Outcome
  | [], _, _ => []
  | group :: rest, node, path => group.outcomes node path ++ outcomesOfAll rest node path
  termination_by structural groups => groups

end

theorem outcomesOfAll_eq_flatMap (groups : List Group) (node : Value) (path : Path) :
    outcomesOfAll groups node path = groups.flatMap (·.outcomes node path) := by
  induction groups with
  | nil => rfl
  | cons group rest ih => simp [outcomesOfAll, ih]

end Group

def RuleSet.check (ruleSet : RuleSet) (document : Value) : Report :=
  .ofOutcomes (ruleSet.root.outcomes document [])

end OrdersContract
