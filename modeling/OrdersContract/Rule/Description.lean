import OrdersContract.Rule.Basic
import OrdersContract.Text.Quoted

set_option autoImplicit false

namespace OrdersContract

open Text

def Rule.description (rule : Rule) : String :=
  "Rule \x7b label: " ++ quoted rule.label ++ ", .. \x7d"

def Scope.description : Scope → String
  | current => "Current"
  | field name => "Field(" ++ quoted name ++ ")"
  | each name => "Each(" ++ quoted name ++ ")"

def listDescription (items : List String) : String := "[" ++ ", ".intercalate items ++ "]"

namespace Group

mutual

def description : Group → String
  | mk name scope precondition rules children =>
    "RuleGroup \x7b name: " ++ quoted name ++ ", scope: " ++ scope.description ++
      ", precondition: " ++
      (match precondition with
      | some rule => "Some(" ++ rule.description ++ ")"
      | none => "None") ++
      ", rules: " ++ listDescription (rules.map Rule.description) ++
      ", children: " ++ listDescription (descriptions children) ++ " \x7d"
  termination_by structural group => group

def descriptions : List Group → List String
  | [] => []
  | group :: rest => group.description :: descriptions rest
  termination_by structural groups => groups

end

end Group

def RuleSet.description (ruleSet : RuleSet) : String :=
  "RuleSet \x7b name: " ++ quoted ruleSet.name ++ ", root: " ++ ruleSet.root.description ++ " \x7d"

end OrdersContract
