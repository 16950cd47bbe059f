import OrdersContract.Document.Path

set_option autoImplicit false

namespace OrdersContract

open Json

/-- Stands in the label of a rule for the place of the node that the rule is about. -/
def placeMark : String := "\x7bat\x7d"

def putPlace (place : List Char) : List Char → List Char
  | '\x7b' :: 'a' :: 't' :: '\x7d' :: rest => place ++ putPlace place rest
  | c :: rest => c :: putPlace place rest
  | [] => []

structure Rule where
  label : String
  evaluate : Value → Bool
  detail : Option (Value → String) := none
  /-- The nodes that the rule is about; without a guard all of them. -/
  guard : Option (Value → Bool) := none

namespace Rule

def ofField (label name : String) (requirement : Field → Bool) : Rule :=
  { label
    evaluate := fun node => requirement (node.field name)
    detail := some fun node => "got " ++ (node.field name).shown }

def withDetail (detail : Value → String) (rule : Rule) : Rule := { rule with detail := some detail }

def onlyWhen (guard : Value → Bool) (rule : Rule) : Rule := { rule with guard := some guard }

def appliesTo (rule : Rule) (node : Value) : Bool := rule.guard.all (· node)

def labelAt (rule : Rule) (path : Path) : String :=
  .ofList (putPlace path.text.toList rule.label.toList)

end Rule

/-- The nodes that a group is about, seen from the node of its parent. -/
inductive Scope where
  | current
  | field (name : String)
  | each (name : String)
deriving DecidableEq

namespace Scope

def nodes (scope : Scope) (parent : Value) (path : Path) : List (Value × Path) :=
  match scope with
  | current => [(parent, path)]
  | field name => ((parent.field name).value?.map (·, path ++ [.field name])).toList
  | each name =>
    (parent.elements name).mapIdx fun i element => (element, path ++ [.field name, .index i])

end Scope

/-- Rules about the nodes of a scope, and groups about nodes below them. A precondition is a rule
about the parent; where it fails the group is left out. -/
inductive Group where
  | mk (name : String) (scope : Scope) (precondition : Option Rule) (rules : List Rule)
    (children : List Group)

instance : Inhabited Group := ⟨.mk "" .current none [] []⟩

namespace Group

def name : Group → String
  | mk name _ _ _ _ => name

def scope : Group → Scope
  | mk _ scope _ _ _ => scope

def precondition : Group → Option Rule
  | mk _ _ precondition _ _ => precondition

def rules : Group → List Rule
  | mk _ _ _ rules _ => rules

def children : Group → List Group
  | mk _ _ _ _ children => children

end Group

structure RuleSet where
  name : String
  root : Group

end OrdersContract
