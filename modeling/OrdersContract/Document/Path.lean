import OrdersContract.Document.Field

set_option autoImplicit false

namespace OrdersContract

open Json

inductive Step where
  | field (name : String)
  | index (i : Nat)
deriving DecidableEq

abbrev Path := List Step

namespace Path

def extend (text : String) : Step → String
  | .field name => if text.isEmpty then name else text ++ "." ++ name
  | .index i => text ++ "[" ++ Text.decimalText i ++ "]"

def text (path : Path) : String := path.foldl extend ""

theorem text_append (path : Path) (step : Step) : text (path ++ [step]) = extend path.text step := by
  simp [text]

def Step.follow? (node : Value) : Step → Option Value
  | .field name => (node.field name).value?
  | .index i => node.items?.bind (·[i]?)

def follow? (root : Value) (path : Path) : Option Value :=
  path.foldlM Step.follow? root

end Path

end OrdersContract
