import OrdersContract.Document.Requirement

/-!
The order of elements by a number that each of them holds. Neighbours are compared: equal numbers
are in order, and an element without a number is in order with none.
-/

set_option autoImplicit false

namespace OrdersContract

open Json Number

inductive Direction where
  | ascending
  | descending
deriving DecidableEq

namespace Direction

def name : Direction → String
  | ascending => "ascending"
  | descending => "descending"

def allows (direction : Direction) (before after : Double) : Bool :=
  match direction with
  | ascending => before ≤ after
  | descending => after ≤ before

def inOrder (direction : Direction) (field : String) (before after : Value) : Bool :=
  match (before.field field).number?, (after.field field).number? with
  | some earlier, some later => direction.allows earlier later
  | _, _ => false

def firstBreak? (direction : Direction) (field : String) : List Value → Option Nat
  | before :: after :: rest =>
    if direction.inOrder field before after then
      (direction.firstBreak? field (after :: rest)).map (· + 1)
    else some 1
  | _ => none

end Direction

end OrdersContract
