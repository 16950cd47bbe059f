import OrdersContract.Document.Requirement
import OrdersContract.Rule.Basic

set_option autoImplicit false

namespace OrdersContract.Contract

open Json

def ordersPath : String := "/dashboard/orders"

def here (rest : String) : String := placeMark ++ rest

-- Nothing else can be checked without an array of orders.
def hasOrders : Rule :=
  (Rule.ofField "response has an \"orders\" array" "orders" Field.isArray).withDetail fun root =>
    "got " ++ (root.field "orders").kindName

structure DisplayFields where
  name : String
  image : String

def DisplayFields.areIn (fields : DisplayFields) (item : Value) : Bool :=
  (item.field fields.name).isNonEmptyString && (item.field fields.image).isNonEmptyString

def bareItems (fields : DisplayFields) (root : Value) : List (Nat × Nat) :=
  (root.elements "orders").zipIdx.flatMap fun (order, i) =>
    (order.elements "items").zipIdx.filterMap fun (item, j) =>
      if fields.areIn item then none else some (i, j)

def itemPlace (place : Nat × Nat) : String :=
  Path.text [.field "orders", .index place.1, .field "items", .index place.2]

/-- Items carry what is displayed, so that no product has to be fetched. One rule for the whole
document. -/
def displayInline (fields : DisplayFields) : Rule :=
  { label := "all items carry " ++ fields.name ++ " and " ++ fields.image ++
      " inline (no follow-up fetch)"
    evaluate := fun root => (bareItems fields root).isEmpty
    detail := some fun root =>
      "missing display data at: " ++ ", ".intercalate ((bareItems fields root).map itemPlace) }

def allowedDetail (name : String) (allowed : List String) (node : Value) : String :=
  "got " ++ (node.field name).shown ++ ", expected one of: " ++ ", ".intercalate allowed

end OrdersContract.Contract
