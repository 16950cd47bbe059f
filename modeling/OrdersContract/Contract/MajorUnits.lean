import OrdersContract.Contract.Orders
import OrdersContract.Document.Order
import OrdersContract.Text.Pieces

/-!
The contract with decimal prices and numbered pages, in three variants: for a request without
parameters, for a page of a given size and order, and for orders of one status.
-/

set_option autoImplicit false

namespace OrdersContract.Contract.MajorUnits

open Json Number

def statuses : List String := ["pending", "processing", "shipped", "delivered", "cancelled"]

def sorts : List String :=
  ["created_at:desc", "created_at:asc", "total_amount:desc", "total_amount:asc"]

def usualPageSize : Nat := 20

def largestPageSize : Nat := 50

def filledText (name : String) : Rule :=
  .ofField (here ("." ++ name ++ " is a non-empty string")) name Field.isNonEmptyString

def paginationGate : Rule :=
  (Rule.ofField "pagination is an object" "pagination" Field.isObject).withDetail fun root =>
    "got " ++ (root.field "pagination").kindName

def pageBound (limit : Nat) (what : String) : Rule :=
  { label := "orders count <= " ++ what ++ " (" ++ Text.decimalText limit ++ ")"
    evaluate := fun root => (root.length? "orders").any (· ≤ limit)
    detail := some fun root => "got " ++ Text.decimalText ((root.length? "orders").getD 0) }

def shownAt (elements : List Value) (index : Nat) (field : String) : String :=
  match elements[index]? with
  | some element => (element.field field).shown
  | none => "undefined"

def orderedRule (label collection field : String) (direction : Direction) : Rule :=
  { label
    evaluate := fun node => (direction.firstBreak? field (node.elements collection)).isNone
    guard := some fun node => 1 < (node.elements collection).length
    detail := some fun node =>
      let elements := node.elements collection
      let shown (i : Nat) : String :=
        collection ++ "[" ++ Text.decimalText i ++ "]." ++ field ++ "=" ++
          shownAt elements i field
      match direction.firstBreak? field elements with
      | some i => shown i ++ " follows " ++ shown (i - 1)
      | none => collection ++ " are not sorted by " ++ field ++ " " ++ direction.name }

def countsItems (order : Value) : Bool :=
  match (order.field "item_count").number?, order.length? "items" with
  | some count, some length => count.agrees (.ofNat length)
  | _, _ => false

-- What the card of an order shows comes from its first item.
def onCard (field missing : String) (requirement : Field → Bool) : Rule :=
  { label := here (" card render: first item has " ++ field)
    evaluate := fun order =>
      ((order.elements "items").head?).any fun item => requirement (item.field field)
    guard := some fun order => (order.length? "items").any (0 < ·)
    detail := some fun _ => missing }

def itemFields : Group :=
  .mk "item fields" (.each "items") none
    [filledText "product_id",
      filledText "product_name",
      .ofField (here ".thumbnail_url is a valid URL") "thumbnail_url" (Field.isAddress .absolute),
      .ofField (here ".quantity is a positive integer") "quantity" Field.isPositiveInteger,
      .ofField (here ".unit_price is a positive number") "unit_price" Field.isPositiveNumber]
    []

def orderItems : Group :=
  .mk "order item invariants" .current
    (some ((Rule.ofField (here ".items is an array") "items" Field.isArray).withDetail fun order =>
      "got " ++ (order.field "items").kindName))
    [{ label := here ".items is non-empty"
       evaluate := fun order => (order.length? "items").any (0 < ·)
       detail := some fun _ => "items array is empty" },
      { label := here ".item_count matches items.length"
        evaluate := countsItems
        detail := some fun order =>
          "item_count=" ++ (order.field "item_count").shown ++ " but items.length=" ++
            Text.decimalText ((order.length? "items").getD 0) },
      orderedRule (here ".items sorted by unit_price descending") "items" "unit_price" .descending,
      onCard "thumbnail_url" "missing thumbnail for card" (Field.isAddress .absolute),
      onCard "product_name" "missing product name for card" Field.isNonEmptyString]
    [itemFields]

def orders : Group :=
  .mk "order fields" (.each "orders") none
    [filledText "order_id",
      (Rule.ofField (here ".status is a valid enum value") "status"
        (Field.isOneOf statuses)).withDetail (allowedDetail "status" statuses),
      .ofField (here ".created_at is an ISO 8601 timestamp") "created_at" Field.isTimestamp,
      .ofField (here ".total_amount is a positive number") "total_amount" Field.isPositiveNumber,
      filledText "currency",
      .ofField (here ".item_count is a non-negative integer") "item_count"
        Field.isNonNegativeInteger]
    [orderItems]

def pagination : Group :=
  .mk "pagination fields" (.field "pagination") (some paginationGate)
    [.ofField (here ".page is a positive integer") "page" Field.isPositiveInteger,
      .ofField (here ".page_size is a positive integer") "page_size" Field.isPositiveInteger,
      .ofField (here (".page_size <= " ++ Text.decimalText largestPageSize)) "page_size" fun field =>
        field.number?.any (· ≤ .ofNat largestPageSize),
      .ofField (here ".total_count is a non-negative integer") "total_count"
        Field.isNonNegativeInteger,
      .ofField (here ".total_pages is a non-negative integer") "total_pages"
        Field.isNonNegativeInteger]
    []

def inlineData : Group :=
  .mk "inline product data" .current none
    [displayInline ⟨"product_name", "thumbnail_url"⟩] []

def plainRules : RuleSet :=
  ⟨"major-units",
    .mk "response shape" .current (some hasOrders)
      [{ label := "orders array is non-empty"
         evaluate := fun root => (root.length? "orders").any (0 < ·)
         detail := some fun _ => "no orders returned" },
        pageBound usualPageSize "default page_size"]
      [orders, pagination, inlineData]⟩

def sortOrder? (sort : String) : Option (String × Direction) := do
  let (field, direction) ← Text.cut? ':' sort.toList
  if direction = "asc".toList then some (.ofList field, .ascending)
  else if direction = "desc".toList then some (.ofList field, .descending)
  else none

def ordersSorted (field : String) (direction : Direction) : Rule :=
  orderedRule ("orders sorted by " ++ field ++ " " ++ direction.name) "orders" field direction

def paginationEcho (pageSize : Nat) : Group :=
  .mk "pagination echo" (.field "pagination") (some paginationGate)
    [.ofField (here (".page_size reflects request (" ++ Text.decimalText pageSize ++ ")"))
      "page_size" fun field => field.number?.any (·.agrees (.ofNat pageSize))]
    []

def pageRules (pageSize : Nat) (sort : String) : RuleSet :=
  ⟨"major-units/paged",
    .mk "paged response" .current (some hasOrders)
      (pageBound pageSize "requested page_size" ::
        ((sortOrder? sort).map fun (field, direction) => ordersSorted field direction).toList)
      [paginationEcho pageSize]⟩

def isOfStatus (status : String) (order : Value) : Bool :=
  (order.get? "status").bind Value.string? == some status

def othersThan (status : String) (root : Value) : List (Value × Nat) :=
  (root.elements "orders").zipIdx.filter fun (order, _) => !isOfStatus status order

def statusRules (status : String) : RuleSet :=
  ⟨"major-units/status-filter",
    .mk "filtered response" .current (some hasOrders)
      [{ label := "all returned orders have status '" ++ status ++ "'"
         evaluate := fun root => (root.elements "orders").all (isOfStatus status)
         detail := some fun root =>
          "found orders with other statuses: " ++
            ", ".intercalate ((othersThan status root).map fun (order, i) =>
              "orders[" ++ Text.decimalText i ++ "].status=" ++
                (order.field "status").shown) }]
      []⟩

end OrdersContract.Contract.MajorUnits
