import OrdersContract.Contract.Orders

set_option autoImplicit false

namespace OrdersContract.Contract.MinorUnits

open Json

def statuses : List String := ["pending", "confirmed", "shipped", "delivered", "cancelled"]

def paginationFields : List String := ["limit", "offset", "total"]

def orderFields : List String :=
  ["id", "status", "total_cents", "currency", "created_at", "items"]

def itemFields : List String :=
  ["product_id", "product_name", "thumbnail_url", "quantity", "unit_price_cents"]

/-- A field that must not be missing. The failure tells an absent field from a null one. -/
def mandatory (name : String) : Rule :=
  (Rule.ofField (here ("." ++ name ++ " is present")) name Field.isPresent).withDetail fun node =>
    "got " ++ ((node.get? name).map Value.text).getD "undefined"

def pagination : Group :=
  .mk "pagination fields" (.field "pagination")
    (some (.ofField "pagination is an object" "pagination" Field.isObject))
    (paginationFields.map fun name =>
      .ofField (here ("." ++ name ++ " is a non-negative integer")) name
        Field.isNonNegativeInteger)
    []

def items : Group :=
  .mk "item fields" (.each "items")
    (some (.ofField (here ".items has at least one item") "items" Field.isNonEmptyArray))
    (itemFields.map mandatory ++
      [.ofField (here ".thumbnail_url looks like a URL") "thumbnail_url"
          (Field.isAddress .httpText),
        .ofField (here ".quantity is a positive integer") "quantity" Field.isPositiveInteger,
        .ofField (here ".unit_price_cents is a positive integer") "unit_price_cents"
          Field.isPositiveInteger])
    []

def orders : Group :=
  .mk "order fields" (.each "orders") none
    (orderFields.map mandatory ++
      [(Rule.ofField (here ".status is a valid enum value") "status"
          (Field.isOneOf statuses)).withDetail (allowedDetail "status" statuses),
        .ofField (here ".total_cents is a non-negative integer") "total_cents"
          Field.isNonNegativeInteger,
        .ofField (here ".created_at is an ISO 8601 timestamp") "created_at" Field.isTimestamp])
    [items]

def inlineData : Group :=
  .mk "inline product data" .current none
    [displayInline ⟨"product_name", "thumbnail_url"⟩] []

def rules : RuleSet :=
  ⟨"minor-units",
    .mk "response shape" .current (some hasOrders) [] [pagination, orders, inlineData]⟩

end OrdersContract.Contract.MinorUnits
