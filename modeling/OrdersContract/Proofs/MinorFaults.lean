import OrdersContract.Proofs.ChangedOrders
import OrdersContract.Proofs.MinorUnits

set_option autoImplicit false

namespace OrdersContract.Contract.MinorUnits

open Json Text

theorem failuresAt_orders (order : Value) (path : Path) :
    orders.failuresAt order path = (Rule.failing orders.rules order).map (·.failure order path) ++
      items.failures order path := by
  rw [Group.failuresAt_eq]
  simp [orders, Group.children]

theorem OrderConforms.acceptsNode {order : Value} (conforms : OrderConforms order) :
    orders.AcceptsNode order := by
  obtain ⟨hold, accepts, _⟩ := (orderConforms_iff order).mp conforms
  exact ⟨hold, by simpa [orders, Group.children] using accepts⟩

theorem failuresIn_check {document : Value} {listed : List Value}
    (found : document.get? "orders" = some (.array listed)) :
    failuresIn (rules.check document).outcomes = pagination.failures document [] ++
      orders.failures document [] ++ failuresIn [displayOutcome (barePlaces document)] := by
  rw [check_outcomes (Field.isArray_field_iff.mpr ⟨listed, found⟩), List.cons_append,
    failuresIn_cons_pass, failuresIn_append, failuresIn_append]
  rfl

section Orders

variable {document order : Value} {i : Nat} {change : Value → Value}

theorem Conforms.orderConforms (conforms : Conforms document)
    (here : (document.elements "orders")[i]? = some order) : OrderConforms order := by
  obtain ⟨listed, found, each⟩ := conforms.orders
  rw [Value.elements_eq_of_get? found] at here
  exact each order (List.mem_of_getElem? here)

theorem failuresIn_changed (conforms : Conforms document)
    (here : (document.elements "orders")[i]? = some order) :
    failuresIn (rules.check (document.changeAt change (orderPath i))).outcomes =
      orders.failuresAt (change order) (orderPath i) ++
        failuresIn [displayOutcome (barePlacesIn (change order) i)] := by
  obtain ⟨listed, found, each⟩ := conforms.orders
  rw [Value.elements_eq_of_get? found] at here
  have changed : (document.changeAt change (orderPath i)).get? "orders" =
      some (.array (listed.modify i change)) := Value.get?_changeAt_self found i
  have page : pagination.Accepts (document.changeAt change (orderPath i)) := by
    rw [accepts_pagination_iff, orderPath, Value.get?_changeAt found, if_neg (by decide)]
    exact conforms.pagination
  have carried : ∀ order ∈ listed, ∀ item ∈ order.elements "items",
      displayFields.areIn item = true :=
    fun order member => ((orderConforms_iff order).mp (each order member)).2.2
  have nodes : ∀ order ∈ listed, orders.AcceptsNode order :=
    fun order member => (each order member).acceptsNode
  rw [failuresIn_check changed, Group.failures_of_accepts page, List.nil_append,
    Group.failures_of_ungated rfl, barePlaces_of_changed found here carried,
    Group.failuresBelow_each_modify rfl (Value.elements_eq_of_get? changed) here nodes]
  rfl

end Orders

section Faults

variable {order : Value} {path : Path}

theorem OrderConforms.fields (conforms : OrderConforms order) :
    (order.field "id").isPresent = true ∧ (order.field "status").isPresent = true ∧
      (order.field "total_cents").isPresent = true ∧ (order.field "currency").isPresent = true ∧
      (order.field "created_at").isPresent = true ∧ (order.field "items").isPresent = true ∧
      (order.field "status").isOneOf statuses = true ∧
      (order.field "total_cents").isNonNegativeInteger = true ∧
      (order.field "created_at").isTimestamp = true := by
  have hold := ((orderConforms_iff order).mp conforms).1
  simpa [orders, Group.rules, orderFields, mandatory] using hold

variable {other : Value} {name : String}

theorem failing_of_status (conforms : OrderConforms order)
    (same : ∀ name, name ≠ "status" → other.field name = order.field name)
    (present : (other.field "status").isPresent = true)
    (unknown : (other.field "status").isOneOf statuses = false) :
    Rule.failing orders.rules other =
      [(Rule.ofField (here ".status is a valid enum value") "status"
        (Field.isOneOf statuses)).withDetail (allowedDetail "status" statuses)] := by
  obtain ⟨id, _, total, currency, created, items, _, whole, timestamp⟩ := conforms.fields
  simp [orders, Group.rules, orderFields, mandatory, Rule.failing, *]

theorem failing_of_items (conforms : OrderConforms order)
    (same : ∀ name, name ≠ "items" → other.field name = order.field name) :
    Rule.failing orders.rules other =
      if (other.field "items").isPresent then [] else [mandatory "items"] := by
  obtain ⟨id, status, total, currency, created, _, known, whole, timestamp⟩ := conforms.fields
  by_cases present : (other.field "items").isPresent = true <;>
    simp [orders, Group.rules, orderFields, mandatory, Rule.failing, *]

theorem failuresAt_of_unknown_status (conforms : OrderConforms order) {text : String}
    (unknown : text ∉ statuses) (path : Path) :
    orders.failuresAt (order.set "status" (.string text)) path =
      [.fail (path.text ++ ".status is a valid enum value")
        (some ("got " ++ Value.text (.string text) ++
          ", expected one of: pending, confirmed, shipped, delivered, cancelled"))] := by
  have status : (order.set "status" (.string text)).field "status" = .present (.string text) := by
    rw [Value.field_set conforms.object, if_pos rfl]
    rfl
  have same : ∀ name, name ≠ "status" →
      (order.set "status" (.string text)).field name = order.field name :=
    fun name apart => by rw [Value.field_set conforms.object, if_neg apart]
  have items : items.Accepts (order.set "status" (.string text)) := by
    rw [accepts_items_iff, Value.get?_set conforms.object, if_neg (by decide)]
    exact (accepts_items_iff order).mp ((orderConforms_iff order).mp conforms).2.1
  have failing := failing_of_status conforms same (by rw [status]; rfl)
    (by simpa [status, Field.isOneOf, Field.string?, Field.value?] using unknown)
  have allowed :
      ", ".intercalate statuses = "pending, confirmed, shipped, delivered, cancelled" := by
    decide +kernel
  rw [failuresAt_orders, Group.failures_of_accepts items, List.append_nil, failing,
    List.map_singleton, failure_here rfl (unmarked_of_lacksMark rfl)]
  simp only [Rule.withDetail, Option.map_some, allowedDetail, status, Field.shown, allowed]
  simp [String.append_assoc]

theorem failuresAt_of_lost_items (conforms : OrderConforms order)
    (same : ∀ name, name ≠ "items" → other.field name = order.field name)
    (lost : other.field "items" = .missing) (path : Path) :
    orders.failuresAt other path =
      [.fail (path.text ++ ".items is present")
          (some ("got " ++ ((other.get? "items").map Value.text).getD "undefined")),
        .fail (path.text ++ ".items has at least one item") (some "got undefined")] := by
  have refused : Rule.evaluate (.ofField (here ".items has at least one item") "items"
      Field.isNonEmptyArray) other = false := by
    simp only [Rule.ofField, lost]
    rfl
  have gate : items.failures other path = [Rule.failure _ other path] :=
    Group.failures_of_refused rfl rfl refused path
  have failing : Rule.failing orders.rules other = [mandatory "items"] := by
    rw [failing_of_items conforms same, lost]
    rfl
  have first : (mandatory "items").failure other path =
      .fail (path.text ++ ".items is present") _ :=
    failure_here rfl (unmarked_of_lacksMark rfl) other path
  rw [failuresAt_orders, failing, gate, List.map_singleton, first,
    failure_here rfl (unmarked_of_lacksMark rfl), List.singleton_append]
  simp only [Rule.ofField, mandatory, Rule.withDetail, Option.map_some, lost, Field.shown]
  rfl

theorem failuresAt_of_changed_item (conforms : OrderConforms order) {listed : List Value}
    (found : order.get? "items" = some (.array listed)) {j : Nat} {item : Value}
    (inside : listed[j]? = some item) (change : Value → Value) (path : Path) :
    orders.failuresAt (order.changeAt change [.field "items", .index j]) path =
      (Rule.failing items.rules (change item)).map
        (·.failure (change item) (path ++ [.field "items", .index j])) := by
  obtain ⟨held, alsoFound, filled, each⟩ := conforms.items
  obtain rfl : held = listed := by simpa [alsoFound] using found
  have changed : (order.changeAt change [.field "items", .index j]).get? "items" =
      some (.array (held.modify j change)) := Value.get?_changeAt_self found j
  have present : ((order.changeAt change [.field "items", .index j]).field "items").isPresent =
      true := Field.isPresent_field_iff.mpr ⟨_, changed, by simp⟩
  have gate : Rule.evaluate (.ofField (here ".items has at least one item") "items"
      Field.isNonEmptyArray) (order.changeAt change [.field "items", .index j]) = true :=
    Field.isNonEmptyArray_field_iff.mpr ⟨_, changed, by simpa using filled⟩
  have nodes : ∀ item ∈ held, items.AcceptsNode item :=
    fun item member => ⟨((itemConforms_iff item).mp (each item member)).1, by
      simp [items, Group.children]⟩
  rw [failuresAt_orders, failing_of_items conforms fun _ => Value.field_changeAt_of_ne found j,
    if_pos present, List.map_nil, List.nil_append, Group.failures_of_gated rfl rfl gate,
    Group.failuresBelow_each_modify rfl (Value.elements_eq_of_get? changed) inside nodes,
    Group.failuresAt_of_leaf rfl]

variable {item : Value}

theorem ItemConforms.fields (conforms : ItemConforms item) :
    (item.field "product_id").isPresent = true ∧ (item.field "product_name").isPresent = true ∧
      (item.field "thumbnail_url").isPresent = true ∧ (item.field "quantity").isPresent = true ∧
      (item.field "unit_price_cents").isPresent = true ∧
      (item.field "thumbnail_url").isAddress .httpText = true ∧
      (item.field "quantity").isPositiveInteger = true ∧
      (item.field "unit_price_cents").isPositiveInteger = true := by
  have hold := ((itemConforms_iff item).mp conforms).1
  simpa [items, Group.rules, itemFields, mandatory] using hold

theorem failing_without_thumbnail (conforms : ItemConforms item) :
    Rule.failing items.rules (item.without "thumbnail_url") =
      [mandatory "thumbnail_url", .ofField (here ".thumbnail_url looks like a URL") "thumbnail_url"
        (Field.isAddress .httpText)] := by
  have missing : Field.isPresent .missing = false ∧ Field.isAddress .httpText .missing = false :=
    ⟨rfl, rfl⟩
  obtain ⟨id, named, _, quantity, price, _, counted, priced⟩ := conforms.fields
  simp [items, Group.rules, itemFields, mandatory, Rule.failing, Value.field_without, *]

theorem failing_of_empty_name (conforms : ItemConforms item) :
    Rule.failing items.rules (item.set "product_name" (.string "")) = [] := by
  have present : Field.isPresent (.ofOption (some (.string ""))) = true := rfl
  obtain ⟨id, _, thumbnail, quantity, price, address, counted, priced⟩ := conforms.fields
  simp [items, Group.rules, itemFields, mandatory, Rule.failing, Value.field_set conforms.object, *]

end Faults

section Documents

variable {document order item : Value} {i j : Nat}

theorem OrderConforms.itemConforms (conforms : OrderConforms order)
    (inside : (order.elements "items")[j]? = some item) : ItemConforms item := by
  obtain ⟨listed, found, _, each⟩ := conforms.items
  rw [Value.elements_eq_of_get? found] at inside
  exact each item (List.mem_of_getElem? inside)

theorem failuresIn_changed_item (conforms : Conforms document)
    (found : (document.elements "orders")[i]? = some order)
    (inside : (order.elements "items")[j]? = some item) {change : Value → Value}
    (bare : displayFields.areIn (change item) = false) :
    failuresIn (rules.check (document.changeAt change (itemPath i j))).outcomes =
      (Rule.failing items.rules (change item)).map (·.failure (change item) (itemPath i j)) ++
        [.fail displayLabel (some ("missing display data at: " ++ itemsIn (orderPlace i) j))] := by
  have own := conforms.orderConforms found
  obtain ⟨listed, held, within⟩ := Value.elements_getElem?_eq_some_iff.mp inside
  have carried := ((orderConforms_iff order).mp own).2.2
  rw [Value.elements_eq_of_get? held] at carried
  rw [itemPath, Value.changeAt_append, failuresIn_changed conforms found,
    failuresAt_of_changed_item own held within, barePlacesIn_of_changed held within carried, bare,
    failuresIn_displayOutcome]
  simp

theorem failsOnly_without_pagination (conforms : Conforms document) :
    (rules.check (document.without "pagination")).FailsOnly
      [.fail "pagination is an object" (some "got undefined")] := by
  obtain ⟨listed, found, each⟩ := conforms.orders
  have kept : (document.without "pagination").get? "orders" = some (.array listed) := by
    rw [Value.get?_without, if_neg (by decide), found]
  have refused : Rule.evaluate (.ofField "pagination is an object" "pagination" Field.isObject)
      (document.without "pagination") = false := by
    simp only [Rule.ofField, Value.field_without]
    rfl
  have fields : orders.Accepts (document.without "pagination") := by
    rw [Group.accepts_each_iff rfl, Value.elements_eq_of_get? kept]
    exact ⟨by simp [orders, Group.precondition],
      fun order member => (each order member).acceptsNode⟩
  have display : barePlaces (document.without "pagination") = [] := by
    rw [barePlaces_eq_flatMap, Value.elements_eq_of_get? kept, List.flatMap_eq_nil_iff]
    rintro ⟨order, i⟩ numbered
    have member := List.mem_of_getElem? (List.mk_mem_zipIdx_iff_getElem?.mp numbered)
    exact barePlacesIn_eq_nil ((orderConforms_iff order).mp (each order member)).2.2 i
  apply RuleSet.failsOnly_of_failuresIn
  rw [failuresIn_check kept, Group.failures_of_refused rfl rfl refused,
    Group.failures_of_accepts fields, display, Rule.failure,
    Rule.labelAt_of_unmarked (unmarked_of_lacksMark rfl)]
  simp only [Rule.ofField, Option.map_some, Value.field_without]
  rfl

theorem failsOnly_of_unknown_status (conforms : Conforms document)
    (found : (document.elements "orders")[i]? = some order) {text : String}
    (unknown : text ∉ statuses) :
    (rules.check (document.changeAt (·.set "status" (.string text)) (orderPath i))).FailsOnly
      [.fail (orderPlace i ++ ".status is a valid enum value")
        (some ("got " ++ Value.text (.string text) ++
          ", expected one of: pending, confirmed, shipped, delivered, cancelled"))] := by
  have own := conforms.orderConforms found
  have elements : (order.set "status" (.string text)).elements "items" = order.elements "items" :=
    Value.elements_congr (by rw [Value.field_set own.object, if_neg (by decide)])
  have bare : barePlacesIn (order.set "status" (.string text)) i = [] :=
    barePlacesIn_eq_nil (elements ▸ ((orderConforms_iff order).mp own).2.2) i
  apply RuleSet.failsOnly_of_failuresIn
  rw [failuresIn_changed conforms found, failuresAt_of_unknown_status own unknown, bare,
    text_orderPath]
  rfl

theorem failsOnly_of_lost_items (conforms : Conforms document)
    (found : (document.elements "orders")[i]? = some order) {change : Value → Value}
    (same : ∀ name, name ≠ "items" → (change order).field name = order.field name)
    (lost : (change order).field "items" = .missing) :
    (rules.check (document.changeAt change (orderPath i))).FailsOnly
      [.fail (orderPlace i ++ ".items is present")
          (some ("got " ++ (((change order).get? "items").map Value.text).getD "undefined")),
        .fail (orderPlace i ++ ".items has at least one item") (some "got undefined")] := by
  apply RuleSet.failsOnly_of_failuresIn
  rw [failuresIn_changed conforms found, barePlacesIn_of_missing lost,
    failuresAt_of_lost_items (conforms.orderConforms found) same lost, text_orderPath]
  rfl

theorem failsOnly_without_thumbnail (conforms : Conforms document)
    (found : (document.elements "orders")[i]? = some order)
    (inside : (order.elements "items")[j]? = some item) :
    (rules.check (document.changeAt (·.without "thumbnail_url") (itemPath i j))).FailsOnly
      [.fail (itemsIn (orderPlace i) j ++ ".thumbnail_url is present") (some "got undefined"),
        .fail (itemsIn (orderPlace i) j ++ ".thumbnail_url looks like a URL")
          (some "got undefined"),
        .fail displayLabel (some ("missing display data at: " ++ itemsIn (orderPlace i) j))] := by
  have shown := (conforms.orderConforms found).itemConforms inside
  have bare : displayFields.areIn (item.without "thumbnail_url") = false := by
    rw [DisplayFields.areIn, displayFields, Value.field_without item _ "thumbnail_url", if_pos rfl]
    exact Bool.and_false _
  have first : (mandatory "thumbnail_url").failure (item.without "thumbnail_url") (itemPath i j) =
      .fail ((itemPath i j).text ++ ".thumbnail_url is present") _ :=
    failure_here rfl (unmarked_of_lacksMark rfl) _ _
  apply RuleSet.failsOnly_of_failuresIn
  rw [failuresIn_changed_item conforms found inside bare, failing_without_thumbnail shown,
    List.map_cons, List.map_singleton, first, failure_here rfl (unmarked_of_lacksMark rfl),
    text_itemPath]
  simp only [mandatory, Rule.ofField, Rule.withDetail, Option.map_some, Value.get?_without,
    Value.field_without]
  rfl

theorem failsOnly_of_empty_name (conforms : Conforms document)
    (found : (document.elements "orders")[i]? = some order)
    (inside : (order.elements "items")[j]? = some item) :
    (rules.check
        (document.changeAt (·.set "product_name" (.string "")) (itemPath i j))).FailsOnly
      [.fail displayLabel (some ("missing display data at: " ++ itemsIn (orderPlace i) j))] := by
  have shown := (conforms.orderConforms found).itemConforms inside
  have bare : displayFields.areIn (item.set "product_name" (.string "")) = false := by
    rw [DisplayFields.areIn, displayFields, Value.field_set shown.object, if_pos rfl]
    rfl
  apply RuleSet.failsOnly_of_failuresIn
  rw [failuresIn_changed_item conforms found inside bare, failing_of_empty_name shown]
  rfl

/-- Every single fault in a document that meets the contract leads to its own failures alone. -/
theorem failsOnly_of_single_fault (clean : (rules.check document).failCount = 0) :
    (∀ i order, (document.elements "orders")[i]? = some order →
      (∀ text, text ∉ statuses →
        (rules.check (document.changeAt (·.set "status" (.string text)) (orderPath i))).FailsOnly
          [.fail (orderPlace i ++ ".status is a valid enum value")
            (some ("got " ++ Value.text (.string text) ++
              ", expected one of: pending, confirmed, shipped, delivered, cancelled"))]) ∧
      (rules.check (document.changeAt (·.without "items") (orderPath i))).FailsOnly
        [.fail (orderPlace i ++ ".items is present") (some "got undefined"),
          .fail (orderPlace i ++ ".items has at least one item") (some "got undefined")] ∧
      (rules.check (document.changeAt (·.set "items" .null) (orderPath i))).FailsOnly
        [.fail (orderPlace i ++ ".items is present") (some "got null"),
          .fail (orderPlace i ++ ".items has at least one item") (some "got undefined")] ∧
      ∀ j item, (order.elements "items")[j]? = some item →
        (rules.check (document.changeAt (·.without "thumbnail_url") (itemPath i j))).FailsOnly
          [.fail (itemsIn (orderPlace i) j ++ ".thumbnail_url is present") (some "got undefined"),
            .fail (itemsIn (orderPlace i) j ++ ".thumbnail_url looks like a URL")
              (some "got undefined"),
            .fail displayLabel (some ("missing display data at: " ++ itemsIn (orderPlace i) j))] ∧
        (rules.check
            (document.changeAt (·.set "product_name" (.string "")) (itemPath i j))).FailsOnly
          [.fail displayLabel (some ("missing display data at: " ++ itemsIn (orderPlace i) j))]) ∧
    (rules.check (document.without "pagination")).FailsOnly
      [.fail "pagination is an object" (some "got undefined")] := by
  have conforms := (check_failCount_iff_conforms document).mp clean
  refine ⟨?_, failsOnly_without_pagination conforms⟩
  intro i order found
  have object := (conforms.orderConforms found).object
  refine ⟨?_, ?_, ?_, ?_⟩
  · exact fun text unknown => failsOnly_of_unknown_status conforms found unknown
  · have fails : (rules.check (document.changeAt (·.without "items") (orderPath i))).FailsOnly _ :=
      failsOnly_of_lost_items conforms found
        (fun _ apart => by rw [Value.field_without, if_neg apart])
        (by rw [Value.field_without, if_pos rfl])
    rwa [Value.get?_without, if_pos rfl] at fails
  · have fails :
        (rules.check (document.changeAt (·.set "items" .null) (orderPath i))).FailsOnly _ :=
      failsOnly_of_lost_items conforms found
        (fun _ apart => by rw [Value.field_set object, if_neg apart])
        (by rw [Value.field_set object, if_pos rfl, Field.ofOption_null])
    rwa [Value.get?_set object, if_pos rfl] at fails
  · intro j item inside
    exact ⟨failsOnly_without_thumbnail conforms found inside,
      failsOnly_of_empty_name conforms found inside⟩

end Documents

def sampleNumber (n : Fin 1000) : Value := .number (.integer ⟨n.val, by omega, by omega⟩)

def sampleItem : Value :=
  .object
    [("product_id", .string "p-1"), ("product_name", .string "Cup"), ("quantity", sampleNumber 2),
      ("thumbnail_url", .string "https://cdn.test/cup.png"), ("unit_price_cents", sampleNumber 250)]

def sampleOrder : Value :=
  .object
    [("created_at", .string "2024-01-01T00:00:00Z"), ("currency", .string "USD"),
      ("id", .string "o-1"), ("items", .array [sampleItem, sampleItem]),
      ("status", .string "shipped"), ("total_cents", sampleNumber 500)]

def sampleDocument : Value :=
  .object
    [("orders", .array [sampleOrder]),
      ("pagination", .object
        [("limit", sampleNumber 20), ("offset", sampleNumber 0), ("total", sampleNumber 1)])]

theorem failsOnly_of_sample :
    (rules.check sampleDocument).failCount = 0 ∧
      (rules.check
          (sampleDocument.changeAt (·.set "status" (.string "unknown")) (orderPath 0))).FailsOnly
        [.fail "orders[0].status is a valid enum value"
          (some ("got \"unknown\", expected one of: " ++
            "pending, confirmed, shipped, delivered, cancelled"))] ∧
      (rules.check
          (sampleDocument.changeAt (·.without "thumbnail_url") (itemPath 0 1))).FailsOnly
        [.fail "orders[0].items[1].thumbnail_url is present" (some "got undefined"),
          .fail "orders[0].items[1].thumbnail_url looks like a URL" (some "got undefined"),
          .fail displayLabel (some "missing display data at: orders[0].items[1]")] := by
  have clean : (rules.check sampleDocument).failCount = 0 := by decide +kernel
  obtain ⟨status, _, _, items⟩ := (failsOnly_of_single_fault clean).1 0 sampleOrder rfl
  have unknown := status "unknown" (by decide)
  obtain ⟨picture, _⟩ := items 1 sampleItem rfl
  refine ⟨clean, ?_, ?_⟩
  · have told : Outcome.fail (orderPlace 0 ++ ".status is a valid enum value")
        (some ("got " ++ Value.text (.string "unknown") ++
          ", expected one of: pending, confirmed, shipped, delivered, cancelled")) =
        .fail "orders[0].status is a valid enum value"
          (some ("got \"unknown\", expected one of: " ++
            "pending, confirmed, shipped, delivered, cancelled")) := by
      decide +kernel
    exact told ▸ unknown
  · have place : itemsIn (orderPlace 0) 1 = "orders[0].items[1]" := by decide +kernel
    rw [place] at picture
    exact picture

end OrdersContract.Contract.MinorUnits
