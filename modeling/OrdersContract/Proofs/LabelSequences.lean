import Mathlib.Algebra.BigOperators.Group.List.Basic
import Mathlib.Algebra.Ring.Nat
import OrdersContract.Contract.MajorUnits
import OrdersContract.Contract.MinorUnits
import OrdersContract.Proofs.Decimals
import OrdersContract.Proofs.GroupLabels

/-!
Which labels a check of an order list has, one after the other. They tell nothing of the values that
were found: the outline of a document, how many orders there are and how many items each has,
settles them.
-/

set_option autoImplicit false

namespace OrdersContract

open Json Text

/-- How many orders a document has, how many items each, and whether it tells the page. -/
structure Outline where
  /-- None where there is no array; the same for the items of an order. -/
  orders : Option (List (Option Nat))
  paged : Bool
deriving DecidableEq

def Outline.of (document : Value) : Outline where
  orders := (document.elements? "orders").map fun orders => orders.map (·.length? "items")
  paged := (document.field "pagination").isObject

namespace Contract

inductive OrderRules : RuleSet → Prop where
  | minorUnits : OrderRules MinorUnits.rules
  | plain : OrderRules MajorUnits.plainRules
  | page (pageSize : Nat) (sort : String) : OrderRules (MajorUnits.pageRules pageSize sort)
  | status (status : String) : OrderRules (MajorUnits.statusRules status)

def gateLabel : String := "response has an \"orders\" array"

def displayLabel : String :=
  "all items carry product_name and thumbnail_url inline (no follow-up fetch)"

def orderPlace (i : Nat) : String := "orders[" ++ decimalText i ++ "]"

def itemsIn (order : String) (j : Nat) : String := order ++ ".items[" ++ decimalText j ++ "]"

def ordersLabels (each : String → Option Nat → List String) (orders : List (Option Nat)) :
    List String :=
  orders.zipIdx.flatMap fun numbered => each (orderPlace numbered.2) numbered.1

def itemsLabels (each : String → List String) (order : String) (items : Option Nat) :
    List String :=
  (List.range (items.getD 0)).flatMap fun j => each (itemsIn order j)

namespace MinorUnits

def paginationLabels (paged : Bool) : List String :=
  "pagination is an object" ::
    if paged then
      ["pagination.limit is a non-negative integer",
        "pagination.offset is a non-negative integer",
        "pagination.total is a non-negative integer"]
    else []

def itemLabels (item : String) : List String :=
  [".product_id is present",
    ".product_name is present",
    ".thumbnail_url is present",
    ".quantity is present",
    ".unit_price_cents is present",
    ".thumbnail_url looks like a URL",
    ".quantity is a positive integer",
    ".unit_price_cents is a positive integer"].map (item ++ ·)

def orderLabels (order : String) (items : Option Nat) : List String :=
  [".id is present",
    ".status is present",
    ".total_cents is present",
    ".currency is present",
    ".created_at is present",
    ".items is present",
    ".status is a valid enum value",
    ".total_cents is a non-negative integer",
    ".created_at is an ISO 8601 timestamp"].map (order ++ ·) ++
    (order ++ ".items has at least one item") :: itemsLabels itemLabels order items

def labels (outline : Outline) : List String :=
  gateLabel :: outline.orders.elim [] fun orders =>
    paginationLabels outline.paged ++ ordersLabels orderLabels orders ++ [displayLabel]

end MinorUnits

namespace MajorUnits

def itemLabels (item : String) : List String :=
  [".product_id is a non-empty string",
    ".product_name is a non-empty string",
    ".thumbnail_url is a valid URL",
    ".quantity is a positive integer",
    ".unit_price is a positive number"].map (item ++ ·)

def invariantLabels (order : String) (items : Nat) : List String :=
  [order ++ ".items is non-empty", order ++ ".item_count matches items.length"] ++
    (if 1 < items then [order ++ ".items sorted by unit_price descending"] else []) ++
    (if 0 < items then
      [order ++ " card render: first item has thumbnail_url",
        order ++ " card render: first item has product_name"] else []) ++
    itemsLabels itemLabels order items

def orderLabels (order : String) (items : Option Nat) : List String :=
  [".order_id is a non-empty string",
    ".status is a valid enum value",
    ".created_at is an ISO 8601 timestamp",
    ".total_amount is a positive number",
    ".currency is a non-empty string",
    ".item_count is a non-negative integer"].map (order ++ ·) ++
    (order ++ ".items is an array") :: items.elim [] (invariantLabels order)

def paginationLabels (paged : Bool) : List String :=
  "pagination is an object" ::
    if paged then
      ["pagination.page is a positive integer",
        "pagination.page_size is a positive integer",
        "pagination.page_size <= 50",
        "pagination.total_count is a non-negative integer",
        "pagination.total_pages is a non-negative integer"]
    else []

def plainLabels (outline : Outline) : List String :=
  gateLabel :: outline.orders.elim [] fun orders =>
    ["orders array is non-empty", "orders count <= default page_size (20)"] ++
      ordersLabels orderLabels orders ++ paginationLabels outline.paged ++ [displayLabel]

-- A name in a sort parameter may hold the mark of a place, which the label does not keep.
def sortLabels (sort : String) : List String :=
  ((sortOrder? sort).map fun order => (ordersSorted order.1 order.2).labelAt []).toList

def pageLabels (pageSize : Nat) (sort : String) (outline : Outline) : List String :=
  gateLabel :: outline.orders.elim [] fun orders =>
    ("orders count <= requested page_size (" ++ decimalText pageSize ++ ")") ::
      (if 1 < orders.length then sortLabels sort else []) ++
      "pagination is an object" ::
        if outline.paged then
          ["pagination.page_size reflects request (" ++ decimalText pageSize ++ ")"]
        else []

def statusLabels (status : String) (outline : Outline) : List String :=
  gateLabel :: outline.orders.elim [] fun _ =>
    [.ofList (putPlace [] ("all returned orders have status '" ++ status ++ "'").toList)]

end MajorUnits

theorem text_orderPlace (i : Nat) : Path.text [.field "orders", .index i] = orderPlace i := by
  rfl

theorem orderPlace_ne (i : Nat) : orderPlace i ≠ "" := by
  rw [ne_eq, ← String.toList_eq_nil_iff, orderPlace]
  simp

theorem text_itemsIn {path : Path} (below : path.text ≠ "") (j : Nat) :
    Path.text (path ++ [.field "items", .index j]) = itemsIn path.text j := by
  have dotted : "." ++ "items" ++ "[" = ".items[" := rfl
  rw [Path.text_element path "items" j below, itemsIn]
  simp only [String.append_assoc] at dotted ⊢
  rw [← dotted]
  simp only [String.append_assoc]

theorem map_label_orders {group : Group} (scope : group.scope = .each "orders")
    {labels : String → Option Nat → List String}
    (each : ∀ i order, (group.outcomesAt order [.field "orders", .index i]).map Outcome.label =
      labels (orderPlace i) (order.length? "items")) (document : Value) :
    (group.outcomesBelow document []).map Outcome.label =
      ordersLabels labels ((document.elements "orders").map (·.length? "items")) := by
  rw [Group.outcomesBelow_each scope, List.map_flatMap, ordersLabels, List.zipIdx_map,
    List.flatMap_map]
  exact List.flatMap_congr fun numbered _ => each numbered.2 numbered.1

theorem map_label_pagination {group : Group} {gate : Rule}
    (scope : group.scope = .field "pagination") (gated : group.precondition = some gate)
    (unguarded : gate.guard = none) (label : gate.label = "pagination is an object")
    (asks : ∀ document, gate.evaluate document = (document.field "pagination").isObject)
    {labels : List String}
    (each : ∀ page, (group.outcomesAt page [.field "pagination"]).map Outcome.label = labels)
    (document : Value) :
    (group.outcomes document []).map Outcome.label =
      "pagination is an object" ::
        if (document.field "pagination").isObject then labels else [] := by
  have unmarked : '\x7b' ∉ gate.label.toList := by
    rw [label]
    exact unmarked_of_lacksMark rfl
  rw [Group.outcomes_of_gated gated unguarded, List.map_cons, Rule.outcome_label,
    Rule.labelAt_of_unmarked unmarked, label, asks]
  by_cases paged : (document.field "pagination").isObject = true
  next =>
    obtain ⟨members, found⟩ := Field.isObject_field_iff.mp paged
    have here : (document.field "pagination").value? = some (.object members) :=
      Value.field_value?_eq_some_iff.mpr ⟨found, by simp⟩
    rw [if_pos paged, if_pos paged, Group.outcomesBelow_field scope here, List.nil_append, each]
  next => rw [if_neg paged, if_neg paged, List.map_nil]

theorem labelAt_displayInline :
    (displayInline ⟨"product_name", "thumbnail_url"⟩).labelAt [] = displayLabel :=
  Rule.labelAt_of_unmarked (unmarked_of_lacksMark rfl) []

theorem map_label_inlineData {name : String} (document : Value) :
    ((Group.mk name .current none [displayInline ⟨"product_name", "thumbnail_url"⟩] []).outcomes
      document []).map Outcome.label = [displayLabel] := by
  rw [Group.outcomes_of_single rfl, List.map_singleton, Rule.outcome_label, labelAt_displayInline]

theorem labelAt_hasOrders : hasOrders.labelAt [] = gateLabel :=
  Rule.labelAt_of_unmarked (unmarked_of_lacksMark rfl) []

theorem evaluate_hasOrders (document : Value) :
    hasOrders.evaluate document = (document.elements? "orders").isSome :=
  congrArg Option.isSome (document.items?_field "orders")

namespace OrderRules

variable {ruleSet : RuleSet}

theorem current (rules : OrderRules ruleSet) : ruleSet.root.scope = .current := by
  cases rules <;> rfl

theorem gated (rules : OrderRules ruleSet) : ruleSet.root.precondition = some hasOrders := by
  cases rules <;> rfl

theorem check_outcomes (rules : OrderRules ruleSet) (document : Value) :
    (ruleSet.check document).outcomes = hasOrders.outcome document [] ::
      if hasOrders.evaluate document then ruleSet.root.outcomesAt document [] else [] := by
  rw [RuleSet.check, Report.ofOutcomes, Group.outcomes_of_gated rules.gated rfl,
    Group.outcomesBelow_current rules.current]

theorem map_label_check (rules : OrderRules ruleSet) {document : Value}
    {labels : List (Option Nat) → List String}
    (below : (ruleSet.root.outcomesAt document []).map Outcome.label =
      labels ((document.elements "orders").map (·.length? "items"))) :
    (ruleSet.check document).outcomes.map Outcome.label =
      gateLabel :: (Outline.of document).orders.elim [] labels := by
  rw [rules.check_outcomes, List.map_cons, Rule.outcome_label, labelAt_hasOrders,
    evaluate_hasOrders, apply_ite (List.map Outcome.label), below, Outline.of, Value.elements]
  cases document.elements? "orders" <;> rfl

theorem check_of_no_orders (rules : OrderRules ruleSet) {document : Value}
    (none : ∀ orders, document.get? "orders" ≠ some (.array orders)) :
    (ruleSet.check document).outcomes =
      [⟨gateLabel, false, some ("got " ++ (document.field "orders").kindName)⟩] := by
  have refused : hasOrders.evaluate document = false := by
    rw [Bool.eq_false_iff]
    intro holds
    obtain ⟨orders, found⟩ := Field.isArray_field_iff.mp holds
    exact none orders found
  rw [rules.check_outcomes, Rule.outcome, refused, labelAt_hasOrders]
  rfl

end OrderRules

namespace MinorUnits

theorem map_label_items {path : Path} (below : path.text ≠ "") (order : Value) :
    (items.outcomes order path).map Outcome.label =
      (path.text ++ ".items has at least one item") ::
        itemsLabels itemLabels path.text (order.length? "items") := by
  have gate : Rule.labelAt (.ofField (here ".items has at least one item") "items"
      Field.isNonEmptyArray) path = path.text ++ ".items has at least one item" :=
    Rule.labelAt_here rfl (unmarked_of_lacksMark rfl) path
  have each (j : Nat) (item : Value) :
      (items.outcomesAt item (path ++ [.field "items", .index j])).map Outcome.label =
        itemLabels (itemsIn path.text j) := by
    rw [← text_itemsIn below]
    exact Group.map_label_leaf _ rfl rfl rfl (unmarked_of_all rfl) item _
  have asks : Rule.evaluate (.ofField (here ".items has at least one item") "items"
      Field.isNonEmptyArray) order = decide (0 < (order.length? "items").getD 0) :=
    order.isNonEmptyArray_field "items"
  rw [Group.outcomes_of_gated rfl rfl, List.map_cons, Rule.outcome_label, gate,
    apply_ite (List.map Outcome.label), Group.map_label_each rfl each, asks, itemsLabels]
  by_cases filled : 0 < (order.length? "items").getD 0
  next => rw [if_pos (decide_eq_true filled)]
  next =>
    obtain none := Nat.eq_zero_of_not_pos filled
    simp [none]

theorem map_label_orders (document : Value) :
    (orders.outcomes document []).map Outcome.label =
      ordersLabels orderLabels ((document.elements "orders").map (·.length? "items")) := by
  rw [Group.outcomes_of_ungated rfl]
  refine Contract.map_label_orders rfl ?_ document
  intro i order
  have place := text_orderPlace i
  have below := map_label_items (place ▸ orderPlace_ne i) order
  rw [orderLabels, ← place]
  exact Group.map_label_unguarded _ rfl rfl (unmarked_of_all rfl) ((List.append_nil _).trans below)

theorem map_label_pagination (document : Value) :
    (pagination.outcomes document []).map Outcome.label =
      paginationLabels (document.field "pagination").isObject := by
  refine Contract.map_label_pagination rfl rfl rfl rfl (fun _ => rfl) ?_ document
  intro page
  exact Group.map_label_leaf [".limit is a non-negative integer",
    ".offset is a non-negative integer", ".total is a non-negative integer"] rfl rfl rfl
    (unmarked_of_all rfl) page _

theorem map_label_check (document : Value) :
    (rules.check document).outcomes.map Outcome.label = labels (.of document) := by
  apply OrderRules.minorUnits.map_label_check
  simp only [Group.map_label_outcomesAt, rules, Group.rules, Group.children,
    List.flatMap_cons, List.flatMap_nil, map_label_pagination, map_label_orders, inlineData,
    map_label_inlineData]
  simp [Outline.of]

end MinorUnits

namespace MajorUnits

theorem map_label_itemFields {path : Path} (below : path.text ≠ "") (order : Value) :
    (itemFields.outcomes order path).map Outcome.label =
      itemsLabels itemLabels path.text (order.length? "items") := by
  rw [Group.outcomes_of_ungated rfl, itemsLabels]
  refine Group.map_label_each rfl ?_
  intro j item
  rw [← text_itemsIn below]
  exact Group.map_label_leaf _ rfl rfl rfl (unmarked_of_all rfl) item _

theorem map_labelAt_invariants {order : Value} {n : Nat}
    (counted : order.length? "items" = some n) (path : Path) :
    (orderItems.rules.filter (·.appliesTo order)).map (·.labelAt path) =
      [path.text ++ ".items is non-empty", path.text ++ ".item_count matches items.length"] ++
        (if 1 < n then [path.text ++ ".items sorted by unit_price descending"] else []) ++
        if 0 < n then
          [path.text ++ " card render: first item has thumbnail_url",
            path.text ++ " card render: first item has product_name"] else [] := by
  have length : (order.elements "items").length = n := by
    rw [Value.length_elements, counted, Option.getD_some]
  -- The rules about every array, those about several items, those about the first one.
  have parts : orderItems.rules = orderItems.rules.take 2 ++ (orderItems.rules.drop 2).take 1 ++
      orderItems.rules.drop 3 := rfl
  have always : ∀ rule ∈ orderItems.rules.take 2, rule.appliesTo order = true := by
    simp [orderItems, Group.rules, Rule.appliesTo]
  have several : ∀ rule ∈ (orderItems.rules.drop 2).take 1,
      rule.appliesTo order = decide (1 < n) := by
    simp [orderItems, Group.rules, Rule.appliesTo, orderedRule, length]
  have some_ : ∀ rule ∈ orderItems.rules.drop 3, rule.appliesTo order = decide (0 < n) := by
    simp [orderItems, Group.rules, Rule.appliesTo, onCard, counted]
  rw [parts, List.filter_append, List.filter_append, List.map_append, List.map_append,
    Rule.map_labelAt_filter [".items is non-empty", ".item_count matches items.length"] always rfl
      (unmarked_of_all rfl),
    Rule.map_labelAt_filter [".items sorted by unit_price descending"] several rfl
      (unmarked_of_all rfl),
    Rule.map_labelAt_filter [" card render: first item has thumbnail_url",
      " card render: first item has product_name"] some_ rfl (unmarked_of_all rfl)]
  simp

theorem map_label_orderItems {path : Path} (below : path.text ≠ "") (order : Value) :
    (orderItems.outcomes order path).map Outcome.label =
      (path.text ++ ".items is an array") ::
        (order.length? "items").elim [] (invariantLabels path.text) := by
  have asks : (order.field "items").isArray = (order.length? "items").isSome :=
    order.isArray_field "items"
  have gate : Rule.labelAt ((Rule.ofField (here ".items is an array") "items"
      Field.isArray).withDetail fun order => "got " ++ (order.field "items").kindName) path =
        path.text ++ ".items is an array" := Rule.labelAt_here rfl (unmarked_of_lacksMark rfl) path
  rw [Group.outcomes_of_gated rfl rfl, List.map_cons, Rule.outcome_label, gate,
    Group.outcomesBelow_current rfl]
  change _ :: List.map _ (if (order.field "items").isArray then _ else _) = _
  rw [asks]
  cases counted : order.length? "items" with
  | none => rfl
  | some n =>
    have items := map_label_itemFields below order
    rw [counted] at items
    simp only [Option.isSome_some, if_true, Group.map_label_outcomesAt,
      map_labelAt_invariants counted, Option.elim_some, invariantLabels]
    exact congrArg (_ :: _ ++ ·) ((List.append_nil _).trans items)

theorem map_label_orders (document : Value) :
    (orders.outcomes document []).map Outcome.label =
      ordersLabels orderLabels ((document.elements "orders").map (·.length? "items")) := by
  rw [Group.outcomes_of_ungated rfl]
  refine Contract.map_label_orders rfl ?_ document
  intro i order
  have place := text_orderPlace i
  have below := map_label_orderItems (place ▸ orderPlace_ne i) order
  rw [orderLabels, ← place]
  exact Group.map_label_unguarded _ rfl rfl (unmarked_of_all rfl) ((List.append_nil _).trans below)

theorem map_label_pagination (document : Value) :
    (pagination.outcomes document []).map Outcome.label =
      paginationLabels (document.field "pagination").isObject := by
  refine Contract.map_label_pagination rfl rfl rfl rfl (fun _ => rfl) ?_ document
  intro page
  exact Group.map_label_leaf [".page is a positive integer", ".page_size is a positive integer",
    ".page_size <= 50", ".total_count is a non-negative integer",
    ".total_pages is a non-negative integer"] rfl rfl (by decide +kernel) (unmarked_of_all rfl)
    page _

theorem map_labelAt_rootRules (document : Value) :
    (plainRules.root.rules.filter (·.appliesTo document)).map (·.labelAt []) =
      ["orders array is non-empty", "orders count <= default page_size (20)"] := by
  have labels : plainRules.root.rules.map Rule.label =
      ["orders array is non-empty", "orders count <= default page_size (20)"] := by
    decide +kernel
  rw [← labels]
  refine Rule.map_labelAt_of_unmarked rfl ?_ document []
  rw [labels]
  exact unmarked_of_all rfl

theorem map_label_plainRules (document : Value) :
    (plainRules.check document).outcomes.map Outcome.label = plainLabels (.of document) := by
  apply OrderRules.plain.map_label_check
  rw [Group.map_label_outcomesAt, map_labelAt_rootRules]
  simp only [plainRules, Group.children, List.flatMap_cons, List.flatMap_nil,
    map_label_pagination, map_label_orders, inlineData, map_label_inlineData, Outline.of,
    List.append_nil, List.append_assoc]

theorem brace_unmarked_decimalText (n : Nat) : '\x7b' ∉ (decimalText n).toList :=
  not_mem_decimalText (by decide) n

theorem map_label_paginationEcho (pageSize : Nat) (document : Value) :
    ((paginationEcho pageSize).outcomes document []).map Outcome.label =
      "pagination is an object" ::
        if (document.field "pagination").isObject then
          ["pagination.page_size reflects request (" ++ decimalText pageSize ++ ")"]
        else [] := by
  refine Contract.map_label_pagination rfl rfl rfl rfl (fun _ => rfl) ?_ document
  intro page
  have unmarked : '\x7b' ∉
      (".page_size reflects request (" ++ decimalText pageSize ++ ")").toList := by
    simp [brace_unmarked_decimalText]
  rw [Group.map_label_outcomesAt]
  have own : ((paginationEcho pageSize).rules.filter (·.appliesTo page)).map
      (·.labelAt [.field "pagination"]) = _ :=
    Rule.map_labelAt_unguarded [".page_size reflects request (" ++ decimalText pageSize ++ ")"] rfl
      rfl (by simpa using unmarked) page _
  have joined : "pagination" ++ ".page_size reflects request (" =
      "pagination.page_size reflects request (" := rfl
  rw [own, ← joined]
  simp only [List.map_cons, List.map_nil, String.append_assoc]
  rfl

theorem labelAt_pageBound (pageSize : Nat) :
    (pageBound pageSize "requested page_size").labelAt [] =
      "orders count <= requested page_size (" ++ decimalText pageSize ++ ")" := by
  have joined : "orders count <= " ++ "requested page_size" ++ " (" =
      "orders count <= requested page_size (" := rfl
  have label : (pageBound pageSize "requested page_size").label =
      "orders count <= requested page_size (" ++ decimalText pageSize ++ ")" :=
    congrArg (· ++ decimalText pageSize ++ ")") joined
  rw [← label]
  apply Rule.labelAt_of_unmarked
  rw [label]
  simp [brace_unmarked_decimalText]

theorem map_label_pageRules (pageSize : Nat) (sort : String) (document : Value) :
    ((pageRules pageSize sort).check document).outcomes.map Outcome.label =
      pageLabels pageSize sort (.of document) := by
  have applies : (pageBound pageSize "requested page_size").appliesTo document = true := rfl
  have sorted : (((sortOrder? sort).map fun order =>
        ordersSorted order.1 order.2).toList.filter (·.appliesTo document)).map (·.labelAt []) =
      if 1 < (document.elements "orders").length then sortLabels sort else [] := by
    rw [sortLabels]
    cases sortOrder? sort with
    | none => simp
    | some order =>
      by_cases several : 1 < (document.elements "orders").length <;>
        simp [Rule.appliesTo, ordersSorted, orderedRule, several]
  apply (OrderRules.page pageSize sort).map_label_check
  simp only [Group.map_label_outcomesAt, pageRules, Group.rules, Group.children,
    List.filter_cons, applies, if_true, List.map_cons, labelAt_pageBound, sorted,
    List.flatMap_cons, List.flatMap_nil, map_label_paginationEcho, List.length_map, Outline.of,
    List.append_nil, List.cons_append]
  rfl

theorem map_label_statusRules (status : String) (document : Value) :
    ((statusRules status).check document).outcomes.map Outcome.label =
      statusLabels status (.of document) := by
  apply (OrderRules.status status).map_label_check
  rw [Group.map_label_outcomesAt]
  rfl

end MajorUnits

theorem length_ordersLabels {each : String → Option Nat → List String} {count : Option Nat → Nat}
    (counted : ∀ order items, (each order items).length = count items)
    (orders : List (Option Nat)) :
    (ordersLabels each orders).length = (orders.map count).sum := by
  have numbered := congrArg (List.map count) (List.zipIdx_map_fst 0 orders)
  rw [List.map_map] at numbered
  rw [ordersLabels, List.length_flatMap, ← numbered]
  simp only [counted]
  rfl

theorem length_itemsLabels {each : String → List String} {n : Nat}
    (counted : ∀ item, (each item).length = n) (order : String) (items : Option Nat) :
    (itemsLabels each order items).length = n * items.getD 0 := by
  rw [itemsLabels, List.length_flatMap]
  simp only [counted]
  rw [List.map_const', List.length_range, List.sum_replicate_nat, Nat.mul_comm]

theorem MinorUnits.length_orderLabels (order : String) (items : Option Nat) :
    (orderLabels order items).length = 10 + 8 * items.getD 0 := by
  have each (item : String) : (itemLabels item).length = 8 := rfl
  rw [orderLabels, List.length_append, List.length_cons, length_itemsLabels each]
  simp only [List.length_map, List.length_cons, List.length_nil]
  omega

theorem MajorUnits.length_orderLabels (order : String) (items : Option Nat) :
    (orderLabels order items).length = 7 + items.elim 0 fun n =>
      2 + (if 0 < n then 2 else 0) + (if 1 < n then 1 else 0) + 5 * n := by
  have each (item : String) : (itemLabels item).length = 5 := rfl
  cases items with
  | none => rfl
  | some n =>
    simp only [orderLabels, invariantLabels, Option.elim_some, List.length_append, List.length_cons,
      List.length_map, List.length_nil, length_itemsLabels each, Option.getD_some,
      apply_ite List.length, Nat.reduceAdd]
    omega

theorem OrderRules.labels_eq_of_outline {ruleSet : RuleSet} (rules : OrderRules ruleSet)
    {first second : Value} (same : Outline.of first = Outline.of second) :
    (ruleSet.check first).outcomes.map Outcome.label =
      (ruleSet.check second).outcomes.map Outcome.label := by
  cases rules with
  | minorUnits => rw [MinorUnits.map_label_check, MinorUnits.map_label_check, same]
  | plain => rw [MajorUnits.map_label_plainRules, MajorUnits.map_label_plainRules, same]
  | page => rw [MajorUnits.map_label_pageRules, MajorUnits.map_label_pageRules, same]
  | status => rw [MajorUnits.map_label_statusRules, MajorUnits.map_label_statusRules, same]

/-- The labels of a check are settled by the outline of the document: which there are, in which
order, and how many. -/
theorem labels_of_outline :
    (∀ ruleSet, OrderRules ruleSet → ∀ first second, Outline.of first = Outline.of second →
      (ruleSet.check first).outcomes.map Outcome.label =
        (ruleSet.check second).outcomes.map Outcome.label) ∧
      (∀ ruleSet, OrderRules ruleSet → ∀ document : Value,
        (∀ orders, document.get? "orders" ≠ some (.array orders)) →
        (ruleSet.check document).outcomes =
          [⟨gateLabel, false, some ("got " ++ (document.field "orders").kindName)⟩]) ∧
      ∀ (document : Value) (orders : List Value),
        document.get? "orders" = some (.array orders) →
        let paged := (document.field "pagination").isObject
        let items := orders.map (·.length? "items")
        let minor := (MinorUnits.rules.check document).outcomes
        let plain := (MajorUnits.plainRules.check document).outcomes
        minor.map Outcome.label = gateLabel :: (MinorUnits.paginationLabels paged ++
            ordersLabels MinorUnits.orderLabels items ++ [displayLabel]) ∧
          minor.length = 3 + (if paged then 3 else 0) +
            (items.map fun items => 10 + 8 * items.getD 0).sum ∧
          plain.map Outcome.label = gateLabel ::
            (["orders array is non-empty", "orders count <= default page_size (20)"] ++
              ordersLabels MajorUnits.orderLabels items ++ MajorUnits.paginationLabels paged ++
              [displayLabel]) ∧
          plain.length = 5 + (if paged then 5 else 0) +
            (items.map fun items => 7 + items.elim 0 fun n =>
              2 + (if 0 < n then 2 else 0) + (if 1 < n then 1 else 0) + 5 * n).sum := by
  refine ⟨fun _ rules _ _ same => rules.labels_eq_of_outline same,
    fun _ rules _ none => rules.check_of_no_orders none, ?_⟩
  intro document orders found paged items minor plain
  have outline : Outline.of document = ⟨some items, paged⟩ := by
    rw [Outline.of, Value.elements?_eq_some_iff.mpr found]
    rfl
  have minorLabels : minor.map Outcome.label = _ := MinorUnits.map_label_check document
  have plainLabels : plain.map Outcome.label = _ := MajorUnits.map_label_plainRules document
  rw [outline] at minorLabels plainLabels
  refine ⟨minorLabels, ?_, plainLabels, ?_⟩
  · have counted := length_ordersLabels MinorUnits.length_orderLabels items
    have page : (MinorUnits.paginationLabels paged).length = 1 + if paged then 3 else 0 := by
      cases paged <;> rfl
    have same : (minor.map Outcome.label).length = minor.length := List.length_map _
    rw [← same, minorLabels, MinorUnits.labels,
      Option.elim_some, List.length_cons, List.length_append, List.length_append, counted, page,
      List.length_singleton]
    omega
  · have counted := length_ordersLabels MajorUnits.length_orderLabels items
    have page : (MajorUnits.paginationLabels paged).length = 1 + if paged then 5 else 0 := by
      cases paged <;> rfl
    have same : (plain.map Outcome.label).length = plain.length := List.length_map _
    rw [← same, plainLabels, MajorUnits.plainLabels,
      Option.elim_some, List.length_cons, List.length_append, List.length_append,
      List.length_append, counted, page, List.length_singleton, List.length_cons,
      List.length_singleton]
    omega

end Contract

end OrdersContract
