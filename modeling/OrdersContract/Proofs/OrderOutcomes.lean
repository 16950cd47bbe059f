import OrdersContract.Proofs.InlineData
import OrdersContract.Proofs.MajorFaults
import OrdersContract.Proofs.PagedRules

set_option autoImplicit false

namespace OrdersContract.Contract.MajorUnits

open Json Text

def breakDetail (collection field : String) (i : Nat) (a b : String) : String :=
  collection ++ "[" ++ decimalText i ++ "]." ++ field ++ "=" ++ a ++ " follows " ++
    collection ++ "[" ++ decimalText (i - 1) ++ "]." ++ field ++ "=" ++ b

structure TellsOrder (collection field : String) (direction : Direction) (elements : List Value)
    (told : List Outcome) : Prop where
  recorded : told ≠ [] ↔ 1 < elements.length
  once : told.length ≤ 1
  failed : ∀ outcome ∈ told, outcome.passed = false ↔
    ∃ i, direction.firstBreak? field elements = some i
  shown : ∀ outcome ∈ told, ∀ i, direction.firstBreak? field elements = some i →
    1 ≤ i ∧ ∃ (within : i < elements.length) (a b : String), elements[i].Shows field a ∧
      elements[i - 1].Shows field b ∧ outcome.detail = some (breakDetail collection field i a b)
  noFallback : ∀ outcome ∈ told, outcome.detail ≠
    some (collection ++ " are not sorted by " ++ field ++ " " ++ direction.name)

theorem breakDetail_ne (collection field : String) (i : Nat) (a b : String)
    (direction : Direction) : breakDetail collection field i a b ≠
      collection ++ " are not sorted by " ++ field ++ " " ++ direction.name := by
  intro same
  have chars := congrArg String.toList same
  simp [breakDetail, String.append_assoc] at chars

theorem tellsOrder_nil {collection field : String} {direction : Direction} {elements : List Value}
    (few : elements.length ≤ 1) : TellsOrder collection field direction elements [] := by
  constructor
  case recorded => simpa using few
  case once => simp
  case failed => simp
  case shown => simp
  case noFallback => simp

section OneRule

variable (label : String) {collection field : String} {direction : Direction} {node : Value}
  (path : Path)

theorem detail_of_break {i : Nat}
    (broken : direction.firstBreak? field (node.elements collection) = some i) :
    1 ≤ i ∧ ∃ (within : i < (node.elements collection).length) (a b : String),
      ((node.elements collection)[i]).Shows field a ∧
      ((node.elements collection)[i - 1]).Shows field b ∧
      ((orderedRule label collection field direction).outcome node path).detail =
        some (breakDetail collection field i a b) := by
  -- No break is at the first element, so there is one before it.
  cases i with
  | zero => exact absurd broken (Direction.firstBreak?_ne_zero direction field _)
  | succ k =>
    obtain ⟨before, after, here, next, told⟩ := detail_orderedRule label broken
    obtain ⟨within, rfl⟩ := List.getElem?_eq_some_iff.mp next
    obtain ⟨_, rfl⟩ := List.getElem?_eq_some_iff.mp here
    refine ⟨by omega, within, _, _, Value.shows_field _ _, Value.shows_field _ _, ?_⟩
    have fails : (orderedRule label collection field direction).evaluate node = false := by
      simp [orderedRule, broken]
    simp only [Rule.outcome, fails, Bool.false_eq_true, if_false, Outcome.fail, told]
    simp [shownElement, breakDetail, String.append_assoc]

theorem tellsOrder_of_several (several : 1 < (node.elements collection).length) :
    TellsOrder collection field direction (node.elements collection)
      [(orderedRule label collection field direction).outcome node path] := by
  have failed : ((orderedRule label collection field direction).outcome node path).passed = false ↔
      ∃ i, direction.firstBreak? field (node.elements collection) = some i := by
    rw [Rule.passed_outcome]
    simp [orderedRule, Option.isSome_iff_exists]
  constructor
  case recorded => simpa using several
  case once => simp
  case failed => simpa using failed
  case shown =>
    intro outcome listed i broken
    obtain rfl := List.mem_singleton.mp listed
    exact detail_of_break label path broken
  case noFallback =>
    intro outcome listed fallback
    obtain rfl := List.mem_singleton.mp listed
    cases broken : direction.firstBreak? field (node.elements collection) with
    | none =>
      have passes : (orderedRule label collection field direction).evaluate node = true := by
        simp [orderedRule, broken]
      simp [Rule.outcome, passes, Outcome.pass] at fallback
    | some i =>
      obtain ⟨_, _, a, b, _, _, told⟩ := detail_of_break label path broken
      rw [told, Option.some.injEq] at fallback
      exact breakDetail_ne collection field i a b direction fallback

end OneRule

section Items

variable {document order : Value} {i : Nat}

def itemsSortedLabel (place : String) : String := place ++ ".items sorted by unit_price descending"

theorem itemsSortedLabel_mem_orderLabels_iff {place : String} {items : Option Nat} :
    itemsSortedLabel place ∈ orderLabels place items ↔ 1 < items.getD 0 := by
  have inside (n : Nat) : itemsSortedLabel place ∉ itemsLabels itemLabels place (some n) := by
    intro listed
    obtain ⟨j, _, below⟩ := List.mem_flatMap.mp listed
    obtain ⟨rest, _, same⟩ := List.mem_map.mp below
    have chars := congrArg String.toList same
    simp [itemsIn, itemsSortedLabel, String.append_assoc] at chars
  have apart (rest : String) (other : rest ≠ ".items sorted by unit_price descending") :
      ¬itemsSortedLabel place = place ++ rest := by
    rw [itemsSortedLabel, String.append_right_inj]
    exact other.symm
  cases items with
  | none => simp [orderLabels, apart]
  | some n =>
    have own : place ++ ".items sorted by unit_price descending" = itemsSortedLabel place := rfl
    simp [orderLabels, invariantLabels, inside, apart, own]

def itemsSorted : Rule :=
  orderedRule (here ".items sorted by unit_price descending") "items" "unit_price" .descending

theorem filter_itemsSortedLabel (found : (document.elements "orders")[i]? = some order)
    (several : 1 < (order.elements "items").length) :
    (plainRules.check document).outcomes.filter (·.label = itemsSortedLabel (orderPlace i)) =
      [itemsSorted.outcome order (orderPath i)] := by
  have label :
      (itemsSorted.outcome order (orderPath i)).label = itemsSortedLabel (orderPlace i) := by
    rw [Rule.outcome_label, Rule.labelAt_here rfl (unmarked_of_lacksMark rfl), text_orderPath]
    rfl
  obtain ⟨listed, held, inside⟩ := Value.elements_getElem?_eq_some_iff.mp found
  obtain ⟨items, array, _⟩ :=
    Value.elements_getElem?_eq_some_iff.mp (List.getElem?_eq_getElem several)
  have applies : itemsSorted.appliesTo order = true := decide_eq_true several
  rw [← label]
  exact filter_label_of_distinct (labels_distinct (.inr rfl) document)
    (mem_check_of_order held inside array (r := 2) rfl applies)

theorem label_ne_itemsSortedLabel (found : (document.elements "orders")[i]? = some order)
    (few : (order.elements "items").length ≤ 1) :
    ∀ outcome ∈ (plainRules.check document).outcomes,
      outcome.label ≠ itemsSortedLabel (orderPlace i) := by
  intro outcome recorded same
  have listed : itemsSortedLabel (orderPlace i) ∈ plainLabels (.of document) :=
    same ▸ map_label_plainRules document ▸ List.mem_map_of_mem recorded
  have tells : TellsOf i (itemsSortedLabel (orderPlace i)) := by
    rw [TellsOf, itemsSortedLabel, String.toList_append]
    exact List.prefix_append _ _
  -- The label could only be one of this order, and its own labels hold it for several items alone.
  have own := mem_orderLabels_of_tellsOf found listed tells
  rw [itemsSortedLabel_mem_orderLabels_iff, ← Value.length_elements] at own
  omega

theorem tellsOrder_of_items (found : (document.elements "orders")[i]? = some order) :
    TellsOrder "items" "unit_price" .descending (order.elements "items")
      ((plainRules.check document).outcomes.filter (·.label = itemsSortedLabel (orderPlace i))) := by
  by_cases several : 1 < (order.elements "items").length
  next =>
    rw [filter_itemsSortedLabel found several]
    exact tellsOrder_of_several _ _ several
  next =>
    have few := Nat.not_lt.mp several
    have none : (plainRules.check document).outcomes.filter
        (·.label = itemsSortedLabel (orderPlace i)) = [] := by
      simpa using label_ne_itemsSortedLabel found few
    rw [none]
    exact tellsOrder_nil few

end Items

theorem filter_ordersSorted (pageSize : Nat) {sort field : String} {direction : Direction}
    (named : NamesOrder sort field direction) (document : Value) :
    ((pageRules pageSize sort).check document).outcomes.filter (IsAboutOrder ·) =
      if 1 < (document.elements "orders").length then
        [(ordersSorted field direction).outcome document []] else [] := by
  rw [filter_isAboutOrder, orderOutcomes_of_names named, evaluate_hasOrders, Value.elements]
  cases document.elements? "orders" <;> rfl

theorem tellsOrder_of_page (pageSize : Nat) {sort field : String} {direction : Direction}
    (named : NamesOrder sort field direction) (document : Value) :
    TellsOrder "orders" field direction (document.elements "orders")
      (((pageRules pageSize sort).check document).outcomes.filter (IsAboutOrder ·)) := by
  rw [filter_ordersSorted pageSize named]
  split
  next several => exact tellsOrder_of_several _ _ several
  next few => exact tellsOrder_nil (Nat.not_lt.mp few)

/--
Of the order of the items of an order, and of the orders of a page whose sort parameter names an
order, a check tells exactly when there are several of them, and then once. It is a failure exactly
when the search finds a break. The failure shows the element at the break and the one before it,
which both exist, and never falls back to a text without them.
-/
theorem sortOutcomes_told :
    (∀ (document order : Value) (i : Nat), (document.elements "orders")[i]? = some order →
      TellsOrder "items" "unit_price" .descending (order.elements "items")
        ((plainRules.check document).outcomes.filter
          (·.label = orderPlace i ++ ".items sorted by unit_price descending"))) ∧
    ∀ (pageSize : Nat) (sort field : String) (direction : Direction),
      NamesOrder sort field direction → ∀ document : Value,
        TellsOrder "orders" field direction (document.elements "orders")
          (((pageRules pageSize sort).check document).outcomes.filter (IsAboutOrder ·)) :=
  ⟨fun _ _ _ found => tellsOrder_of_items found,
    fun pageSize _ _ _ named document => tellsOrder_of_page pageSize named document⟩

/-- An order with an item that is no object behind a priced one, and an order without an amount. -/
def unpricedOrders : List Value :=
  [.object [("total_amount", .number (wholeNumber 5)),
      ("items", .array [.object [("unit_price", .number (wholeNumber 3))], .null])],
    .object [("total_amount", .null)]]

theorem unpricedOrders_told :
    let document : Value := .object [("orders", .array unpricedOrders)]
    ∃ order, (document.elements "orders")[0]? = some order ∧
      NamesOrder "total_amount:asc" "total_amount" .ascending ∧
      TellsOrder "items" "unit_price" .descending (order.elements "items")
        [.fail "orders[0].items sorted by unit_price descending"
          (some "items[1].unit_price=undefined follows items[0].unit_price=3")] ∧
      TellsOrder "orders" "total_amount" .ascending unpricedOrders
        [.fail "orders sorted by total_amount ascending"
          (some "orders[1].total_amount=undefined follows orders[0].total_amount=5")] := by
  intro document
  obtain ⟨order, here, several, items⟩ : ∃ order, (document.elements "orders")[0]? = some order ∧
      1 < (order.elements "items").length ∧ itemsSorted.outcome order (orderPath 0) =
        .fail "orders[0].items sorted by unit_price descending"
          (some "items[1].unit_price=undefined follows items[0].unit_price=3") :=
    ⟨_, rfl, by decide, by decide +kernel⟩
  have named : NamesOrder "total_amount:asc" "total_amount" .ascending := by
    decide +kernel
  have page : (ordersSorted "total_amount" .ascending).outcome document [] =
      .fail "orders sorted by total_amount ascending"
        (some "orders[1].total_amount=undefined follows orders[0].total_amount=5") := by
    decide +kernel
  obtain ⟨ofItems, ofPage⟩ := sortOutcomes_told
  have itemsTold := ofItems document order 0 here
  have pageTold := ofPage 20 _ _ _ named document
  rw [filter_ordersSorted 20 named, if_pos (by decide), page] at pageTold
  rw [← itemsSortedLabel, filter_itemsSortedLabel here several, items] at itemsTold
  exact ⟨order, here, named, itemsTold, pageTold⟩

end OrdersContract.Contract.MajorUnits
