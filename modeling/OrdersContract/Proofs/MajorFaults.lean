import OrdersContract.Proofs.ChangedOrders
import OrdersContract.Proofs.MajorUnits
import OrdersContract.Proofs.UnreadFields

set_option autoImplicit false

namespace OrdersContract.Contract.MajorUnits

open Json Number Text

theorem failuresIn_check {document : Value} {listed : List Value}
    (found : document.get? "orders" = some (.array listed)) (filled : 1 ≤ listed.length)
    (few : listed.length ≤ 20) :
    failuresIn (plainRules.check document).outcomes = orders.failures document [] ++
      pagination.failures document [] ++ failuresIn [displayOutcome (barePlaces document)] := by
  have length := Value.length?_eq_some_iff.mpr ⟨listed, found, rfl⟩
  have atLeastOne : (document.length? "orders").any (0 < ·) = true := by
    rw [length]
    exact decide_eq_true filled
  have own : ∀ rule ∈ plainRules.root.rules, rule.Holds document := by
    simp only [plainRules, Group.rules, List.forall_mem_cons, Rule.holds_mk,
      holds_pageBound_iff _ _ found, usualPageSize]
    exact ⟨atLeastOne, few, by simp⟩
  rw [check_outcomes (Field.isArray_field_iff.mpr ⟨listed, found⟩), List.cons_append,
    failuresIn_cons_pass, failuresIn_append, failuresIn_append, failuresIn_append,
    Rule.failuresIn_filterMap, Rule.failing_eq_nil own, List.map_nil, List.nil_append]
  rfl

section Orders

variable {order : Value}

theorem acceptsNode_iff : orders.AcceptsNode order ↔
    (∀ rule ∈ orders.rules, rule.Holds order) ∧ orderItems.Accepts order := by
  simp [Group.AcceptsNode, orders, Group.children]

theorem fields_of_accepts (accepts : orders.AcceptsNode order) :
    (order.field "order_id").isNonEmptyString = true ∧
      (order.field "status").isOneOf statuses = true ∧
      (order.field "created_at").isTimestamp = true ∧
      (order.field "total_amount").isPositiveNumber = true ∧
      (order.field "currency").isNonEmptyString = true ∧
      (order.field "item_count").isNonNegativeInteger = true := by
  have hold := accepts.1
  simpa [orders, filledText, Group.rules] using hold

theorem object_of_accepts (accepts : orders.AcceptsNode order) :
    ∃ members, order = .object members := by
  obtain ⟨named, _⟩ := fields_of_accepts accepts
  obtain ⟨id, found, _⟩ := Field.isNonEmptyString_field_iff.mp named
  exact Value.isObject_of_get? found

theorem items_of_accepts (accepts : orders.AcceptsNode order) :
    ∃ items, order.get? "items" = some (.array items) ∧ items ≠ [] ∧ countsItems order = true ∧
      (∀ item ∈ items, ItemConforms item) ∧ items.Pairwise NotDearer :=
  (accepts_orderItems_iff order).mp (acceptsNode_iff.mp accepts).2

theorem conforms_of_accepts (accepts : orders.AcceptsNode order) {items : List Value}
    (found : order.get? "items" = some (.array items)) :
    items ≠ [] ∧ countsItems order = true ∧ (∀ item ∈ items, ItemConforms item) ∧
      items.Pairwise NotDearer := by
  obtain ⟨held, alsoFound, conform⟩ := items_of_accepts accepts
  obtain rfl : held = items := by simpa [alsoFound] using found
  exact conform

theorem failuresAt_orders (order : Value) (path : Path) :
    orders.failuresAt order path = (Rule.failing orders.rules order).map (·.failure order path) ++
      orderItems.failures order path := by
  rw [Group.failuresAt_eq]
  simp [orders, Group.children]

end Orders

section Changed

variable {document order : Value} {i : Nat} {change : Value → Value}

theorem accepts_of_clean (clean : (plainRules.check document).failCount = 0)
    (found : (document.elements "orders")[i]? = some order) : orders.AcceptsNode order := by
  have accepts := (plainRules.check_failCount_eq_zero_iff document).mp clean
  obtain ⟨_, each, _⟩ := (accepts_plainRules_iff document).mp accepts
  rw [acceptsNode_iff]
  exact (accepts_orders_iff document).mp each order (List.mem_of_getElem? found)

theorem barePlaces_changed (clean : (plainRules.check document).failCount = 0)
    (here : (document.elements "orders")[i]? = some order) :
    barePlaces (document.changeAt change (orderPath i)) = barePlacesIn (change order) i := by
  have accepts := (plainRules.check_failCount_eq_zero_iff document).mp clean
  rw [accepts_plainRules_iff, inlineData, accepts_displayInline_iff] at accepts
  obtain ⟨⟨listed, found, _⟩, _, _, carried⟩ := accepts
  rw [Value.elements_eq_of_get? found] at here carried
  exact barePlaces_of_changed found here carried

theorem failuresIn_changed (clean : (plainRules.check document).failCount = 0)
    (here : (document.elements "orders")[i]? = some order) :
    failuresIn (plainRules.check (document.changeAt change (orderPath i))).outcomes =
      orders.failuresAt (change order) (orderPath i) ++
        failuresIn [displayOutcome (barePlacesIn (change order) i)] := by
  rw [← barePlaces_changed clean here]
  have accepts := (plainRules.check_failCount_eq_zero_iff document).mp clean
  rw [accepts_plainRules_iff, accepts_orders_iff, accepts_pagination_iff] at accepts
  obtain ⟨⟨listed, found, filled, few⟩, each, page, _⟩ := accepts
  rw [Value.elements_eq_of_get? found] at here each
  have changed : (document.changeAt change (orderPath i)).get? "orders" =
      some (.array (listed.modify i change)) := Value.get?_changeAt_self found i
  have samePage : pagination.Accepts (document.changeAt change (orderPath i)) := by
    rw [accepts_pagination_iff, orderPath, Value.get?_changeAt found, if_neg (by decide)]
    exact page
  have nodes : ∀ order ∈ listed, orders.AcceptsNode order :=
    fun order member => acceptsNode_iff.mpr (each order member)
  rw [failuresIn_check changed (by simpa using filled) (by simpa using few),
    Group.failures_of_accepts samePage, List.append_nil, Group.failures_of_ungated rfl,
    Group.failuresBelow_each_modify rfl (Value.elements_eq_of_get? changed) here nodes]
  rfl

theorem display_passes (clean : (plainRules.check document).failCount = 0)
    (here : (document.elements "orders")[i]? = some order)
    (bare : barePlacesIn (change order) i = []) :
    .pass displayLabel ∈ (plainRules.check (document.changeAt change (orderPath i))).outcomes := by
  obtain ⟨listed, found, _⟩ := Value.elements_getElem?_eq_some_iff.mp here
  have changed : (document.changeAt change (orderPath i)).get? "orders" =
      some (.array (listed.modify i change)) := Value.get?_changeAt_self found i
  rw [check_outcomes (Field.isArray_field_iff.mpr ⟨_, changed⟩), barePlaces_changed clean here,
    bare]
  exact List.mem_append_right _ (List.mem_singleton.mpr rfl)

end Changed

section OrderItems

variable {order : Value} {items : List Value}

def shownPrice (items : List Value) (k : Nat) : String :=
  "items[" ++ decimalText k ++ "].unit_price=" ++ shownAt items k "unit_price"

theorem failures_ofOrder (found : order.get? "items" = some (.array items)) (path : Path) :
    (if Direction.descending.firstBreak? "unit_price" items = none then [] else
      [(orderedRule (here ".items sorted by unit_price descending") "items" "unit_price"
        .descending).failure order path]) =
      (Direction.descending.firstBreak? "unit_price" items).elim [] fun k =>
        [.fail (path.text ++ ".items sorted by unit_price descending")
          (some (shownPrice items k ++ " follows " ++ shownPrice items (k - 1)))] := by
  cases broken : Direction.descending.firstBreak? "unit_price" items with
  | none => rfl
  | some k =>
    have joined (place : String) :
        place ++ "]." ++ "unit_price" ++ "=" = place ++ "].unit_price=" := by
      simp only [String.append_assoc]
      rfl
    rw [failure_here rfl (unmarked_of_lacksMark rfl)]
    simp [orderedRule, Value.elements_eq_of_get? found, broken, shownPrice, joined]

theorem failures_orderItems (found : order.get? "items" = some (.array items)) (filled : items ≠ [])
    (path : Path) :
    orderItems.failures order path =
      (if countsItems order then [] else
        [.fail (path.text ++ ".item_count matches items.length")
          (some ("item_count=" ++ (order.field "item_count").shown ++ " but items.length=" ++
            decimalText items.length))]) ++
      ((Direction.descending.firstBreak? "unit_price" items).elim [] fun k =>
        [.fail (path.text ++ ".items sorted by unit_price descending")
          (some (shownPrice items k ++ " follows " ++ shownPrice items (k - 1)))]) ++
      (if ∀ item ∈ items.head?, (item.field "thumbnail_url").isAddress .absolute = true then [] else
        [.fail (path.text ++ " card render: first item has thumbnail_url")
          (some "missing thumbnail for card")]) ++
      (if ∀ item ∈ items.head?, (item.field "product_name").isNonEmptyString = true then [] else
        [.fail (path.text ++ " card render: first item has product_name")
          (some "missing product name for card")]) ++
      itemFields.failures order path := by
  have length := Value.length?_eq_some_iff.mpr ⟨items, found, rfl⟩
  have elements := Value.elements_eq_of_get? found
  have gate : (order.field "items").isArray = true := Field.isArray_field_iff.mpr ⟨items, found⟩
  have below : orderItems.failures order path = (orderItems.rules.flatMap fun rule =>
      if rule.Holds order then [] else [rule.failure order path]) ++
        itemFields.failures order path := by
    rw [Group.failures_of_gated rfl rfl gate, Group.outcomesBelow_current rfl]
    change orderItems.failuresAt order path = _
    rw [Group.failuresAt_eq, Rule.map_failure_failing]
    simp [orderItems, Group.children]
  have atLeastOne : (order.length? "items").any (0 < ·) = true := by
    rw [length]
    exact decide_eq_true (List.length_pos_iff.mpr filled)
  have counted : Rule.failure
      { label := here ".item_count matches items.length"
        evaluate := countsItems
        detail := some fun order =>
          "item_count=" ++ (order.field "item_count").shown ++ " but items.length=" ++
            decimalText ((order.length? "items").getD 0) } order path =
      .fail (path.text ++ ".item_count matches items.length")
        (some ("item_count=" ++ (order.field "item_count").shown ++ " but items.length=" ++
          decimalText items.length)) := by
    rw [failure_here rfl (unmarked_of_lacksMark rfl)]
    simp [length]
  have image : (onCard "thumbnail_url" "missing thumbnail for card"
      (Field.isAddress .absolute)).failure order path = .fail
        (path.text ++ " card render: first item has thumbnail_url")
        (some "missing thumbnail for card") :=
    failure_here rfl (unmarked_of_lacksMark rfl) order path
  have name : (onCard "product_name" "missing product name for card"
      Field.isNonEmptyString).failure order path = .fail
        (path.text ++ " card render: first item has product_name")
        (some "missing product name for card") :=
    failure_here rfl (unmarked_of_lacksMark rfl) order path
  rw [below]
  simp only [orderItems, Group.rules, List.flatMap_cons, List.flatMap_nil, List.append_nil,
    Rule.holds_mk, atLeastOne, if_true, List.nil_append, holds_onCard_iff _ _ _ found,
    holds_orderedRule_iff, ← Direction.firstBreak?_eq_none_iff, elements, counted,
    failures_ofOrder found, image, name, List.append_assoc]

end OrderItems

section Faults

variable {order other : Value} {items : List Value}

theorem failing_of_items (accepts : orders.AcceptsNode order)
    (same : ∀ name, name ≠ "items" → other.field name = order.field name) :
    Rule.failing orders.rules other = [] := by
  obtain ⟨id, status, created, total, currency, count⟩ := fields_of_accepts accepts
  simp [orders, filledText, Group.rules, Rule.failing, *]

theorem failing_of_count (accepts : orders.AcceptsNode order)
    (same : ∀ name, name ≠ "item_count" → other.field name = order.field name) :
    Rule.failing orders.rules other =
      if (other.field "item_count").isNonNegativeInteger then [] else
        [.ofField (here ".item_count is a non-negative integer") "item_count"
          Field.isNonNegativeInteger] := by
  obtain ⟨id, status, created, total, currency, _⟩ := fields_of_accepts accepts
  by_cases whole : (other.field "item_count").isNonNegativeInteger = true <;>
    simp [orders, filledText, Group.rules, Rule.failing, *]

theorem firstBreak?_eq_none (conform : ∀ item ∈ items, ItemConforms item) :
    Direction.descending.firstBreak? "unit_price" items = none ↔ items.Pairwise NotDearer := by
  rw [Direction.firstBreak?_eq_none_iff, pairwise_inOrder_iff conform]

-- Items that meet the contract are told of only where their number or their order is wrong.
theorem failures_of_conforming (found : other.get? "items" = some (.array items))
    (filled : items ≠ []) (conform : ∀ item ∈ items, ItemConforms item) (path : Path) :
    orderItems.failures other path =
      (if countsItems other then [] else
        [.fail (path.text ++ ".item_count matches items.length")
          (some ("item_count=" ++ (other.field "item_count").shown ++ " but items.length=" ++
            decimalText items.length))]) ++
      ((Direction.descending.firstBreak? "unit_price" items).elim [] fun k =>
        [.fail (path.text ++ ".items sorted by unit_price descending")
          (some (shownPrice items k ++ " follows " ++ shownPrice items (k - 1)))]) := by
  have image : ∀ item ∈ items.head?, (item.field "thumbnail_url").isAddress .absolute = true :=
    fun item first => (conform item (List.mem_of_mem_head? first)).thumbnail
  have name : ∀ item ∈ items.head?, (item.field "product_name").isNonEmptyString = true := by
    intro item first
    have own := conform item (List.mem_of_mem_head? first)
    exact Field.isNonEmptyString_field_iff.mpr own.productName
  have below : itemFields.Accepts other := by
    rwa [accepts_itemFields_iff, Value.elements_eq_of_get? found]
  rw [failures_orderItems found filled, if_pos image, if_pos name, Group.failures_of_accepts below,
    List.append_nil, List.append_nil, List.append_nil]

theorem countsItems_congr {first second : Value}
    (count : first.field "item_count" = second.field "item_count")
    (length : first.length? "items" = second.length? "items") :
    countsItems first = countsItems second := by
  rw [countsItems, countsItems, count, length]

theorem failuresAt_of_count (accepts : orders.AcceptsNode order)
    (same : ∀ name, name ≠ "item_count" → other.field name = order.field name)
    (found : order.get? "items" = some (.array items)) (wrong : countsItems other = false)
    (path : Path) :
    orders.failuresAt other path =
      (if (other.field "item_count").isNonNegativeInteger then [] else
        [.fail (path.text ++ ".item_count is a non-negative integer")
          (some ("got " ++ (other.field "item_count").shown))]) ++
      [.fail (path.text ++ ".item_count matches items.length")
        (some ("item_count=" ++ (other.field "item_count").shown ++ " but items.length=" ++
          decimalText items.length))] := by
  obtain ⟨filled, _, conform, ordered⟩ := conforms_of_accepts accepts found
  have kept : other.get? "items" = some (.array items) := by
    rw [← Value.elements?_eq_some_iff, Value.elements?, same "items" (by decide)]
    exact Value.elements?_eq_some_iff.mpr found
  have first : Rule.failure (.ofField (here ".item_count is a non-negative integer") "item_count"
      Field.isNonNegativeInteger) other path =
        .fail (path.text ++ ".item_count is a non-negative integer")
          (some ("got " ++ (other.field "item_count").shown)) :=
    failure_here rfl (unmarked_of_lacksMark rfl) other path
  rw [failuresAt_orders, failures_of_conforming kept filled conform,
    (firstBreak?_eq_none conform).mpr ordered, wrong, failing_of_count accepts same]
  by_cases whole : (other.field "item_count").isNonNegativeInteger = true <;> simp [whole, first]

theorem failuresAt_of_no_array (accepts : orders.AcceptsNode order)
    (same : ∀ name, name ≠ "items" → other.field name = order.field name)
    (refused : (other.field "items").isArray = false) (path : Path) :
    orders.failuresAt other path =
      [.fail (path.text ++ ".items is an array")
        (some ("got " ++ (other.field "items").kindName))] := by
  have gate : orderItems.failures other path = [Rule.failure _ other path] :=
    Group.failures_of_refused rfl rfl refused path
  rw [failuresAt_orders, failing_of_items accepts same, gate, List.map_nil, List.nil_append,
    failure_here rfl (unmarked_of_lacksMark rfl)]
  rfl

theorem failuresAt_of_shuffled (accepts : orders.AcceptsNode order) {shuffled : List Value}
    (found : order.get? "items" = some (.array items)) (perm : shuffled.Perm items) (path : Path) :
    orders.failuresAt (order.set "items" (.array shuffled)) path =
      (Direction.descending.firstBreak? "unit_price" shuffled).elim [] fun k =>
        [.fail (path.text ++ ".items sorted by unit_price descending")
          (some (shownPrice shuffled k ++ " follows " ++ shownPrice shuffled (k - 1)))] := by
  obtain ⟨filled, counts, conform, _⟩ := conforms_of_accepts accepts found
  have object := object_of_accepts accepts
  have same : ∀ name, name ≠ "items" →
      (order.set "items" (.array shuffled)).field name = order.field name :=
    fun name apart => by rw [Value.field_set object, if_neg apart]
  have changed : (order.set "items" (.array shuffled)).get? "items" = some (.array shuffled) := by
    rw [Value.get?_set object, if_pos rfl]
  have length : (order.set "items" (.array shuffled)).length? "items" = order.length? "items" := by
    rw [Value.length?_eq_some_iff.mpr ⟨_, changed, rfl⟩,
      Value.length?_eq_some_iff.mpr ⟨_, found, rfl⟩, perm.length_eq]
  have counted : countsItems (order.set "items" (.array shuffled)) = true := by
    rw [countsItems_congr (same _ (by decide)) length, counts]
  have conforms : ∀ item ∈ shuffled, ItemConforms item :=
    fun item member => conform item (perm.mem_iff.mp member)
  have atLeastOne : shuffled ≠ [] := fun empty => filled (List.nil_perm.mp (empty ▸ perm))
  rw [failuresAt_orders, failing_of_items accepts same, List.map_nil, List.nil_append,
    failures_of_conforming changed atLeastOne conforms, if_pos counted, List.nil_append]

section Images

variable {item : Value} {text : String} {j : Nat}

def withImage (text : String) (item : Value) : Value := item.set "thumbnail_url" (.string text)

theorem field_withImage (conforms : ItemConforms item) (name : String) :
    (withImage text item).field name =
      if name = "thumbnail_url" then .present (.string text) else item.field name :=
  Value.field_set conforms.object name

theorem failing_withImage (conforms : ItemConforms item)
    (refused : (Field.present (.string text)).isAddress .absolute = false) :
    Rule.failing itemFields.rules (withImage text item) =
      [.ofField (here ".thumbnail_url is a valid URL") "thumbnail_url"
        (Field.isAddress .absolute)] := by
  have hold := (itemConforms_iff item).mp conforms
  simp only [itemFields, filledText, Group.rules, List.forall_mem_cons, Rule.holds_ofField] at hold
  obtain ⟨id, name, _, quantity, price, _⟩ := hold
  simp [itemFields, filledText, Group.rules, Rule.failing, field_withImage conforms, *]

-- The card shows the first item alone.
theorem image_of_head_iff (conform : ∀ item ∈ items, ItemConforms item) (filled : items ≠ [])
    (refused : (Field.present (.string text)).isAddress .absolute = false) :
    (∀ item ∈ (items.modify j (withImage text)).head?,
      (item.field "thumbnail_url").isAddress .absolute = true) ↔ j ≠ 0 := by
  obtain ⟨first, rest, rfl⟩ := List.exists_cons_of_ne_nil filled
  have own := conform first List.mem_cons_self
  cases j with
  | zero => simp [field_withImage own, refused]
  | succ j => simp [own.thumbnail]

theorem name_of_head (conform : ∀ item ∈ items, ItemConforms item) (filled : items ≠ []) :
    ∀ item ∈ (items.modify j (withImage text)).head?,
      (item.field "product_name").isNonEmptyString = true := by
  obtain ⟨first, rest, rfl⟩ := List.exists_cons_of_ne_nil filled
  have own := conform first List.mem_cons_self
  have named := Field.isNonEmptyString_field_iff.mpr own.productName
  cases j with
  | zero => simp [field_withImage own, named]
  | succ j => simp [named]

theorem failures_itemFields_of_image (found : other.get? "items" =
      some (.array (items.modify j (withImage text)))) (inside : items[j]? = some item)
    (conform : ∀ item ∈ items, ItemConforms item)
    (refused : (Field.present (.string text)).isAddress .absolute = false) (path : Path) :
    itemFields.failures other path =
      [.fail (Path.text (path ++ [.field "items", .index j]) ++ ".thumbnail_url is a valid URL")
        (some ("got " ++ Value.text (.string text)))] := by
  have nodes : ∀ item ∈ items, itemFields.AcceptsNode item :=
    fun item member => ⟨(itemConforms_iff item).mp (conform item member), by
      simp [itemFields, Group.children]⟩
  have own := conform item (List.mem_of_getElem? inside)
  rw [Group.failures_of_ungated rfl, Group.failuresBelow_each_modify rfl
    (Value.elements_eq_of_get? found) inside nodes, Group.failuresAt_of_leaf rfl,
    failing_withImage own refused, List.map_singleton, failure_here rfl (unmarked_of_lacksMark rfl)]
  simp only [Rule.ofField, Option.map_some, field_withImage own]
  rfl

theorem failuresAt_of_image (accepts : orders.AcceptsNode order)
    (found : order.get? "items" = some (.array items)) (inside : items[j]? = some item)
    (refused : (Field.present (.string text)).isAddress .absolute = false) (path : Path) :
    orders.failuresAt (order.changeAt (withImage text) [.field "items", .index j]) path =
      (if j = 0 then
        [.fail (path.text ++ " card render: first item has thumbnail_url")
          (some "missing thumbnail for card")] else []) ++
      [.fail (Path.text (path ++ [.field "items", .index j]) ++ ".thumbnail_url is a valid URL")
        (some ("got " ++ Value.text (.string text)))] := by
  obtain ⟨filled, counts, conform, ordered⟩ := conforms_of_accepts accepts found
  have changed : (order.changeAt (withImage text) [.field "items", .index j]).get? "items" =
      some (.array (items.modify j (withImage text))) := Value.get?_changeAt_self found j
  have same : ∀ name, name ≠ "items" →
      (order.changeAt (withImage text) [.field "items", .index j]).field name = order.field name :=
    fun name apart => Value.field_changeAt_of_ne found j apart
  have counted :
      countsItems (order.changeAt (withImage text) [.field "items", .index j]) = true := by
    rw [← counts]
    apply countsItems_congr (same _ (by decide))
    rw [Value.length?_eq_some_iff.mpr ⟨_, changed, rfl⟩,
      Value.length?_eq_some_iff.mpr ⟨_, found, rfl⟩, List.length_modify]
  have prices : (items.modify j (withImage text)).map (·.field "unit_price") =
      items.map (·.field "unit_price") := by
    apply map_modify_of_same
    intro item listed
    rw [field_withImage (conform item (List.mem_of_getElem? listed)), if_neg (by decide)]
  have unbroken : Direction.descending.firstBreak? "unit_price" (items.modify j (withImage text)) =
      none := by
    rw [Direction.firstBreak?_congr _ prices, firstBreak?_eq_none conform]
    exact ordered
  have image : _ ↔ j ≠ 0 := image_of_head_iff conform filled refused
  rw [failuresAt_orders, failing_of_items accepts same,
    failures_orderItems changed (by simpa using filled), if_pos counted, unbroken,
    if_pos (name_of_head conform filled),
    failures_itemFields_of_image changed inside conform refused]
  simp only [List.map_nil, List.nil_append, List.append_nil, Option.elim_none]
  by_cases first : j = 0
  next => rw [if_neg (mt image.mp (not_not.mpr first)), if_pos first]
  next => rw [if_pos (image.mpr first), if_neg first]

end Images

end Faults

section Counts

variable {order other : Value}

theorem countsItems_eq_true_iff : countsItems order = true ↔
    ∃ count length, order.get? "item_count" = some (.number count) ∧
      order.length? "items" = some length ∧ count.toDouble.agrees (.ofNat length) = true := by
  constructor
  · intro counts
    unfold countsItems at counts
    split at counts
    next number counted =>
      obtain ⟨count, found, rfl⟩ := Field.number?_field_iff.mp number
      exact ⟨count, _, found, counted, counts⟩
    next => cases counts
  · rintro ⟨count, length, found, counted, agrees⟩
    rw [countsItems, Field.number?_field_iff.mpr ⟨count, found, rfl⟩, counted]
    exact agrees

theorem countsItems_of_other_count {m : Numeric} {n : Nat} (counts : countsItems order = true)
    (held : other.get? "item_count" = some (.number m)) (small : n < 2 ^ Double.precision)
    (value : m.value = n)
    (apart : ∀ old, order.get? "item_count" = some (.number old) → old.value ≠ n)
    (length : other.length? "items" = order.length? "items") : countsItems other = false := by
  rw [Bool.eq_false_iff]
  intro alsoCounts
  obtain ⟨old, k, found, counted, agrees⟩ := countsItems_eq_true_iff.mp counts
  obtain ⟨count, l, alsoFound, alsoCounted, alsoAgrees⟩ := countsItems_eq_true_iff.mp alsoCounts
  obtain rfl : m = count := by simpa [held] using alsoFound
  obtain rfl : k = l := by
    rw [alsoCounted, counted] at length
    exact (Option.some.inj length).symm
  apply apart old found
  rw [← Numeric.toDouble_agrees_iff _ small] at value ⊢
  simp only [Double.agrees, beq_iff_eq] at value agrees alsoAgrees ⊢
  rw [agrees, ← alsoAgrees, value]

end Counts

section Labels

theorem tellsOf_of_in_items {i : Nat} {label : String}
    (inside : (orderPlace i ++ ".items[").toList <+: label.toList) : TellsOf i label := by
  rw [String.toList_append] at inside
  exact (List.prefix_append _ _).trans inside

theorem tellsOf_of_mem_orderLabels {i : Nat} {items : Option Nat} {label : String}
    (listed : label ∈ orderLabels (orderPlace i) items) : TellsOf i label := by
  have begins (rest : String) : TellsOf i (orderPlace i ++ rest) := by
    rw [TellsOf, String.toList_append]
    exact List.prefix_append _ _
  simp only [orderLabels, List.mem_append, List.mem_map, List.mem_cons] at listed
  rcases listed with ⟨rest, _, rfl⟩ | rfl | below
  · exact begins rest
  · exact begins _
  · cases items with
    | none => simp at below
    | some n =>
      simp only [Option.elim_some, invariantLabels, itemsLabels, itemLabels, itemsIn,
        List.mem_append, List.mem_cons, List.mem_ite_nil_right, List.not_mem_nil, or_false,
        List.mem_flatMap, List.mem_map, String.append_assoc] at below
      rcases below with (((rfl | rfl) | ⟨_, rfl⟩) | ⟨_, rfl | rfl⟩) | ⟨j, _, rest, _, rfl⟩ <;>
        exact begins _

theorem not_in_items_of_mem_orderLabels {i : Nat} {label : String}
    (listed : label ∈ orderLabels (orderPlace i) none) :
    ¬(orderPlace i ++ ".items[").toList <+: label.toList := by
  have apart (rest : String) (other : ¬".items[".toList <+: rest.toList) :
      ¬(orderPlace i ++ ".items[").toList <+: (orderPlace i ++ rest).toList := by
    rwa [String.toList_append, String.toList_append, List.prefix_append_right_inj]
  simp only [orderLabels, List.map_cons, List.map_nil, Option.elim_none, List.cons_append,
    List.nil_append, List.mem_cons, List.not_mem_nil, or_false] at listed
  rcases listed with rfl | rfl | rfl | rfl | rfl | rfl | rfl <;> exact apart _ (by decide +kernel)

theorem mem_orderLabels_of_tellsOf {document order : Value} {i : Nat} {label : String}
    (found : (document.elements "orders")[i]? = some order)
    (listed : label ∈ plainLabels (.of document)) (tells : TellsOf i label) :
    label ∈ orderLabels (orderPlace i) (order.length? "items") := by
  have other (start : ¬"orders[".toList <+: label.toList) :
      label ∈ orderLabels (orderPlace i) (order.length? "items") :=
    absurd tells (not_tellsOf_of_start start i)
  obtain ⟨orders, held, here⟩ := Value.elements_getElem?_eq_some_iff.mp found
  have outline : (Outline.of document).orders = some (orders.map (·.length? "items")) := by
    rw [Outline.of, Value.elements?_eq_some_iff.mpr held]
    rfl
  simp only [plainLabels, outline, Option.elim_some, List.mem_cons, List.mem_append,
    List.not_mem_nil, or_false] at listed
  rcases listed with rfl | (((rfl | rfl) | ofOrder) | page) | rfl
  · exact other (by decide +kernel)
  · exact other (by decide +kernel)
  · exact other (by decide +kernel)
  · obtain ⟨⟨items, k⟩, numbered, labelled⟩ := List.mem_flatMap.mp ofOrder
    obtain rfl : k = i := tellsOf_unique (tellsOf_of_mem_orderLabels labelled) tells
    have own := List.mk_mem_zipIdx_iff_getElem?.mp numbered
    simp only [List.getElem?_map, here, Option.map_some, Option.some.injEq] at own
    exact own ▸ labelled
  · have apart : ∀ paged, ∀ label ∈ paginationLabels paged, ¬"orders[".toList <+: label.toList := by
      decide +kernel
    exact other (apart _ _ page)
  · exact other (by decide +kernel)

theorem no_label_in_items {document order : Value} {i : Nat}
    (found : (document.elements "orders")[i]? = some order) (lost : order.length? "items" = none) :
    ∀ outcome ∈ (plainRules.check document).outcomes,
      ¬(orderPlace i ++ ".items[").toList <+: outcome.label.toList := by
  intro outcome recorded inside
  have told : outcome.label ∈ plainLabels (.of document) :=
    map_label_plainRules document ▸ List.mem_map_of_mem recorded
  have own := mem_orderLabels_of_tellsOf found told (tellsOf_of_in_items inside)
  rw [lost] at own
  exact not_in_items_of_mem_orderLabels own inside

end Labels

section Documents

variable {document order : Value} {i : Nat}

theorem labels_of_changed
    (found : (document.elements "orders")[i]? = some order) {change : Value → Value}
    (same : (change order).length? "items" = order.length? "items") :
    (plainRules.check (document.changeAt change (orderPath i))).outcomes.map Outcome.label =
      (plainRules.check document).outcomes.map Outcome.label := by
  obtain ⟨listed, held, here⟩ := Value.elements_getElem?_eq_some_iff.mp found
  exact OrderRules.plain.labels_eq_of_outline (outline_of_changed held here same)

theorem carried_of_accepts (accepts : orders.AcceptsNode order) :
    ∀ item ∈ order.elements "items", displayFields.areIn item = true := by
  obtain ⟨items, held, _, _, conform, _⟩ := items_of_accepts accepts
  rw [Value.elements_eq_of_get? held]
  exact fun item member => (conform item member).displayed

theorem failuresIn_of_count (clean : (plainRules.check document).failCount = 0)
    (found : (document.elements "orders")[i]? = some order) {change : Value → Value}
    (same : ∀ name, name ≠ "item_count" → (change order).field name = order.field name)
    (wrong : countsItems (change order) = false) :
    failuresIn (plainRules.check (document.changeAt change (orderPath i))).outcomes =
      (if ((change order).field "item_count").isNonNegativeInteger then [] else
        [.fail (orderPlace i ++ ".item_count is a non-negative integer")
          (some ("got " ++ ((change order).field "item_count").shown))]) ++
      [.fail (orderPlace i ++ ".item_count matches items.length")
        (some ("item_count=" ++ ((change order).field "item_count").shown ++
          " but items.length=" ++ decimalText (order.elements "items").length))] := by
  have accepts := accepts_of_clean clean found
  obtain ⟨items, held, _⟩ := items_of_accepts accepts
  have bare : barePlacesIn (change order) i = [] := by
    apply barePlacesIn_eq_nil
    rw [Value.elements_congr (same _ (by decide))]
    exact carried_of_accepts accepts
  rw [failuresIn_changed clean found, bare, failuresAt_of_count accepts same held wrong,
    text_orderPath, Value.elements_eq_of_get? held]
  exact List.append_nil _

theorem failsOnly_of_wrong_count (clean : (plainRules.check document).failCount = 0)
    (found : (document.elements "orders")[i]? = some order) {n : Nat} {count : Numeric}
    (small : n < 2 ^ 53) (value : count.value = n)
    (apart : ∀ old, order.get? "item_count" = some (.number old) → old.value ≠ n) :
    let edited := document.changeAt (·.set "item_count" (.number count)) (orderPath i)
    (plainRules.check edited).FailsOnly
      [.fail (orderPlace i ++ ".item_count matches items.length")
        (some ("item_count=" ++ Value.text (.number count) ++ " but items.length=" ++
          decimalText (order.elements "items").length))] ∧
    (plainRules.check edited).outcomes.map Outcome.label =
      (plainRules.check document).outcomes.map Outcome.label := by
  have accepts := accepts_of_clean clean found
  have object := object_of_accepts accepts
  obtain ⟨items, _, _, counts, _⟩ := items_of_accepts accepts
  have same : ∀ name, name ≠ "item_count" →
      (order.set "item_count" (.number count)).field name = order.field name :=
    fun name other => by rw [Value.field_set object, if_neg other]
  have number : (order.set "item_count" (.number count)).get? "item_count" =
      some (.number count) := by
    rw [Value.get?_set object, if_pos rfl]
  have shown : (order.set "item_count" (.number count)).field "item_count" =
      .present (.number count) := Value.field_set_self object (by simp)
  have length : (order.set "item_count" (.number count)).length? "items" =
      order.length? "items" := Value.length?_congr (same _ (by decide))
  have wrong := countsItems_of_other_count counts number small value apart length
  refine ⟨RuleSet.failsOnly_of_failuresIn ?_, labels_of_changed found length⟩
  rw [failuresIn_of_count clean found same wrong,
    if_pos (Field.isNonNegativeInteger_of_value number value), shown]
  rfl

theorem failsOnly_without_count (clean : (plainRules.check document).failCount = 0)
    (found : (document.elements "orders")[i]? = some order) :
    let edited := document.changeAt (·.without "item_count") (orderPath i)
    (plainRules.check edited).FailsOnly
      [.fail (orderPlace i ++ ".item_count is a non-negative integer") (some "got undefined"),
        .fail (orderPlace i ++ ".item_count matches items.length")
          (some ("item_count=undefined but items.length=" ++
            decimalText (order.elements "items").length))] ∧
    (plainRules.check edited).outcomes.map Outcome.label =
      (plainRules.check document).outcomes.map Outcome.label := by
  have same : ∀ name, name ≠ "item_count" →
      (order.without "item_count").field name = order.field name :=
    fun name other => by rw [Value.field_without, if_neg other]
  have lost : (order.without "item_count").field "item_count" = .missing := by
    rw [Value.field_without, if_pos rfl]
  have wrong : countsItems (order.without "item_count") = false := by
    rw [countsItems, lost]
    rfl
  refine ⟨RuleSet.failsOnly_of_failuresIn ?_,
    labels_of_changed found (Value.length?_congr (same _ (by decide)))⟩
  rw [failuresIn_of_count clean found same wrong, lost]
  rfl

theorem failsOnly_of_no_array (clean : (plainRules.check document).failCount = 0)
    (found : (document.elements "orders")[i]? = some order) {value : Value}
    (filled : value ≠ .null) (other : ∀ items, value ≠ .array items) :
    (plainRules.check (document.changeAt (·.set "items" value) (orderPath i))).FailsOnly
      [.fail (orderPlace i ++ ".items is an array")
        (some ("got " ++ (Field.present value).kindName))] ∧
    ∀ outcome ∈
      (plainRules.check (document.changeAt (·.set "items" value) (orderPath i))).outcomes,
      ¬(orderPlace i ++ ".items[").toList <+: outcome.label.toList := by
  have accepts := accepts_of_clean clean found
  have object := object_of_accepts accepts
  have shown : (order.set "items" value).field "items" = .present value :=
    Value.field_set_self object filled
  have lost : (order.set "items" value).elements? "items" = none := by
    rw [Value.elements?, shown, Field.value?_present, Option.bind_some,
      Option.eq_none_iff_forall_ne_some]
    exact fun items held => other items (Value.items?_eq_some_iff.mp held)
  have refused : ((order.set "items" value).field "items").isArray = false := by
    rw [Value.isArray_field, Value.length?, lost]
    rfl
  constructor
  · have bare : barePlacesIn (order.set "items" value) i = [] := by
      rw [barePlacesIn, Value.elements, lost]
      rfl
    apply RuleSet.failsOnly_of_failuresIn
    rw [failuresIn_changed clean found, bare, failuresAt_of_no_array accepts
      (fun _ apart => by rw [Value.field_set object, if_neg apart]) refused, shown, text_orderPath]
    rfl
  · obtain ⟨listed, held, here⟩ := Value.elements_getElem?_eq_some_iff.mp found
    have changed : ((document.changeAt (·.set "items" value) (orderPath i)).elements "orders")[i]? =
        some (order.set "items" value) := by
      rw [orderPath, Value.elements_changeAt held, List.getElem?_modify_eq, here]
      rfl
    exact no_label_in_items changed (by rw [Value.length?, lost, Option.map_none])

theorem failsOnly_of_image (clean : (plainRules.check document).failCount = 0)
    (found : (document.elements "orders")[i]? = some order) {j : Nat} {item : Value} {text : String}
    (inside : (order.elements "items")[j]? = some item) (filled : text ≠ "")
    (refused : (Field.present (.string text)).isAddress .absolute = false) :
    (plainRules.check (document.changeAt (withImage text) (itemPath i j))).FailsOnly
      ((if j = 0 then
        [.fail (orderPlace i ++ " card render: first item has thumbnail_url")
          (some "missing thumbnail for card")] else []) ++
      [.fail (itemsIn (orderPlace i) j ++ ".thumbnail_url is a valid URL")
        (some ("got " ++ Value.text (.string text)))]) ∧
    .pass displayLabel ∈
      (plainRules.check (document.changeAt (withImage text) (itemPath i j))).outcomes := by
  have accepts := accepts_of_clean clean found
  obtain ⟨items, held, _, _, conform, _⟩ := items_of_accepts accepts
  have within := inside
  rw [Value.elements_eq_of_get? held] at within
  have own := conform item (List.mem_of_getElem? within)
  have shown : displayFields.areIn (withImage text item) = true := by
    have named := Field.isNonEmptyString_field_iff.mpr own.productName
    rw [DisplayFields.areIn, displayFields, field_withImage own, field_withImage own,
      if_neg (by decide), if_pos rfl, named]
    simpa [Field.isNonEmptyString, Field.string?] using filled
  have bare : barePlacesIn (order.changeAt (withImage text) [.field "items", .index j]) i = [] := by
    rw [barePlacesIn_of_changed held within fun item member => (conform item member).displayed,
      if_pos shown]
  rw [itemPath, Value.changeAt_append]
  refine ⟨RuleSet.failsOnly_of_failuresIn ?_, display_passes clean found bare⟩
  rw [failuresIn_changed clean found, bare, failuresAt_of_image accepts held within refused,
    text_orderPath, ← itemPath, text_itemPath]
  exact List.append_nil _

theorem failsOnly_of_shuffled (clean : (plainRules.check document).failCount = 0)
    (found : (document.elements "orders")[i]? = some order) {shuffled : List Value}
    (perm : shuffled.Perm (order.elements "items")) :
    (plainRules.check
        (document.changeAt (·.set "items" (.array shuffled)) (orderPath i))).FailsOnly
      ((Direction.descending.firstBreak? "unit_price" shuffled).elim [] fun k =>
        [.fail (orderPlace i ++ ".items sorted by unit_price descending")
          (some (shownPrice shuffled k ++ " follows " ++ shownPrice shuffled (k - 1)))]) := by
  have accepts := accepts_of_clean clean found
  obtain ⟨items, held, _⟩ := items_of_accepts accepts
  have changed : (order.set "items" (.array shuffled)).elements "items" = shuffled := by
    apply Value.elements_eq_of_get?
    rw [Value.get?_set (object_of_accepts accepts), if_pos rfl]
  have bare : barePlacesIn (order.set "items" (.array shuffled)) i = [] := by
    apply barePlacesIn_eq_nil
    rw [changed]
    exact fun item member => carried_of_accepts accepts item (perm.mem_iff.mp member)
  rw [Value.elements_eq_of_get? held] at perm
  apply RuleSet.failsOnly_of_failuresIn
  rw [failuresIn_changed clean found, bare, failuresAt_of_shuffled accepts held perm,
    text_orderPath]
  exact List.append_nil _

/--
Every single fault in a document that meets the contract leads to its own failures alone. Items in
another order are a fault where their prices fall no longer, each rounded to a double.
-/
theorem failsOnly_of_order_fault (clean : (plainRules.check document).failCount = 0)
    (found : (document.elements "orders")[i]? = some order) :
    (∀ (n : Nat) (count : Numeric), n < 2 ^ 53 → count.value = n →
      (∀ old, order.get? "item_count" = some (.number old) → old.value ≠ n) →
      let edited := document.changeAt (·.set "item_count" (.number count)) (orderPath i)
      (plainRules.check edited).FailsOnly
        [.fail (orderPlace i ++ ".item_count matches items.length")
          (some ("item_count=" ++ Value.text (.number count) ++ " but items.length=" ++
            decimalText (order.elements "items").length))] ∧
      (plainRules.check edited).outcomes.map Outcome.label =
        (plainRules.check document).outcomes.map Outcome.label) ∧
    (let edited := document.changeAt (·.without "item_count") (orderPath i)
     (plainRules.check edited).FailsOnly
        [.fail (orderPlace i ++ ".item_count is a non-negative integer") (some "got undefined"),
          .fail (orderPlace i ++ ".item_count matches items.length")
            (some ("item_count=undefined but items.length=" ++
              decimalText (order.elements "items").length))] ∧
      (plainRules.check edited).outcomes.map Outcome.label =
        (plainRules.check document).outcomes.map Outcome.label) ∧
    (∀ value, value ≠ .null → (∀ items, value ≠ .array items) →
      let edited := document.changeAt (·.set "items" value) (orderPath i)
      (plainRules.check edited).FailsOnly
        [.fail (orderPlace i ++ ".items is an array")
          (some ("got " ++ (Field.present value).kindName))] ∧
      ∀ outcome ∈ (plainRules.check edited).outcomes,
        ¬(orderPlace i ++ ".items[").toList <+: outcome.label.toList) ∧
    (∀ j item text, (order.elements "items")[j]? = some item → text ≠ "" →
      (Field.present (.string text)).isAddress .absolute = false →
      let edited := document.changeAt (·.set "thumbnail_url" (.string text)) (itemPath i j)
      (plainRules.check edited).FailsOnly
        ((if j = 0 then
          [.fail (orderPlace i ++ " card render: first item has thumbnail_url")
            (some "missing thumbnail for card")] else []) ++
        [.fail (itemsIn (orderPlace i) j ++ ".thumbnail_url is a valid URL")
          (some ("got " ++ Value.text (.string text)))]) ∧
      .pass displayLabel ∈ (plainRules.check edited).outcomes) ∧
    ∀ shuffled, shuffled.Perm (order.elements "items") →
      let edited := document.changeAt (·.set "items" (.array shuffled)) (orderPath i)
      (shuffled.Pairwise NotDearer → (plainRules.check edited).FailsOnly []) ∧
      (¬shuffled.Pairwise NotDearer →
        ∃ k, Direction.descending.firstBreak? "unit_price" shuffled = some k ∧
          (plainRules.check edited).FailsOnly
            [.fail (orderPlace i ++ ".items sorted by unit_price descending")
              (some (shownPrice shuffled k ++ " follows " ++ shownPrice shuffled (k - 1)))]) := by
  have accepts := accepts_of_clean clean found
  obtain ⟨items, held, _, _, conform, _⟩ := items_of_accepts accepts
  refine ⟨?_, ?_, ?_, ?_, ?_⟩
  · exact fun n count small value apart => failsOnly_of_wrong_count clean found small value apart
  · exact failsOnly_without_count clean found
  · exact fun value filled other => failsOnly_of_no_array clean found filled other
  · intro j item text inside filled refused
    exact failsOnly_of_image clean found inside filled refused
  · intro shuffled perm
    have fails := failsOnly_of_shuffled clean found perm
    have ordered := firstBreak?_eq_none fun item member =>
      conform item (Value.elements_eq_of_get? held ▸ perm.mem_iff.mp member)
    constructor
    · intro pairwise
      rwa [ordered.mpr pairwise] at fails
    · intro unordered
      obtain ⟨k, broken⟩ := Option.ne_none_iff_exists'.mp (mt ordered.mp unordered)
      rw [broken] at fails
      exact ⟨k, broken, fails⟩

end Documents

theorem failsOnly_of_sample_faults :
    (plainRules.check sampleDocument).failCount = 0 ∧
      (plainRules.check (sampleDocument.changeAt (·.set "item_count" (sampleNumber 3))
          (orderPath 0))).FailsOnly
        [.fail "orders[0].item_count matches items.length"
          (some "item_count=3 but items.length=2")] ∧
      (plainRules.check (sampleDocument.changeAt (·.set "thumbnail_url" (.string "cup.png"))
          (itemPath 0 0))).FailsOnly
        [.fail "orders[0] card render: first item has thumbnail_url"
            (some "missing thumbnail for card"),
          .fail "orders[0].items[0].thumbnail_url is a valid URL" (some "got \"cup.png\"")] ∧
      (plainRules.check (sampleDocument.changeAt
          (·.set "items" (.array [sampleItem 7, sampleItem 12])) (orderPath 0))).FailsOnly
        [.fail "orders[0].items sorted by unit_price descending"
          (some "items[1].unit_price=12 follows items[0].unit_price=7")] := by
  have clean : (plainRules.check sampleDocument).failCount = 0 := by decide +kernel
  have found : (sampleDocument.elements "orders")[0]? = some _ := rfl
  obtain ⟨count, _, _, image, order⟩ := failsOnly_of_order_fault clean found
  refine ⟨clean, ?_, ?_, ?_⟩
  · obtain ⟨fails, _⟩ := count 3 (.integer ⟨3, by decide, by decide⟩) (by decide +kernel)
      (by simp [Numeric.value]) (by
        intro old held
        obtain rfl : Numeric.integer ⟨2, by decide, by decide⟩ = old :=
          Value.number.inj (Option.some.inj held)
        simp [Numeric.value])
    refine Eq.mp (congrArg (Report.FailsOnly _) ?_) fails
    decide +kernel
  · obtain ⟨fails, _⟩ := image 0 (sampleItem 12) "cup.png" rfl (by decide) (by decide +kernel)
    refine Eq.mp (congrArg (Report.FailsOnly _) ?_) fails
    decide +kernel
  · have broken : Direction.descending.firstBreak? "unit_price" [sampleItem 7, sampleItem 12] =
        some 1 := by
      decide +kernel
    have rises : ¬[sampleItem 7, sampleItem 12].Pairwise NotDearer := by
      intro falls
      have dearer := List.pairwise_pair.mp falls _ _ rfl rfl
      revert dearer
      decide +kernel
    obtain ⟨k, alsoBroken, fails⟩ := (order [sampleItem 7, sampleItem 12] (.swap ..)).2 rises
    obtain rfl := Option.some.inj (broken.symm.trans alsoBroken)
    refine Eq.mp (congrArg (Report.FailsOnly _) ?_) fails
    decide +kernel

def NotDearerAsWritten (earlier later : Value) : Prop :=
  ∀ price after, earlier.get? "unit_price" = some (.number price) →
    later.get? "unit_price" = some (.number after) → after.value ≤ price.value

def lowerPrice : Integer := ⟨0x20000000000000, by omega, by omega⟩

def higherPrice : Integer := ⟨0x20000000000001, by omega, by omega⟩

def pricedItem (price : Integer) : Value :=
  (sampleItem ⟨12, by decide⟩).set "unit_price" (.number (.integer price))

def dearDocument : Value :=
  sampleDocument.changeAt
    (·.set "items" (.array [pricedItem higherPrice, pricedItem lowerPrice])) (orderPath 0)

-- The two prices round to one double, so a higher one behind a lower one is not told of.
theorem rising_prices_pass :
    ¬∀ (document order : Value) (i : Nat) (shuffled : List Value),
      (plainRules.check document).failCount = 0 →
      (document.elements "orders")[i]? = some order →
      (order.elements "items").Pairwise NotDearerAsWritten →
      shuffled.Perm (order.elements "items") → ¬shuffled.Pairwise NotDearerAsWritten →
      (plainRules.check
        (document.changeAt (·.set "items" (.array shuffled)) (orderPath i))).failCount = 1 := by
  intro told
  have clean : (plainRules.check dearDocument).failCount = 0 := by decide +kernel
  have found : (dearDocument.elements "orders")[0]? = some _ := rfl
  have own (price : Integer) : (pricedItem price).get? "unit_price" =
      some (.number (.integer price)) := by
    have object : ∃ members, sampleItem ⟨12, by decide⟩ = .object members := ⟨_, rfl⟩
    rw [pricedItem, Value.get?_set object, if_pos rfl]
  have falls : [pricedItem higherPrice, pricedItem lowerPrice].Pairwise NotDearerAsWritten := by
    refine List.pairwise_pair.mpr fun former latter held heldAfter => ?_
    obtain rfl := Value.number.inj (Option.some.inj ((own higherPrice).symm.trans held))
    obtain rfl := Value.number.inj (Option.some.inj ((own lowerPrice).symm.trans heldAfter))
    decide +kernel
  have rises : ¬[pricedItem lowerPrice, pricedItem higherPrice].Pairwise NotDearerAsWritten := by
    intro ordered
    have dearer := List.pairwise_pair.mp ordered _ _ (own lowerPrice) (own higherPrice)
    revert dearer
    decide +kernel
  have one := told dearDocument _ 0 _ clean found falls (.swap ..) rises
  revert one
  decide +kernel

end OrdersContract.Contract.MajorUnits
