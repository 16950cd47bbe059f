import OrdersContract.Proofs.NumberFields
import OrdersContract.Proofs.Sorting

set_option autoImplicit false

namespace OrdersContract.Contract.MajorUnits

open Json Number

structure ItemConforms (item : Value) : Prop where
  object : ∃ members, item = .object members
  productId : ∃ id, item.get? "product_id" = some (.string id) ∧ id ≠ ""
  productName : ∃ name, item.get? "product_name" = some (.string name) ∧ name ≠ ""
  thumbnail : (item.field "thumbnail_url").isAddress .absolute = true
  quantity : (item.field "quantity").isPositiveInteger = true
  unitPrice : ∃ price, item.get? "unit_price" = some (.number price) ∧ 0 < price.value

/-- The later item is not dearer, by the prices as floating-point numbers. -/
def NotDearer (earlier later : Value) : Prop :=
  ∀ price after, earlier.get? "unit_price" = some (.number price) →
    later.get? "unit_price" = some (.number after) → after.toDouble ≤ price.toDouble

structure OrderConforms (order : Value) : Prop where
  object : ∃ members, order = .object members
  orderId : ∃ id, order.get? "order_id" = some (.string id) ∧ id ≠ ""
  status : ∃ status ∈ statuses, order.get? "status" = some (.string status)
  createdAt : (order.field "created_at").isTimestamp = true
  totalAmount : ∃ amount, order.get? "total_amount" = some (.number amount) ∧ 0 < amount.value
  currency : ∃ currency, order.get? "currency" = some (.string currency) ∧ currency ≠ ""
  items : ∃ items, order.get? "items" = some (.array items) ∧ items ≠ [] ∧
    (∃ count, order.get? "item_count" = some (.number count) ∧ count.value = items.length) ∧
    (∀ item ∈ items, ItemConforms item) ∧ items.Pairwise NotDearer

structure PageConforms (node : Value) : Prop where
  page : (node.field "page").isPositiveInteger = true
  pageSize : (node.field "page_size").isPositiveInteger = true
  pageSizeBound : ∃ size, node.get? "page_size" = some (.number size) ∧ size.value ≤ 50
  totalCount : (node.field "total_count").isNonNegativeInteger = true
  totalPages : (node.field "total_pages").isNonNegativeInteger = true

structure Conforms (document : Value) : Prop where
  orders : ∃ orders, document.get? "orders" = some (.array orders) ∧ 1 ≤ orders.length ∧
    orders.length ≤ 20 ∧ ∀ order ∈ orders, OrderConforms order
  pagination : ∃ members, document.get? "pagination" = some (.object members) ∧
    PageConforms (.object members)

theorem pageConforms_iff (node : Value) :
    PageConforms node ↔ ∀ rule ∈ pagination.rules, rule.Holds node := by
  have bound : (node.field "page_size").number?.any (· ≤ .ofNat largestPageSize) = true ↔
      ∃ size, node.get? "page_size" = some (.number size) ∧ size.value ≤ 50 :=
    Field.number?_le_field_iff (by decide)
  simp only [pagination, Group.rules, List.forall_mem_cons, Rule.holds_ofField, bound]
  constructor
  · rintro ⟨page, pageSize, pageSizeBound, totalCount, totalPages⟩
    exact ⟨page, pageSize, pageSizeBound, totalCount, totalPages, by simp⟩
  · rintro ⟨page, pageSize, pageSizeBound, totalCount, totalPages, _⟩
    exact ⟨page, pageSize, pageSizeBound, totalCount, totalPages⟩

theorem accepts_pagination_iff (document : Value) :
    pagination.Accepts document ↔
      ∃ members, document.get? "pagination" = some (.object members) ∧
        PageConforms (.object members) := by
  simp only [pageConforms_iff]
  apply Group.accepts_object_iff rfl rfl
  simp [pagination, paginationGate, Group.precondition, Field.isObject_field_iff]

theorem itemConforms_iff (item : Value) :
    ItemConforms item ↔ ∀ rule ∈ itemFields.rules, rule.Holds item := by
  simp only [itemFields, filledText, Group.rules, List.forall_mem_cons, Rule.holds_ofField,
    Field.isNonEmptyString_field_iff, Field.isPositiveNumber_field_iff]
  constructor
  · rintro ⟨_, productId, productName, thumbnail, quantity, unitPrice⟩
    exact ⟨productId, productName, thumbnail, quantity, unitPrice, by simp⟩
  · rintro ⟨⟨id, found, filled⟩, productName, thumbnail, quantity, unitPrice, _⟩
    exact ⟨Value.isObject_of_get? found, ⟨id, found, filled⟩, productName, thumbnail, quantity,
      unitPrice⟩

theorem holds_onCard_iff (field missing : String) (requirement : Field → Bool) {order : Value}
    {items : List Value} (found : order.get? "items" = some (.array items)) :
    (onCard field missing requirement).Holds order ↔
      ∀ item ∈ items.head?, requirement (item.field field) = true := by
  have length := Value.length?_eq_some_iff.mpr ⟨items, found, rfl⟩
  rw [Rule.holds_iff_of_guard rfl]
  cases items with
  | nil => simp [onCard, length]
  | cons item rest => simp [onCard, length, Value.elements_eq_of_get? found]

theorem countsItems_iff {order : Value} {items : List Value}
    (found : order.get? "items" = some (.array items)) (short : items.length < 2 ^ 53) :
    countsItems order = true ↔
      ∃ count, order.get? "item_count" = some (.number count) ∧ count.value = items.length := by
  have length := Value.length?_eq_some_iff.mpr ⟨items, found, rfl⟩
  have agrees : countsItems order = true ↔
      (order.field "item_count").number?.any (·.agrees (.ofNat items.length)) = true := by
    cases held : (order.field "item_count").number? <;> simp [countsItems, held, length]
  rw [agrees, Field.number?_any_field_iff]
  simp only [Numeric.toDouble_agrees_iff _ short]

theorem pairwise_inOrder_iff {items : List Value} (conform : ∀ item ∈ items, ItemConforms item) :
    items.Pairwise (fun before after =>
      Direction.descending.inOrder "unit_price" before after = true) ↔
      items.Pairwise NotDearer := by
  apply List.Pairwise.iff_of_mem
  intro before after member later
  obtain ⟨price, found, _⟩ := (conform before member).unitPrice
  obtain ⟨next, alsoFound, _⟩ := (conform after later).unitPrice
  rw [Direction.inOrder_iff]
  simp [Field.number?_field_iff, found, alsoFound, NotDearer, Direction.allows]

theorem accepts_itemFields_iff (order : Value) :
    itemFields.Accepts order ↔ ∀ item ∈ order.elements "items", ItemConforms item := by
  have leaf : itemFields.children = [] := rfl
  have ungated : itemFields.precondition = none := rfl
  rw [Group.accepts_each_iff rfl, leaf, ungated]
  simp [itemConforms_iff]

theorem holds_orderItems_iff {order : Value} {items : List Value}
    (found : order.get? "items" = some (.array items)) :
    (∀ rule ∈ orderItems.rules, rule.Holds order) ↔
      items ≠ [] ∧ countsItems order = true ∧
        items.Pairwise (fun before after =>
          Direction.descending.inOrder "unit_price" before after = true) ∧
        (∀ item ∈ items.head?, (item.field "thumbnail_url").isAddress .absolute = true) ∧
        ∀ item ∈ items.head?, (item.field "product_name").isNonEmptyString = true := by
  have length := Value.length?_eq_some_iff.mpr ⟨items, found, rfl⟩
  have filled : (order.length? "items").any (0 < ·) = true ↔ items ≠ [] := by
    simp [length, List.length_pos_iff]
  simp only [orderItems, Group.rules, List.forall_mem_cons, holds_orderedRule_iff,
    holds_onCard_iff _ _ _ found, Value.elements_eq_of_get? found,
    Rule.holds_mk, filled]
  simp

theorem accepts_orderItems_iff (order : Value) :
    orderItems.Accepts order ↔ ∃ items, order.get? "items" = some (.array items) ∧ items ≠ [] ∧
      countsItems order = true ∧ (∀ item ∈ items, ItemConforms item) ∧
        items.Pairwise NotDearer := by
  have gate : (∀ rule ∈ orderItems.precondition, rule.Holds order) ↔
      ∃ items, order.get? "items" = some (.array items) := by
    simp [orderItems, Group.precondition, Field.isArray_field_iff]
  have children : (∀ child ∈ orderItems.children, child.Accepts order) ↔
      ∀ item ∈ order.elements "items", ItemConforms item := by
    simp [orderItems, Group.children, accepts_itemFields_iff]
  rw [Group.accepts_current_iff rfl, gate, children]
  constructor
  · rintro ⟨⟨items, found⟩, hold, conform⟩
    rw [Value.elements_eq_of_get? found] at conform
    obtain ⟨filled, count, ordered, _⟩ := (holds_orderItems_iff found).mp hold
    exact ⟨items, found, filled, count, conform, (pairwise_inOrder_iff conform).mp ordered⟩
  · rintro ⟨items, found, filled, count, conform, ordered⟩
    rw [Value.elements_eq_of_get? found, holds_orderItems_iff found]
    -- The card shows the first item, which the rules about single items are about, too.
    refine ⟨⟨items, found⟩, ⟨filled, count, (pairwise_inOrder_iff conform).mpr ordered, ?_, ?_⟩,
      conform⟩
    · exact fun item first => (conform item (List.mem_of_mem_head? first)).thumbnail
    · intro item first
      exact Field.isNonEmptyString_field_iff.mpr (conform item (List.mem_of_mem_head? first)).productName

theorem orderConforms_iff {order : Value} (short : (order.elements "items").length < 2 ^ 53) :
    OrderConforms order ↔ (∀ rule ∈ orders.rules, rule.Holds order) ∧ orderItems.Accepts order := by
  simp only [accepts_orderItems_iff, orders, filledText, Group.rules, List.forall_mem_cons,
    Rule.holds_ofField, Rule.holds_withDetail, Field.isNonEmptyString_field_iff,
    Field.isOneOf_field_iff, Field.isPositiveNumber_field_iff]
  constructor
  · rintro ⟨_, orderId, status, createdAt, totalAmount, currency, items, found, filled, count,
      conform, ordered⟩
    rw [Value.elements_eq_of_get? found] at short
    have counts := (countsItems_iff found short).mpr count
    obtain ⟨n, held, equal⟩ := count
    have whole := Field.isNonNegativeInteger_of_value held equal
    exact ⟨⟨orderId, status, createdAt, totalAmount, currency, whole, by simp⟩,
      items, found, filled, counts, conform, ordered⟩
  · rintro ⟨⟨⟨id, present, named⟩, status, createdAt, totalAmount, currency, _⟩,
      items, found, filled, counts, conform, ordered⟩
    rw [Value.elements_eq_of_get? found] at short
    exact ⟨Value.isObject_of_get? found, ⟨id, present, named⟩, status, createdAt, totalAmount,
      currency, items, found, filled, (countsItems_iff found short).mp counts, conform, ordered⟩

theorem accepts_orders_iff (document : Value) :
    orders.Accepts document ↔ ∀ order ∈ document.elements "orders",
      (∀ rule ∈ orders.rules, rule.Holds order) ∧ orderItems.Accepts order := by
  have ungated : orders.precondition = none := rfl
  have children : orders.children = [orderItems] := rfl
  rw [Group.accepts_each_iff rfl, ungated, children]
  simp

theorem ItemConforms.displayed {item : Value} (conforms : ItemConforms item) :
    DisplayFields.areIn ⟨"product_name", "thumbnail_url"⟩ item = true := by
  rw [DisplayFields.areIn, Bool.and_eq_true]
  exact ⟨Field.isNonEmptyString_field_iff.mpr conforms.productName,
    Field.isNonEmptyString_of_isAddress conforms.thumbnail⟩

theorem holds_pageBound_iff (limit : Nat) (what : String) {root : Value} {orders : List Value}
    (found : root.get? "orders" = some (.array orders)) :
    (pageBound limit what).Holds root ↔ orders.length ≤ limit := by
  have length := Value.length?_eq_some_iff.mpr ⟨orders, found, rfl⟩
  have unguarded : (pageBound limit what).guard = none := rfl
  rw [Rule.holds_iff_of_no_guard unguarded]
  change (root.length? "orders").any (· ≤ limit) = true ↔ _
  simp [length]

theorem accepts_plainRules_iff (document : Value) :
    plainRules.root.Accepts document ↔
      (∃ orders, document.get? "orders" = some (.array orders) ∧ 1 ≤ orders.length ∧
        orders.length ≤ 20) ∧
      orders.Accepts document ∧ pagination.Accepts document ∧ inlineData.Accepts document := by
  have gate : (∀ rule ∈ plainRules.root.precondition, rule.Holds document) ↔
      ∃ orders, document.get? "orders" = some (.array orders) := by
    simp [plainRules, Group.precondition, holds_hasOrders_iff]
  have own {orders : List Value} (found : document.get? "orders" = some (.array orders)) :
      (∀ rule ∈ plainRules.root.rules, rule.Holds document) ↔
        1 ≤ orders.length ∧ orders.length ≤ 20 := by
    have length := Value.length?_eq_some_iff.mpr ⟨orders, found, rfl⟩
    have filled : (document.length? "orders").any (0 < ·) = true ↔ 1 ≤ orders.length := by
      simp [length, Nat.succ_le_iff]
    simp only [plainRules, Group.rules, List.forall_mem_cons, Rule.holds_mk,
      holds_pageBound_iff _ _ found, filled, usualPageSize]
    simp
  have below : (∀ child ∈ plainRules.root.children, child.Accepts document) ↔
      orders.Accepts document ∧ pagination.Accepts document ∧ inlineData.Accepts document := by
    simp [plainRules, Group.children]
  rw [Group.accepts_current_iff rfl, gate, below]
  constructor
  · rintro ⟨⟨orders, found⟩, hold, children⟩
    exact ⟨⟨orders, found, (own found).mp hold⟩, children⟩
  · rintro ⟨⟨orders, found, sized⟩, children⟩
    exact ⟨⟨orders, found⟩, (own found).mpr sized, children⟩

theorem plainRules_failCount_iff_conforms {document : Value}
    (short : ∀ order ∈ document.elements "orders", (order.elements "items").length < 2 ^ 53) :
    (plainRules.check document).failCount = 0 ↔ Conforms document := by
  rw [RuleSet.check_failCount_eq_zero_iff, accepts_plainRules_iff, inlineData,
    accepts_displayInline_iff, accepts_pagination_iff, accepts_orders_iff]
  constructor
  · rintro ⟨⟨orders, found, filled, few⟩, accepted, page, _⟩
    rw [Value.elements_eq_of_get? found] at short accepted
    refine ⟨⟨orders, found, filled, few, ?_⟩, page⟩
    exact fun order member => (orderConforms_iff (short order member)).mpr (accepted order member)
  · rintro ⟨⟨orders, found, filled, few, conform⟩, page⟩
    rw [Value.elements_eq_of_get? found] at short ⊢
    refine ⟨⟨orders, found, filled, few⟩, ?_, page, ?_⟩
    · exact fun order member => (orderConforms_iff (short order member)).mp (conform order member)
    · intro order member item listed
      obtain ⟨items, held, _, _, conforms, _⟩ := (conform order member).items
      rw [Value.elements_eq_of_get? held] at listed
      exact (conforms item listed).displayed

def sampleNumber (n : Fin 100) : Value :=
  .number (.integer ⟨n.val, by omega, by omega⟩)

def sampleItem (price : Fin 100) : Value :=
  .object
    [("product_id", .string "p-1"), ("product_name", .string "Cup"), ("quantity", sampleNumber 2),
      ("thumbnail_url", .string "https://cdn.test/cup.png"), ("unit_price", sampleNumber price)]

def sampleDocument : Value :=
  .object
    [("orders", .array [.object
        [("created_at", .string "2024-05-01T10:00:00Z"), ("currency", .string "EUR"),
          ("item_count", sampleNumber 2), ("items", .array [sampleItem 12, sampleItem 7]),
          ("order_id", .string "o-1"), ("status", .string "shipped"),
          ("total_amount", sampleNumber 38)]]),
      ("pagination", .object
        [("page", sampleNumber 1), ("page_size", sampleNumber 20),
          ("total_count", sampleNumber 1), ("total_pages", sampleNumber 1)])]

theorem sampleDocument_conforms :
    (∀ order ∈ sampleDocument.elements "orders", (order.elements "items").length < 2 ^ 53) ∧
      (plainRules.check sampleDocument).failCount = 0 ∧ Conforms sampleDocument := by
  have short : ∀ order ∈ sampleDocument.elements "orders",
      (order.elements "items").length < 2 ^ 53 := by
    decide +kernel
  have clean : (plainRules.check sampleDocument).failCount = 0 := by
    decide +kernel
  exact ⟨short, clean, (plainRules_failCount_iff_conforms short).mp clean⟩

end OrdersContract.Contract.MajorUnits
