import OrdersContract.Contract.MinorUnits
import OrdersContract.Proofs.SharedRules

set_option autoImplicit false

namespace OrdersContract.Contract.MinorUnits

open Json

structure ItemConforms (item : Value) : Prop where
  object : ∃ members, item = .object members
  productId : ∃ id, item.get? "product_id" = some id ∧ id ≠ .null
  productName : ∃ name, item.get? "product_name" = some (.string name) ∧ name ≠ ""
  thumbnail : ∃ url, item.get? "thumbnail_url" = some (.string url) ∧ "http".toList <+: url.toList
  quantity : (item.field "quantity").isPositiveInteger = true
  unitPrice : (item.field "unit_price_cents").isPositiveInteger = true

structure OrderConforms (order : Value) : Prop where
  object : ∃ members, order = .object members
  id : ∃ id, order.get? "id" = some id ∧ id ≠ .null
  status : ∃ status ∈ statuses, order.get? "status" = some (.string status)
  total : (order.field "total_cents").isNonNegativeInteger = true
  currency : ∃ currency, order.get? "currency" = some currency ∧ currency ≠ .null
  createdAt : (order.field "created_at").isTimestamp = true
  items : ∃ items, order.get? "items" = some (.array items) ∧ items ≠ [] ∧
    ∀ item ∈ items, ItemConforms item

structure PageConforms (page : Value) : Prop where
  limit : (page.field "limit").isNonNegativeInteger = true
  offset : (page.field "offset").isNonNegativeInteger = true
  total : (page.field "total").isNonNegativeInteger = true

structure Conforms (document : Value) : Prop where
  object : ∃ members, document = .object members
  orders : ∃ orders, document.get? "orders" = some (.array orders) ∧
    ∀ order ∈ orders, OrderConforms order
  pagination : ∃ members, document.get? "pagination" = some (.object members) ∧
    PageConforms (.object members)

theorem pageConforms_iff (page : Value) :
    PageConforms page ↔ ∀ rule ∈ pagination.rules, rule.Holds page := by
  simp only [pagination, Group.rules, paginationFields, List.map_cons, List.map_nil,
    List.forall_mem_cons, Rule.holds_ofField]
  constructor
  · rintro ⟨limit, offset, total⟩
    exact ⟨limit, offset, total, by simp⟩
  · rintro ⟨limit, offset, total, _⟩
    exact ⟨limit, offset, total⟩

theorem accepts_pagination_iff (document : Value) :
    pagination.Accepts document ↔
      ∃ members, document.get? "pagination" = some (.object members) ∧
        PageConforms (.object members) := by
  simp only [pageConforms_iff]
  apply Group.accepts_object_iff rfl rfl
  simp [pagination, Group.precondition, Field.isObject_field_iff]

def displayed : DisplayFields := ⟨"product_name", "thumbnail_url"⟩

-- The aggregate asks more of the name than the rules about one item do.
theorem itemConforms_iff (item : Value) :
    ItemConforms item ↔ (∀ rule ∈ items.rules, rule.Holds item) ∧ displayed.areIn item = true := by
  simp only [items, Group.rules, itemFields, mandatory, List.map_cons, List.map_nil,
    List.cons_append, List.nil_append, List.forall_mem_cons, Rule.holds_ofField,
    Rule.holds_withDetail, DisplayFields.areIn, displayed, Bool.and_eq_true,
    Field.isNonEmptyString_field_iff, Field.isHttpText_field_iff]
  constructor
  · rintro ⟨_, productId, ⟨name, found, filled⟩, ⟨url, shown, http⟩, quantity, unitPrice⟩
    have urlFilled : url ≠ "" := by
      rintro rfl
      simp at http
    have named := Field.isPresent_field_iff.mpr ⟨_, found, by simp⟩
    have pictured := Field.isPresent_field_iff.mpr ⟨_, shown, by simp⟩
    refine ⟨⟨Field.isPresent_field_iff.mpr productId, named, pictured,
      Field.isPresent_of_refuses rfl quantity, Field.isPresent_of_refuses rfl unitPrice,
      ⟨url, shown, http⟩, quantity, unitPrice, by simp⟩, ⟨name, found, filled⟩, url, shown, urlFilled⟩
  · rintro ⟨⟨productId, _, _, _, _, thumbnail, quantity, unitPrice, _⟩, productName, _⟩
    obtain ⟨id, found, filled⟩ := Field.isPresent_field_iff.mp productId
    exact ⟨Value.isObject_of_get? found, ⟨id, found, filled⟩, productName, thumbnail, quantity,
      unitPrice⟩

theorem accepts_items_iff (order : Value) :
    items.Accepts order ↔
      ∃ listed, order.get? "items" = some (.array listed) ∧ listed ≠ [] ∧
        ∀ item ∈ listed, ∀ rule ∈ items.rules, rule.Holds item := by
  have gate : (∀ rule ∈ items.precondition, rule.Holds order) ↔
      ∃ listed, order.get? "items" = some (.array listed) ∧ listed ≠ [] := by
    simp [items, Group.precondition, Field.isNonEmptyArray_field_iff]
  have leaf : items.children = [] := rfl
  rw [Group.accepts_each_iff rfl, gate]
  constructor
  · rintro ⟨⟨listed, found, filled⟩, below⟩
    rw [Value.elements_eq_of_get? found] at below
    exact ⟨listed, found, filled, fun item member => (below item member).1⟩
  · rintro ⟨listed, found, filled, hold⟩
    rw [Value.elements_eq_of_get? found, leaf]
    exact ⟨⟨listed, found, filled⟩, fun item member => ⟨hold item member, by simp⟩⟩

theorem orderConforms_iff (order : Value) :
    OrderConforms order ↔ (∀ rule ∈ orders.rules, rule.Holds order) ∧ items.Accepts order ∧
      ∀ item ∈ order.elements "items", displayed.areIn item = true := by
  simp only [accepts_items_iff, orders, Group.rules, orderFields, mandatory, List.map_cons,
    List.map_nil, List.cons_append, List.nil_append, List.forall_mem_cons, Rule.holds_ofField,
    Rule.holds_withDetail, Field.isOneOf_field_iff]
  constructor
  · rintro ⟨_, id, status, total, currency, createdAt, listed, found, filled, conform⟩
    have items : (order.field "items").isPresent = true :=
      Field.isPresent_field_iff.mpr ⟨_, found, by simp⟩
    have statusText := Field.isPresent_of_refuses rfl (Field.isOneOf_field_iff.mpr status)
    rw [Value.elements_eq_of_get? found]
    refine ⟨⟨Field.isPresent_field_iff.mpr id, statusText, Field.isPresent_of_refuses rfl total,
      Field.isPresent_field_iff.mpr currency, Field.isPresent_of_refuses rfl createdAt, items,
      status, total, createdAt, by simp⟩, ⟨listed, found, filled, ?_⟩, ?_⟩
    · exact fun item member => ((itemConforms_iff item).mp (conform item member)).1
    · exact fun item member => ((itemConforms_iff item).mp (conform item member)).2
  · rintro ⟨⟨id, _, _, currency, _, _, status, total, createdAt, _⟩,
      ⟨listed, found, filled, hold⟩, display⟩
    rw [Value.elements_eq_of_get? found] at display
    exact ⟨Value.isObject_of_get? found, Field.isPresent_field_iff.mp id, status, total,
      Field.isPresent_field_iff.mp currency, createdAt, listed, found, filled,
      fun item member => (itemConforms_iff item).mpr ⟨hold item member, display item member⟩⟩

theorem accepts_rules_iff (document : Value) :
    rules.root.Accepts document ↔ hasOrders.Holds document ∧ pagination.Accepts document ∧
      orders.Accepts document ∧ inlineData.Accepts document := by
  rw [Group.accepts_current_iff rfl]
  simp [rules, Group.precondition, Group.rules, Group.children]

theorem check_failCount_iff_conforms (document : Value) :
    (rules.check document).failCount = 0 ↔ Conforms document := by
  have ungated : (∀ rule ∈ orders.precondition, rule.Holds document) ↔ True := by
    simp [orders, Group.precondition]
  have leaf (order : Value) : (∀ child ∈ orders.children, child.Accepts order) ↔ items.Accepts order := by
    simp [orders, Group.children]
  rw [RuleSet.check_failCount_eq_zero_iff, accepts_rules_iff, inlineData, accepts_displayInline_iff,
    holds_hasOrders_iff, accepts_pagination_iff, Group.accepts_each_iff rfl, ungated]
  simp only [leaf, true_and]
  constructor
  · rintro ⟨⟨listed, found⟩, page, fields, display⟩
    rw [Value.elements_eq_of_get? found] at fields display
    refine ⟨Value.isObject_of_get? found, ⟨listed, found, ?_⟩, page⟩
    intro order member
    obtain ⟨hold, items⟩ := fields order member
    exact (orderConforms_iff order).mpr ⟨hold, items, display order member⟩
  · rintro ⟨_, ⟨listed, found, conform⟩, page⟩
    rw [Value.elements_eq_of_get? found]
    refine ⟨⟨listed, found⟩, page, ?_, ?_⟩
    · intro order member
      obtain ⟨hold, items, _⟩ := (orderConforms_iff order).mp (conform order member)
      exact ⟨hold, items⟩
    · intro order member
      exact ((orderConforms_iff order).mp (conform order member)).2.2

end OrdersContract.Contract.MinorUnits
