import OrdersContract.Contract.Orders
import OrdersContract.Proofs.Acceptance

set_option autoImplicit false

namespace OrdersContract.Contract

open Json

theorem holds_hasOrders_iff (root : Value) :
    hasOrders.Holds root ↔ ∃ orders, root.get? "orders" = some (.array orders) := by
  simp [hasOrders, Field.isArray_field_iff]

theorem bareItems_eq_nil_iff (fields : DisplayFields) (root : Value) :
    bareItems fields root = [] ↔
      ∀ order ∈ root.elements "orders", ∀ item ∈ order.elements "items", fields.areIn item := by
  have numbered {items : List Value} (test : Value → Prop) :
      (∀ pair ∈ items.zipIdx, test pair.1) ↔ ∀ item ∈ items, test item := by
    rw [← List.forall_mem_map (f := Prod.fst), List.zipIdx_map_fst]
  simp only [bareItems, List.flatMap_eq_nil_iff, List.filterMap_eq_nil_iff,
    ite_eq_left_iff, reduceCtorEq, imp_false, Decidable.not_not]
  rw [numbered fun order => ∀ pair ∈ (order.elements "items").zipIdx, fields.areIn pair.1 = true]
  exact forall₂_congr fun order _ => numbered fun item => fields.areIn item = true

theorem holds_displayInline_iff (fields : DisplayFields) (root : Value) :
    (displayInline fields).Holds root ↔
      ∀ order ∈ root.elements "orders", ∀ item ∈ order.elements "items", fields.areIn item := by
  rw [← bareItems_eq_nil_iff, Rule.holds_iff_of_no_guard rfl]
  exact List.isEmpty_iff

theorem accepts_displayInline_iff (name : String) (fields : DisplayFields) (root : Value) :
    (Group.mk name .current none [displayInline fields] []).Accepts root ↔
      ∀ order ∈ root.elements "orders", ∀ item ∈ order.elements "items", fields.areIn item := by
  rw [Group.accepts_current_iff rfl, ← holds_displayInline_iff]
  simp [Group.precondition, Group.rules, Group.children]

end OrdersContract.Contract
