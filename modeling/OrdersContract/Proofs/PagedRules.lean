import OrdersContract.Proofs.FirstBreaks
import OrdersContract.Proofs.LabelSequences

set_option autoImplicit false

namespace OrdersContract

open Json Number

def Direction.parameter : Direction → String
  | ascending => "asc"
  | descending => "desc"

namespace Contract.MajorUnits

/-- A field and a direction as they are asked for. The field stands before the first colon. -/
def NamesOrder (sort field : String) (direction : Direction) : Prop :=
  ':' ∉ field.toList ∧ sort = field ++ ":" ++ direction.parameter

instance (sort field : String) (direction : Direction) :
    Decidable (NamesOrder sort field direction) :=
  inferInstanceAs (Decidable (_ ∧ _))

theorem sortOrder?_eq_some_iff {sort field : String} {direction : Direction} :
    sortOrder? sort = some (field, direction) ↔ NamesOrder sort field direction := by
  constructor
  · intro named
    simp only [sortOrder?, Option.bind_eq_bind, Option.bind_eq_some_iff] at named
    obtain ⟨⟨name, word⟩, cut, chosen⟩ := named
    obtain ⟨absent, whole⟩ := Text.cut?_eq_some_iff.mp cut
    have spelled {taken : Direction} (told : word = taken.parameter.toList) :
        NamesOrder sort (.ofList name) taken := by
      refine ⟨by simpa using absent, ?_⟩
      rw [← String.toList_inj, whole, told]
      simp
    split at chosen
    next up =>
      obtain ⟨rfl, rfl⟩ := Prod.mk.inj (Option.some.inj chosen)
      exact spelled up
    next =>
      split at chosen
      next down =>
        obtain ⟨rfl, rfl⟩ := Prod.mk.inj (Option.some.inj chosen)
        exact spelled down
      next => cases chosen
  · intro ⟨absent, whole⟩
    have cut : Text.cut? ':' sort.toList = some (field.toList, direction.parameter.toList) := by
      rw [Text.cut?_eq_some_iff, whole]
      exact ⟨absent, by simp⟩
    cases direction <;> simp [sortOrder?, cut, Direction.parameter]

structure PagedConforms (pageSize : Nat) (sort : String) (document : Value) : Prop where
  orders : ∃ orders, document.get? "orders" = some (.array orders) ∧ orders.length ≤ pageSize ∧
    ∀ field direction, NamesOrder sort field direction → 2 ≤ orders.length →
      direction.Sorts field orders
  pagination : ∃ members, document.get? "pagination" = some (.object members) ∧
    ∃ size, (Value.object members).get? "page_size" = some (.number size) ∧ size.value = pageSize

theorem accepts_paginationEcho_iff {pageSize : Nat} (small : pageSize < 2 ^ Double.precision)
    (document : Value) :
    (paginationEcho pageSize).Accepts document ↔
      ∃ members, document.get? "pagination" = some (.object members) ∧
        ∃ size, (Value.object members).get? "page_size" = some (.number size) ∧
          size.value = pageSize := by
  have gate : (∀ rule ∈ (paginationEcho pageSize).precondition, rule.Holds document) ↔
      ∃ members, document.get? "pagination" = some (.object members) := by
    simp [paginationEcho, paginationGate, Group.precondition, Field.isObject_field_iff]
  rw [Group.accepts_object_iff rfl rfl gate]
  simp only [paginationEcho, Group.rules, List.forall_mem_singleton, Rule.holds_ofField,
    Field.number?_any_field_iff, Numeric.toDouble_agrees_iff _ small]

theorem holds_ordersSorted_iff (field : String) (direction : Direction) {document : Value}
    {orders : List Value} (found : document.get? "orders" = some (.array orders)) :
    (ordersSorted field direction).Holds document ↔
      (2 ≤ orders.length → direction.Sorts field orders) := by
  rw [ordersSorted, holds_orderedRule_iff, Value.elements_eq_of_get? found,
    Direction.pairwise_inOrder_iff_sorts, ← Nat.not_lt, ← imp_iff_not_or]
  exact Iff.rfl

theorem accepts_pageRules_iff (pageSize : Nat) (sort : String) (document : Value) :
    (pageRules pageSize sort).root.Accepts document ↔
      (∃ orders, document.get? "orders" = some (.array orders) ∧ orders.length ≤ pageSize ∧
        ∀ field direction, NamesOrder sort field direction → 2 ≤ orders.length →
          direction.Sorts field orders) ∧
      (paginationEcho pageSize).Accepts document := by
  have gate : (∀ rule ∈ (pageRules pageSize sort).root.precondition, rule.Holds document) ↔
      ∃ orders, document.get? "orders" = some (.array orders) := by
    simp [pageRules, Group.precondition, holds_hasOrders_iff]
  have own {orders : List Value} (found : document.get? "orders" = some (.array orders)) :
      (∀ rule ∈ (pageRules pageSize sort).root.rules, rule.Holds document) ↔
        orders.length ≤ pageSize ∧ ∀ field direction, NamesOrder sort field direction →
          2 ≤ orders.length → direction.Sorts field orders := by
    simp only [pageRules, Group.rules, List.forall_mem_cons, holds_pageBound_iff _ _ found,
      ← sortOrder?_eq_some_iff, ← holds_ordersSorted_iff _ _ found]
    cases sortOrder? sort with
    | none => simp
    | some order => simp [Prod.ext_iff]
  have below : (∀ child ∈ (pageRules pageSize sort).root.children, child.Accepts document) ↔
      (paginationEcho pageSize).Accepts document := by
    simp [pageRules, Group.children]
  rw [Group.accepts_current_iff rfl, gate, below]
  constructor
  · intro accepted
    obtain ⟨⟨orders, found⟩, hold, echoed⟩ := accepted
    exact ⟨⟨orders, found, (own found).mp hold⟩, echoed⟩
  · intro conforms
    obtain ⟨⟨orders, found, sized⟩, echoed⟩ := conforms
    exact ⟨⟨orders, found⟩, (own found).mpr sized, echoed⟩

theorem pageRules_failCount_iff_conforms {pageSize : Nat} (small : pageSize < 2 ^ Double.precision)
    (sort : String) (document : Value) :
    ((pageRules pageSize sort).check document).failCount = 0 ↔
      PagedConforms pageSize sort document := by
  rw [RuleSet.check_failCount_eq_zero_iff, accepts_pageRules_iff, accepts_paginationEcho_iff small]
  constructor
  · exact fun ⟨orders, pagination⟩ => ⟨orders, pagination⟩
  · exact fun ⟨orders, pagination⟩ => ⟨orders, pagination⟩

def orderOutcomes (sort : String) (document : Value) : List Outcome :=
  ((sortOrder? sort).bind fun order => (ordersSorted order.1 order.2).outcome? document []).toList

theorem isAboutOrder_of_mem_orderOutcomes {sort : String} {document : Value} {outcome : Outcome}
    (made : outcome ∈ orderOutcomes sort document) : IsAboutOrder outcome := by
  obtain ⟨order, _, own⟩ := Option.bind_eq_some_iff.mp (Option.mem_toList.mp made)
  exact isAboutOrder_of_mem_outcome? own

theorem orderOutcomes_of_names {sort field : String} {direction : Direction}
    (named : NamesOrder sort field direction) (document : Value) :
    orderOutcomes sort document =
      if 2 ≤ (document.elements "orders").length then
        [(ordersSorted field direction).outcome document []] else [] := by
  have guarded : (ordersSorted field direction).appliesTo document =
      decide (2 ≤ (document.elements "orders").length) := rfl
  rw [orderOutcomes, sortOrder?_eq_some_iff.mpr named, Option.bind_some, Rule.outcome?, guarded]
  by_cases several : 2 ≤ (document.elements "orders").length <;> simp [several]

theorem orderOutcomes_of_nameless {sort : String}
    (nameless : ∀ field direction, ¬NamesOrder sort field direction) (document : Value) :
    orderOutcomes sort document = [] := by
  have none : sortOrder? sort = none := by
    rw [Option.eq_none_iff_forall_ne_some]
    exact fun (field, direction) named => nameless field direction (sortOrder?_eq_some_iff.mp named)
  rw [orderOutcomes, none]
  rfl

theorem check_pageRules_outcomes (pageSize : Nat) (sort : String) (document : Value) :
    ((pageRules pageSize sort).check document).outcomes = hasOrders.outcome document [] ::
      if hasOrders.evaluate document then
        (pageBound pageSize "requested page_size").outcome document [] ::
          (orderOutcomes sort document ++ (paginationEcho pageSize).outcomes document [])
      else [] := by
  have bound : (pageBound pageSize "requested page_size").outcome? document [] =
      some ((pageBound pageSize "requested page_size").outcome document []) :=
    Rule.outcome?_of_unguarded rfl document []
  rw [(OrderRules.page pageSize sort).check_outcomes, Group.outcomesAt]
  simp only [pageRules, Group.rules, Group.children, List.filterMap_cons, bound,
    List.flatMap_cons, List.flatMap_nil, List.append_nil, orderOutcomes]
  cases sortOrder? sort with
  | none => rfl
  | some order =>
    cases made : (ordersSorted order.1 order.2).outcome? document [] <;> simp [made]

instance : DecidablePred IsAboutOrder := fun outcome =>
  inferInstanceAs (Decidable (sortedLabel.toList <+: outcome.label.toList))

theorem filter_isAboutOrder (pageSize : Nat) (sort : String) (document : Value) :
    ((pageRules pageSize sort).check document).outcomes.filter (IsAboutOrder ·) =
      if hasOrders.evaluate document then orderOutcomes sort document else [] := by
  have gate : ¬IsAboutOrder (hasOrders.outcome document []) := by
    rw [IsAboutOrder, Rule.outcome_label, labelAt_hasOrders]
    decide +kernel
  have bound : ¬IsAboutOrder ((pageBound pageSize "requested page_size").outcome document []) := by
    have label : (pageBound pageSize "requested page_size").label =
        "orders count <= " ++ "requested page_size" ++ " (" ++
          (Text.decimalText pageSize ++ ")") := String.append_assoc
    exact not_isAboutOrder_of_label _ _ label (by decide) (by decide)
      (Rule.outcome?_of_unguarded rfl document [])
  have order : ∀ outcome ∈ orderOutcomes sort document, IsAboutOrder outcome :=
    fun outcome made => isAboutOrder_of_mem_orderOutcomes made
  have echo : ∀ outcome ∈ (paginationEcho pageSize).outcomes document [],
      ¬IsAboutOrder outcome :=
    fun outcome made => not_isAboutOrder_of_mem_paginationEcho made
  have kept : (orderOutcomes sort document).filter (IsAboutOrder ·) =
      orderOutcomes sort document := by
    simpa using order
  have dropped : ((paginationEcho pageSize).outcomes document []).filter (IsAboutOrder ·) = [] := by
    simpa using echo
  rw [check_pageRules_outcomes]
  by_cases holds : hasOrders.evaluate document = true <;>
    simp [holds, gate, bound, kept, dropped]

/--
A document meets the rules for a page exactly when it has at most the requested number of orders,
tells the requested size, and is sorted as a whole if the parameter names an order and there are two
orders or more. Of the order it is told then, once, and never otherwise.
-/
theorem pageRules_decide {pageSize : Nat} (small : pageSize < 2 ^ 53) (sort : String)
    (document : Value) :
    (((pageRules pageSize sort).check document).failCount = 0 ↔
      PagedConforms pageSize sort document) ∧
    (∀ field direction, NamesOrder sort field direction →
      ((pageRules pageSize sort).check document).outcomes.filter (IsAboutOrder ·) =
        if 2 ≤ (document.elements "orders").length then
          [(ordersSorted field direction).outcome document []] else []) ∧
    ((∀ field direction, ¬NamesOrder sort field direction) →
      ((pageRules pageSize sort).check document).outcomes.filter (IsAboutOrder ·) = []) := by
  refine ⟨pageRules_failCount_iff_conforms small sort document, ?_, ?_⟩
  · intro field direction named
    rw [filter_isAboutOrder, orderOutcomes_of_names named, evaluate_hasOrders, Value.elements]
    cases document.elements? "orders" <;> rfl
  · intro nameless
    rw [filter_isAboutOrder, orderOutcomes_of_nameless nameless, ite_self]

def amountsPage (amounts : List Numeric) (size : Numeric) : Value :=
  .object
    [("orders", .array (amounts.map fun amount => .object [("total_amount", .number amount)])),
      ("pagination", .object [("page_size", .number size)])]

def fallingPage : Value :=
  amountsPage [wholeNumber 40, .double (.ofNat 40), wholeNumber 7] (.double (.ofNat 5))

theorem fallingPage_decided :
    5 < 2 ^ 53 ∧ NamesOrder "total_amount:desc" "total_amount" .descending ∧
      PagedConforms 5 "total_amount:desc" fallingPage ∧
      ((pageRules 5 "total_amount:desc").check fallingPage).outcomes.filter (IsAboutOrder ·) =
        [.pass "orders sorted by total_amount descending"] := by
  have named : NamesOrder "total_amount:desc" "total_amount" .descending := by
    decide +kernel
  have clean : ((pageRules 5 "total_amount:desc").check fallingPage).failCount = 0 := by
    decide +kernel
  have told : (ordersSorted "total_amount" .descending).outcome fallingPage [] =
      .pass "orders sorted by total_amount descending" := by
    decide +kernel
  obtain ⟨conforms, order, _⟩ := pageRules_decide (by decide : 5 < 2 ^ 53) "total_amount:desc"
    fallingPage
  have once := order _ _ named
  rw [told] at once
  exact ⟨by decide, named, conforms.mp clean, once⟩

end Contract.MajorUnits

end OrdersContract
