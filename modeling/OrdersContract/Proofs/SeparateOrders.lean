import OrdersContract.Proofs.LabelPatterns
import OrdersContract.Proofs.LabelSequences
import OrdersContract.Proofs.SharedRules

set_option autoImplicit false

namespace OrdersContract

open Json Text

theorem flatMap_zipIdx_congr {α β : Type} {items others : List α} {below : α × Nat → List β}
    (length : items.length = others.length)
    (each : ∀ i item other, items[i]? = some item → others[i]? = some other →
      below (item, i) = below (other, i)) :
    items.zipIdx.flatMap below = others.zipIdx.flatMap below := by
  rw [List.flatMap_def, List.flatMap_def]
  refine congrArg List.flatten (List.ext_getElem (by simp [length]) ?_)
  intro i within otherWithin
  simp only [List.length_map, List.length_zipIdx] at within otherWithin
  simp only [List.getElem_map, List.getElem_zipIdx, Nat.zero_add]
  exact each i _ _ (List.getElem?_eq_getElem within) (List.getElem?_eq_getElem otherWithin)

-- A rule does not tell documents apart that it asks and tells the same of.
theorem Rule.outcome?_congr {rule : Rule} (unguarded : rule.guard = none) {first second : Value}
    (asks : rule.evaluate first = rule.evaluate second)
    (tells : rule.detail.map (· first) = rule.detail.map (· second)) (path : Path) :
    rule.outcome? first path = rule.outcome? second path := by
  rw [outcome?_of_unguarded unguarded, outcome?_of_unguarded unguarded, outcome, outcome, asks,
    tells]

theorem Group.outcomes_field_congr {group : Group} {name : String}
    (below : group.scope = .field name) {first second : Value}
    (same : first.field name = second.field name) {path : Path}
    (gate : ∀ rule ∈ group.precondition, rule.outcome? first path = rule.outcome? second path) :
    group.outcomes first path = group.outcomes second path := by
  obtain ⟨_, scope, precondition, _, _⟩ := group
  obtain rfl : scope = .field name := below
  have gates : precondition.bind (·.outcome? first path) =
      precondition.bind (·.outcome? second path) := by
    cases precondition with
    | none => rfl
    | some rule => exact gate rule rfl
  rw [outcomes, outcomes, gates, Scope.nodes, Scope.nodes, same]

namespace Contract

structure SameAround (first second : Value) : Prop where
  around : ∀ name, name ≠ "orders" → first.get? name = second.get? name
  orders : ∃ before after : List Value, first.get? "orders" = some (.array before) ∧
    second.get? "orders" = some (.array after) ∧ before.length = after.length

namespace SameAround

variable {first second : Value}

theorem field_eq (same : SameAround first second) {name : String} (other : name ≠ "orders") :
    first.field name = second.field name := by
  rw [Value.field, Value.field, same.around name other]

theorem length?_eq (same : SameAround first second) :
    first.length? "orders" = second.length? "orders" := by
  obtain ⟨before, after, found, alsoFound, length⟩ := same.orders
  rw [Value.length?_eq_some_iff.mpr ⟨before, found, rfl⟩,
    Value.length?_eq_some_iff.mpr ⟨after, alsoFound, length.symm⟩]

theorem hasOrders (same : SameAround first second) :
    Contract.hasOrders.evaluate first = true ∧ Contract.hasOrders.evaluate second = true := by
  obtain ⟨before, after, found, alsoFound, _⟩ := same.orders
  exact ⟨Field.isArray_field_iff.mpr ⟨before, found⟩, Field.isArray_field_iff.mpr ⟨after, alsoFound⟩⟩

end SameAround

/-- Two documents with as many orders that are the same but for one order. -/
structure DifferAt (i : Nat) (first second : Value) : Prop where
  around : ∀ name, name ≠ "orders" → first.get? name = second.get? name
  orders : ∃ before after : List Value, first.get? "orders" = some (.array before) ∧
    second.get? "orders" = some (.array after) ∧ before.length = after.length ∧
    ∀ j, j ≠ i → before[j]? = after[j]?

def TellsOf (i : Nat) (text : String) : Prop := (orderPlace i).toList <+: text.toList

instance (i : Nat) (text : String) : Decidable (TellsOf i text) :=
  inferInstanceAs (Decidable (_ <+: _))

def TellsOfOthers (i : Nat) (outcome : Outcome) : Prop :=
  ¬ TellsOf i outcome.label ∧ outcome.label ≠ displayLabel

instance (i : Nat) (outcome : Outcome) : Decidable (TellsOfOthers i outcome) :=
  inferInstanceAs (Decidable (_ ∧ _))

def barePlaces (document : Value) : List String :=
  (bareItems ⟨"product_name", "thumbnail_url"⟩ document).map itemPlace

def displayOutcome (places : List String) : Outcome :=
  .check displayLabel places.isEmpty ("missing display data at: " ++ ", ".intercalate places)

def SameOfOthers (i : Nat) (outcomes others : List Outcome) : Prop :=
  outcomes.filter (TellsOfOthers i) = others.filter (TellsOfOthers i)

namespace SameOfOthers

variable {i : Nat}

theorem of_eq {outcomes others : List Outcome} (same : outcomes = others) :
    SameOfOthers i outcomes others :=
  congrArg _ same

theorem append {front others back rest : List Outcome} (first : SameOfOthers i front others)
    (second : SameOfOthers i back rest) : SameOfOthers i (front ++ back) (others ++ rest) := by
  rw [SameOfOthers, List.filter_append, List.filter_append, first, second]

theorem cons (outcome : Outcome) {outcomes others : List Outcome}
    (rest : SameOfOthers i outcomes others) :
    SameOfOthers i (outcome :: outcomes) (outcome :: others) :=
  append (of_eq (Eq.refl [outcome])) rest

end SameOfOthers

-- The bracket behind the index keeps one place from being the beginning of another.
theorem tellsOf_unique {i j : Nat} {text : String} (here : TellsOf i text) (there : TellsOf j text) :
    i = j := by
  have place (k : Nat) : orderPlace k = Path.text ([.field "orders"] ++ [.index k]) :=
    (text_orderPlace k).symm
  rw [TellsOf, place] at here there
  exact Path.index_eq_of_prefix here there

theorem not_tellsOf_of_start {text : String} (other : ¬ "orders[".toList <+: text.toList) (i : Nat) :
    ¬ TellsOf i text := by
  intro tells
  have front : "orders[".toList <+: (orderPlace i).toList := by
    simp only [orderPlace, String.toList_append, List.append_assoc]
    exact List.prefix_append _ _
  exact other (front.trans tells)

theorem tellsOf_itemPlace (i j : Nat) : TellsOf i (itemPlace (i, j)) := by
  have longer := Path.text_prefix_append [.field "orders", .index i] [.field "items", .index j]
  rwa [text_orderPlace] at longer

namespace DifferAt

variable {i : Nat} {first second : Value}

theorem sameAround (differ : DifferAt i first second) : SameAround first second := by
  obtain ⟨before, after, found, alsoFound, length, _⟩ := differ.orders
  exact ⟨differ.around, before, after, found, alsoFound, length⟩

-- Where nothing is kept of the order that was replaced, what is kept of all is the same.
theorem filter_flatMap_eq (differ : DifferAt i first second) {β : Type}
    {below : Value × Nat → List β} {keep : β → Bool}
    (drops : ∀ order, ∀ told ∈ below (order, i), keep told = false) :
    ((first.elements "orders").zipIdx.flatMap below).filter keep =
      ((second.elements "orders").zipIdx.flatMap below).filter keep := by
  obtain ⟨before, after, found, alsoFound, length, same⟩ := differ.orders
  rw [Value.elements_eq_of_get? found, Value.elements_eq_of_get? alsoFound, List.filter_flatMap,
    List.filter_flatMap]
  apply flatMap_zipIdx_congr length
  intro j order other here there
  by_cases replaced : j = i
  next =>
    subst replaced
    have none (order : Value) : (below (order, j)).filter keep = [] :=
      List.filter_eq_nil_iff.mpr fun told member => by simp [drops order told member]
    rw [none, none]
  next =>
    have equal : order = other := by
      rw [same j replaced, there] at here
      exact (Option.some.inj here).symm
    rw [equal]

theorem filter_barePlaces (differ : DifferAt i first second) :
    (barePlaces first).filter (¬ TellsOf i ·) = (barePlaces second).filter (¬ TellsOf i ·) := by
  simp only [barePlaces, bareItems, List.map_flatMap]
  apply differ.filter_flatMap_eq
  intro order place member
  obtain ⟨bare, listed, rfl⟩ := List.mem_map.mp member
  obtain ⟨numbered, _, chosen⟩ := List.mem_filterMap.mp listed
  obtain ⟨_, rfl⟩ : _ ∧ (i, numbered.2) = bare := by simpa using chosen
  simp [tellsOf_itemPlace]

theorem orders_same (differ : DifferAt i first second) {group : Group}
    (scope : group.scope = .each "orders") (ungated : group.precondition = none)
    (begin_all : ∀ rule ∈ group.allRules, rule.beginsWithPlace = true) :
    SameOfOthers i (group.outcomes first []) (group.outcomes second []) := by
  rw [SameOfOthers, Group.outcomes_of_ungated ungated, Group.outcomes_of_ungated ungated,
    Group.outcomesBelow_each scope, Group.outcomesBelow_each scope]
  apply differ.filter_flatMap_eq
  intro order outcome made
  obtain ⟨_, own, below⟩ := Group.forall_mem_allRules_iff.mp begin_all
  have tells : TellsOf i outcome.label := by
    rw [TellsOf, ← text_orderPlace]
    exact Group.place_prefix_of_mem_labelsAt own below (List.mem_map_of_mem made)
  simp [TellsOfOthers, tells]

end DifferAt

theorem outcomes_inlineData (name : String) (document : Value) :
    (Group.mk name .current none [displayInline ⟨"product_name", "thumbnail_url"⟩] []).outcomes
      document [] = [displayOutcome (barePlaces document)] := by
  have empty : (barePlaces document).isEmpty =
      (bareItems ⟨"product_name", "thumbnail_url"⟩ document).isEmpty := List.isEmpty_map
  rw [Group.outcomes_of_single rfl, Rule.outcome, labelAt_displayInline, displayOutcome, empty]
  rfl

theorem SameOfOthers.displayOutcome (i : Nat) (places others : List String) :
    SameOfOthers i [Contract.displayOutcome places] [Contract.displayOutcome others] := by
  have none (places : List String) :
      [Contract.displayOutcome places].filter (TellsOfOthers i) = [] := by
    cases places <;>
      simp [TellsOfOthers, Contract.displayOutcome, Outcome.check, Outcome.pass, Outcome.fail]
  rw [SameOfOthers, none, none]

theorem OrderRules.check_of_orders {ruleSet : RuleSet} (rules : OrderRules ruleSet)
    {document : Value} (holds : hasOrders.evaluate document = true) :
    (ruleSet.check document).outcomes =
      .pass gateLabel :: ruleSet.root.outcomesAt document [] := by
  rw [rules.check_outcomes, if_pos holds, Rule.outcome, if_pos holds, labelAt_hasOrders]

namespace MinorUnits

theorem check_outcomes {document : Value} (holds : hasOrders.evaluate document = true) :
    (rules.check document).outcomes =
      .pass gateLabel :: (pagination.outcomes document [] ++ orders.outcomes document []) ++
        [displayOutcome (barePlaces document)] := by
  rw [OrderRules.minorUnits.check_of_orders holds, Group.outcomesAt]
  simp only [rules, Group.rules, Group.children, List.flatMap_cons, List.flatMap_nil, inlineData,
    outcomes_inlineData]
  simp

theorem outcomes_pagination_congr {first second : Value}
    (paged : first.field "pagination" = second.field "pagination") :
    pagination.outcomes first [] = pagination.outcomes second [] := by
  apply Group.outcomes_field_congr rfl paged
  rintro rule ⟨⟩
  apply Rule.outcome?_congr rfl <;> simp [Rule.ofField, paged]

theorem check_same {i : Nat} {first second : Value} (differ : DifferAt i first second) :
    SameOfOthers i (rules.check first).outcomes (rules.check second).outcomes := by
  have page := outcomes_pagination_congr (differ.sameAround.field_eq (by decide))
  have begin_all : ∀ rule ∈ orders.allRules, rule.beginsWithPlace = true := by decide +kernel
  have others := differ.orders_same rfl rfl begin_all
  obtain ⟨holds, alsoHolds⟩ := differ.sameAround.hasOrders
  rw [check_outcomes holds, check_outcomes alsoHolds]
  apply SameOfOthers.append _ (.displayOutcome ..)
  exact .cons _ (.append (.of_eq page) others)

end MinorUnits

namespace MajorUnits

theorem outcome?_pageBound (limit : Nat) (what : String) {first second : Value}
    (counted : first.length? "orders" = second.length? "orders") (path : Path) :
    (pageBound limit what).outcome? first path = (pageBound limit what).outcome? second path := by
  apply Rule.outcome?_congr rfl
  · exact congrArg (Option.any (· ≤ limit)) counted
  · exact congrArg (fun length => some ("got " ++ decimalText (length.getD 0))) counted

theorem check_outcomes {document : Value} (holds : hasOrders.evaluate document = true) :
    (plainRules.check document).outcomes =
      .pass gateLabel :: (plainRules.root.rules.filterMap (·.outcome? document []) ++
        orders.outcomes document [] ++ pagination.outcomes document []) ++
        [displayOutcome (barePlaces document)] := by
  rw [OrderRules.plain.check_of_orders holds, Group.outcomesAt]
  simp only [plainRules, Group.rules, Group.children, List.flatMap_cons, List.flatMap_nil,
    inlineData, outcomes_inlineData]
  simp

theorem outcomes_pagination_congr {first second : Value}
    (paged : first.field "pagination" = second.field "pagination") :
    pagination.outcomes first [] = pagination.outcomes second [] := by
  apply Group.outcomes_field_congr rfl paged
  rintro rule ⟨⟩
  apply Rule.outcome?_congr rfl <;>
    simp [paginationGate, Rule.ofField, Rule.withDetail, paged]

theorem outcomes_rootRules_congr {first second : Value}
    (counted : first.length? "orders" = second.length? "orders") :
    plainRules.root.rules.filterMap (·.outcome? first []) =
      plainRules.root.rules.filterMap (·.outcome? second []) := by
  apply List.filterMap_congr
  intro rule listed
  simp only [plainRules, Group.rules, List.mem_cons, List.not_mem_nil, or_false] at listed
  rcases listed with rfl | rfl
  · apply Rule.outcome?_congr rfl
    · exact congrArg (Option.any (0 < ·)) counted
    · rfl
  · exact outcome?_pageBound usualPageSize "default page_size" counted []

theorem check_same {i : Nat} {first second : Value} (differ : DifferAt i first second) :
    SameOfOthers i (plainRules.check first).outcomes (plainRules.check second).outcomes := by
  have root := outcomes_rootRules_congr differ.sameAround.length?_eq
  have page := outcomes_pagination_congr (differ.sameAround.field_eq (by decide))
  have begin_all : ∀ rule ∈ orders.allRules, rule.beginsWithPlace = true := by decide +kernel
  have others := differ.orders_same rfl rfl begin_all
  obtain ⟨holds, alsoHolds⟩ := differ.sameAround.hasOrders
  rw [check_outcomes holds, check_outcomes alsoHolds]
  apply SameOfOthers.append _ (.displayOutcome ..)
  exact .cons _ (.append (.append (.of_eq root) others) (.of_eq page))

end MajorUnits

/-- Replacing one order changes nothing but what is told of that order and its entries in the list
of items that lack their display data. -/
theorem others_same_of_differAt {ruleSet : RuleSet}
    (either : ruleSet = MinorUnits.rules ∨ ruleSet = MajorUnits.plainRules) {i : Nat}
    {first second : Value} (differ : DifferAt i first second) :
    (ruleSet.check first).outcomes.filter (TellsOfOthers i) =
        (ruleSet.check second).outcomes.filter (TellsOfOthers i) ∧
      (ruleSet.check first).outcomes.getLast? = some (displayOutcome (barePlaces first)) ∧
      (ruleSet.check second).outcomes.getLast? = some (displayOutcome (barePlaces second)) ∧
      (barePlaces first).filter (¬ TellsOf i ·) = (barePlaces second).filter (¬ TellsOf i ·) ∧
      ∀ j, j ≠ i → ∀ text, TellsOf j text → ¬ TellsOf i text := by
  obtain ⟨holds, alsoHolds⟩ := differ.sameAround.hasOrders
  have apart : ∀ j, j ≠ i → ∀ text, TellsOf j text → ¬ TellsOf i text :=
    fun j other text told alsoTold => other (tellsOf_unique told alsoTold)
  rcases either with rfl | rfl
  · refine ⟨MinorUnits.check_same differ, ?_, ?_, differ.filter_barePlaces, apart⟩
    · rw [MinorUnits.check_outcomes holds, List.getLast?_concat]
    · rw [MinorUnits.check_outcomes alsoHolds, List.getLast?_concat]
  · refine ⟨MajorUnits.check_same differ, ?_, ?_, differ.filter_barePlaces, apart⟩
    · rw [MajorUnits.check_outcomes holds, List.getLast?_concat]
    · rw [MajorUnits.check_outcomes alsoHolds, List.getLast?_concat]

theorem others_same_of_eleven_orders :
    let orders : List Value := List.replicate 11 .null
    let first : Value := .object [("orders", .array orders)]
    let second : Value :=
      .object [("orders", .array (orders.set 1 (.object [("items", .array [.null])])))]
    DifferAt 1 first second ∧
      (MinorUnits.rules.check first).outcomes.filter (TellsOfOthers 1) =
        (MinorUnits.rules.check second).outcomes.filter (TellsOfOthers 1) ∧
      TellsOf 10 "orders[10].id is present" ∧ ¬ TellsOf 1 "orders[10].id is present" := by
  intro orders first second
  have differ : DifferAt 1 first second := by
    refine ⟨?_, orders, orders.set 1 (.object [("items", .array [.null])]), rfl, rfl, rfl, ?_⟩
    · intro name other
      have unequal : (name == "orders") = false := beq_false_of_ne other
      rw [Value.get?, Value.get?, List.lookup_cons, List.lookup_cons, unequal]
    · exact fun j other => (List.getElem?_set_ne other.symm).symm
  -- The places of the second and the eleventh order begin alike.
  obtain ⟨same, _, _, _, apart⟩ := others_same_of_differAt (.inl rfl) differ
  have told : TellsOf 10 "orders[10].id is present" := by decide +kernel
  exact ⟨differ, same, told, apart 10 (by decide) _ told⟩

end Contract

end OrdersContract
