import OrdersContract.Proofs.ChangedOrders
import OrdersContract.Proofs.DistinctLabels
import OrdersContract.Proofs.Walk

set_option autoImplicit false

namespace OrdersContract

open Json Text

theorem Group.Visited.outcome_mem {group : Group} {parent : Value} {path : Path} {visit : Visit}
    (visited : group.Visited parent path visit) : visit.outcome ∈ group.outcomes parent path := by
  rw [outcomes_eq_map_visits]
  exact List.mem_map_of_mem ((mem_visits_iff ..).mpr visited)

theorem filter_label_of_distinct {outcomes : List Outcome}
    (distinct : (outcomes.map Outcome.label).Nodup) {outcome : Outcome}
    (member : outcome ∈ outcomes) :
    outcomes.filter (·.label = outcome.label) = [outcome] := by
  obtain ⟨front, back, rfl⟩ := List.append_of_mem member
  rw [List.map_append, List.map_cons, List.nodup_append, List.nodup_cons] at distinct
  obtain ⟨_, ⟨unrepeated, _⟩, apart⟩ := distinct
  have before : ∀ other ∈ front, other.label ≠ outcome.label :=
    fun other listed => apart _ (List.mem_map_of_mem listed) _ List.mem_cons_self
  have behind : ∀ other ∈ back, other.label ≠ outcome.label :=
    fun other listed same => unrepeated (same ▸ List.mem_map_of_mem listed)
  have none {others : List Outcome} (differ : ∀ other ∈ others, other.label ≠ outcome.label) :
      others.filter (·.label = outcome.label) = [] := by
    simpa using differ
  rw [List.filter_append, List.filter_cons_of_pos (by simp), none before, none behind]
  rfl

namespace Contract

def HasText (name : String) (item : Value) : Prop :=
  ∃ text, item.get? name = some (.string text) ∧ text ≠ ""

def LacksDisplay (document : Value) (i j : Nat) : Prop :=
  ∃ (orders items : List Value) (order item : Value),
    document.get? "orders" = some (.array orders) ∧ orders[i]? = some order ∧
    order.get? "items" = some (.array items) ∧ items[j]? = some item ∧
    ¬ (HasText "product_name" item ∧ HasText "thumbnail_url" item)

theorem areIn_displayFields_iff {item : Value} : displayFields.areIn item = true ↔
    HasText "product_name" item ∧ HasText "thumbnail_url" item := by
  simp [DisplayFields.areIn, displayFields, Field.isNonEmptyString_field_iff, HasText]

theorem mem_bareItems_iff {document : Value} {i j : Nat} :
    (i, j) ∈ bareItems displayFields document ↔ LacksDisplay document i j := by
  simp only [bareItems, List.mem_flatMap, List.mem_filterMap, Prod.exists,
    List.mk_mem_zipIdx_iff_getElem?, Value.elements_getElem?_eq_some_iff,
    Option.ite_none_left_eq_some, Option.some.injEq, Prod.mk.injEq, areIn_displayFields_iff]
  constructor
  · rintro ⟨order, _, ⟨orders, found, here⟩, item, _, ⟨items, held, inside⟩, lacks, rfl, rfl⟩
    exact ⟨orders, items, order, item, found, here, held, inside, lacks⟩
  · rintro ⟨orders, items, order, item, found, here, held, inside, lacks⟩
    exact ⟨order, i, ⟨orders, found, here⟩, item, j, ⟨items, held, inside⟩, lacks, rfl, rfl⟩

theorem bareItems_pairwise (fields : DisplayFields) (document : Value) :
    (bareItems fields document).Pairwise (Prod.Lex (· < ·) (· < ·)) := by
  have place {order : Value} {i : Nat} {place : Nat × Nat}
      (listed : place ∈ (order.elements "items").zipIdx.filterMap fun numbered =>
        if fields.areIn numbered.1 then none else some (i, numbered.2)) : place.1 = i := by
    obtain ⟨_, _, chosen⟩ := List.mem_filterMap.mp listed
    rw [Option.ite_none_left_eq_some, Option.some.injEq] at chosen
    rw [← chosen.2]
  rw [bareItems, List.pairwise_flatMap]
  constructor
  · rintro ⟨order, i⟩ _
    rw [List.pairwise_filterMap]
    refine (Group.zipIdx_pairwise _).imp ?_
    intro first second less a here b there
    rw [Option.ite_none_left_eq_some, Option.some.injEq] at here there
    rw [← here.2, ← there.2]
    exact .right _ less
  · refine (Group.zipIdx_pairwise _).imp ?_
    rintro ⟨_, i⟩ ⟨_, k⟩ less a here b there
    have first := place here
    have second := place there
    rw [Prod.lex_def, first, second]
    exact .inl less

theorem labels_distinct {ruleSet : RuleSet}
    (either : ruleSet = MinorUnits.rules ∨ ruleSet = MajorUnits.plainRules) (document : Value) :
    ((ruleSet.check document).outcomes.map Outcome.label).Nodup := by
  have own {scenario : Scenario} (apart : scenario.TellsApart) :
      ((scenario.rules.check document).outcomes.map Outcome.label).Nodup := by
    have whole := scenario.labels_nodup apart ⟨0, none, []⟩ 0 (.ok document)
    rw [Scenario.outcomes, List.map_append] at whole
    exact (List.nodup_append.mp whole).2.1
  rcases either with rfl | rfl
  · exact own (MinorUnits.tellApart 0 _ List.mem_cons_self)
  · exact own (MajorUnits.tellApart _ List.mem_cons_self)

theorem display_mem {ruleSet : RuleSet}
    (either : ruleSet = MinorUnits.rules ∨ ruleSet = MajorUnits.plainRules) {document : Value}
    (holds : hasOrders.evaluate document = true) :
    displayOutcome (barePlaces document) ∈ (ruleSet.check document).outcomes := by
  rcases either with rfl | rfl
  · rw [MinorUnits.check_outcomes holds]
    exact List.mem_append_right _ List.mem_cons_self
  · rw [MajorUnits.check_outcomes holds]
    exact List.mem_append_right _ List.mem_cons_self

theorem filter_displayLabel {ruleSet : RuleSet}
    (either : ruleSet = MinorUnits.rules ∨ ruleSet = MajorUnits.plainRules) {document : Value}
    (holds : hasOrders.evaluate document = true) :
    (ruleSet.check document).outcomes.filter (·.label = displayLabel) =
      [displayOutcome (barePlaces document)] := by
  have label : (displayOutcome (barePlaces document)).label = displayLabel := Outcome.check_label ..
  rw [← label]
  exact filter_label_of_distinct (labels_distinct either document) (display_mem either holds)

namespace MajorUnits

theorem mem_check_of_visited {document order : Value} {listed : List Value} {i : Nat} {visit : Visit}
    (found : document.get? "orders" = some (.array listed)) (here : listed[i]? = some order)
    (visited : orderItems.Visited order (orderPath i) visit) :
    visit.outcome ∈ (plainRules.check document).outcomes := by
  have gate : hasOrders.evaluate document = true := Field.isArray_field_iff.mpr ⟨listed, found⟩
  obtain ⟨members, rfl, kept⟩ := Value.get?_eq_some_iff.mp found
  -- From the order outwards: each group is open, and leads to the next one.
  have atOrder : orders.Visited (.object members) [] _ :=
    .child (c := 0) (by rintro _ ⟨⟩) (.each _ kept here) rfl visited
  have atRoot : plainRules.root.Visited (.object members) [] _ :=
    .child (c := 0) (by rintro _ ⟨⟩ _; exact gate) (.current ..) rfl atOrder
  exact atRoot.outcome_mem

theorem mem_check_of_item {document order item : Value} {listed items : List Value} {i j r : Nat}
    (found : document.get? "orders" = some (.array listed)) (here : listed[i]? = some order)
    (held : order.get? "items" = some (.array items)) (inside : items[j]? = some item) {rule : Rule}
    (ruled : itemFields.rules[r]? = some rule) (unguarded : rule.guard = none) :
    rule.outcome item (itemPath i j) ∈ (plainRules.check document).outcomes := by
  have array : (order.field "items").isArray = true := Field.isArray_field_iff.mpr ⟨items, held⟩
  obtain ⟨own, rfl, keptItems⟩ := Value.get?_eq_some_iff.mp held
  have applies : rule.appliesTo item = true := by simp [Rule.appliesTo, unguarded]
  have atItem : itemFields.Visited (.object own) (orderPath i)
      ⟨.rule j r, rule, item, itemPath i j⟩ :=
    .rule (by rintro _ ⟨⟩) (.each _ keptItems inside) ruled applies
  have atItems : orderItems.Visited (.object own) (orderPath i) _ :=
    .child (c := 0) (by rintro _ ⟨⟩ _; exact array) (.current ..) rfl atItem
  exact mem_check_of_visited found here atItems

theorem mem_check_of_order {document order : Value} {listed items : List Value} {i r : Nat}
    (found : document.get? "orders" = some (.array listed)) (here : listed[i]? = some order)
    (held : order.get? "items" = some (.array items)) {rule : Rule}
    (ruled : orderItems.rules[r]? = some rule) (applies : rule.appliesTo order = true) :
    rule.outcome order (orderPath i) ∈ (plainRules.check document).outcomes := by
  have array : (order.field "items").isArray = true := Field.isArray_field_iff.mpr ⟨items, held⟩
  have atOrder : orderItems.Visited order (orderPath i) ⟨.rule 0 r, rule, order, orderPath i⟩ :=
    .rule (by rintro _ ⟨⟩ _; exact array) (.current ..) ruled applies
  exact mem_check_of_visited found here atOrder

theorem item_fails_of_lacksDisplay {document : Value} {i j : Nat}
    (lacks : LacksDisplay document i j) :
    ∃ outcome ∈ (plainRules.check document).outcomes, outcome.passed = false ∧
      (outcome.label = itemsIn (orderPlace i) j ++ ".product_name is a non-empty string" ∨
        outcome.label = itemsIn (orderPlace i) j ++ ".thumbnail_url is a valid URL") := by
  obtain ⟨listed, items, order, item, found, here, held, inside, lacks⟩ := lacks
  rw [not_and_or] at lacks
  rcases lacks with unnamed | unpictured
  · refine ⟨_, mem_check_of_item found here held inside (r := 1) rfl rfl, ?_, .inl ?_⟩
    · rw [Rule.passed_outcome, ← Bool.not_eq_true]
      exact fun named => unnamed (Field.isNonEmptyString_field_iff.mp named)
    · rw [Rule.outcome_label, Rule.labelAt_here rfl (unmarked_of_lacksMark rfl), text_itemPath]
      rfl
  · refine ⟨_, mem_check_of_item found here held inside (r := 2) rfl rfl, ?_, .inr ?_⟩
    · rw [Rule.passed_outcome, ← Bool.not_eq_true]
      intro valid
      have named := Field.isNonEmptyString_of_isAddress valid
      exact unpictured (Field.isNonEmptyString_field_iff.mp named)
    · rw [Rule.outcome_label, Rule.labelAt_here rfl (unmarked_of_lacksMark rfl), text_itemPath]

end MajorUnits

/--
With an array of orders there is one outcome about the items of all orders. It fails exactly when
some item lacks its name or its image, and lists the places of all that do, order by order. The
rules about single items fail at each of these places too, so where they all pass it passes as well.
-/
theorem displayInline_decides {document : Value} {orders : List Value}
    (found : document.get? "orders" = some (.array orders)) :
    (∀ ruleSet, ruleSet = MinorUnits.rules ∨ ruleSet = MajorUnits.plainRules →
      ∃ outcome, (ruleSet.check document).outcomes.filter (·.label = displayLabel) = [outcome] ∧
        (outcome.passed = false ↔ ∃ i j, LacksDisplay document i j) ∧
        (outcome.passed = false → ∃ places : List (Nat × Nat),
          places.Pairwise (Prod.Lex (· < ·) (· < ·)) ∧
          (∀ i j, (i, j) ∈ places ↔ LacksDisplay document i j) ∧
          outcome.detail = some ("missing display data at: " ++
            ", ".intercalate (places.map fun place => itemsIn (orderPlace place.1) place.2)))) ∧
    (∀ i j, LacksDisplay document i j →
      ∃ outcome ∈ (MajorUnits.plainRules.check document).outcomes, outcome.passed = false ∧
        (outcome.label = itemsIn (orderPlace i) j ++ ".product_name is a non-empty string" ∨
          outcome.label = itemsIn (orderPlace i) j ++ ".thumbnail_url is a valid URL")) ∧
    ((∀ i j, ∀ outcome ∈ (MajorUnits.plainRules.check document).outcomes,
        outcome.label ∈ MajorUnits.itemLabels (itemsIn (orderPlace i) j) → outcome.passed = true) →
      (MajorUnits.plainRules.check document).outcomes.filter (·.label = displayLabel) =
        [.pass displayLabel]) := by
  have holds : hasOrders.evaluate document = true := Field.isArray_field_iff.mpr ⟨orders, found⟩
  have failed : (displayOutcome (barePlaces document)).passed = false ↔
      ∃ i j, LacksDisplay document i j := by
    rw [displayOutcome, Outcome.check_passed, List.isEmpty_eq_false_iff_exists_mem]
    simp only [barePlaces, List.mem_map, Prod.exists, ← mem_bareItems_iff]
    constructor
    · rintro ⟨_, i, j, listed, _⟩
      exact ⟨i, j, listed⟩
    · rintro ⟨i, j, listed⟩
      exact ⟨_, i, j, listed, rfl⟩
  refine ⟨?_, fun i j => MajorUnits.item_fails_of_lacksDisplay, ?_⟩
  · intro ruleSet either
    refine ⟨_, filter_displayLabel either holds, failed, ?_⟩
    intro lacking
    refine ⟨bareItems displayFields document, bareItems_pairwise .., fun _ _ => mem_bareItems_iff,
      ?_⟩
    have places : (bareItems displayFields document).map (fun place =>
        itemsIn (orderPlace place.1) place.2) = barePlaces document :=
      List.map_congr_left fun place _ => (itemPlace_eq place.1 place.2).symm
    rw [displayOutcome, Outcome.check_passed] at lacking
    rw [displayOutcome, lacking, places]
    rfl
  · intro pass
    have told : (displayOutcome (barePlaces document)).passed = true := by
      rw [← Bool.not_eq_false, failed]
      rintro ⟨i, j, lacks⟩
      obtain ⟨outcome, recorded, failing, label⟩ := MajorUnits.item_fails_of_lacksDisplay lacks
      have listed : outcome.label ∈ MajorUnits.itemLabels (itemsIn (orderPlace i) j) := by
        rcases label with label | label <;> simp [MajorUnits.itemLabels, label]
      rw [pass i j outcome recorded listed] at failing
      exact Bool.noConfusion failing
    rw [filter_displayLabel (.inr rfl) holds]
    rw [displayOutcome, Outcome.check_passed] at told
    rw [displayOutcome, told]
    rfl

/-- An order that is no object, one with a complete item and one without a name, one whose items are
no array, and one with an item that is no object. -/
def gappyDocument : Value :=
  let image := ("thumbnail_url", Value.string "https://cdn.test/cup.png")
  let named : Value := .object [("product_name", .string "Cup"), image]
  let unnamed : Value := .object [("product_name", .string ""), image]
  .object [("orders", .array [.null, .object [("items", .array [named, unnamed])],
    .object [("items", named)], .object [("items", .array [.bool true])]])]

theorem gappyDocument_listed :
    ∃ orders, gappyDocument.get? "orders" = some (.array orders) ∧ LacksDisplay gappyDocument 1 1 ∧
      (∃ outcome, (MinorUnits.rules.check gappyDocument).outcomes.filter (·.label = displayLabel) =
          [outcome] ∧ outcome.passed = false ∧
        outcome.detail = some "missing display data at: orders[1].items[1], orders[3].items[0]") ∧
      ∃ outcome ∈ (MajorUnits.plainRules.check gappyDocument).outcomes, outcome.passed = false ∧
        (outcome.label = itemsIn (orderPlace 1) 1 ++ ".product_name is a non-empty string" ∨
          outcome.label = itemsIn (orderPlace 1) 1 ++ ".thumbnail_url is a valid URL") := by
  have lacks : LacksDisplay gappyDocument 1 1 := mem_bareItems_iff.mp (by decide +kernel)
  obtain ⟨orders, found⟩ : ∃ orders, gappyDocument.get? "orders" = some (.array orders) := ⟨_, rfl⟩
  obtain ⟨rules, item, _⟩ := displayInline_decides found
  obtain ⟨outcome, only, failed, _⟩ := rules MinorUnits.rules (.inl rfl)
  have told : (displayOutcome (barePlaces gappyDocument)).detail =
      some "missing display data at: orders[1].items[1], orders[3].items[0]" := by
    decide +kernel
  have same : [outcome] = [displayOutcome (barePlaces gappyDocument)] :=
    only.symm.trans (filter_displayLabel (.inl rfl) rfl)
  rw [← List.singleton_inj.mp same] at told
  exact ⟨orders, found, lacks, ⟨outcome, only, failed.mpr ⟨1, 1, lacks⟩, told⟩, item 1 1 lacks⟩

end Contract

end OrdersContract
