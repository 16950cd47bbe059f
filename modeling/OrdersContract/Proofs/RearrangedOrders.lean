import Mathlib.Data.List.FinRange
import OrdersContract.Proofs.Edits
import OrdersContract.Proofs.Failures
import OrdersContract.Proofs.PlacedOutcomes
import OrdersContract.Proofs.StatusFilter

/-!
Documents whose orders stand in another order. A check of one is made of the same parts as a check
of the other: what is recorded of an order follows it to its new place.
-/

set_option autoImplicit false

namespace OrdersContract

open Json Text

theorem Report.counts_eq_of_perm {outcomes others : List Outcome}
    (same : (outcomes.map Outcome.passed).Perm (others.map Outcome.passed)) :
    (ofOutcomes outcomes).passCount = (ofOutcomes others).passCount ∧
      (ofOutcomes outcomes).failCount = (ofOutcomes others).failCount := by
  have passed : outcomes.countP Outcome.passed = others.countP Outcome.passed := by
    simpa only [List.countP_map, Function.id_comp] using same.countP_eq id
  have length : outcomes.length = others.length := by
    simpa only [List.length_map] using same.length_eq
  exact ⟨passed, by simp only [ofOutcomes, passed, length]⟩

namespace Contract

/-- Two documents that are the same but for where the orders stand in the array: the one at `i`
stands at `arrangement i` in the other. -/
structure Rearranged {n : Nat} (arrangement : Equiv.Perm (Fin n)) (first second : Value) :
    Prop where
  around : ∀ name, name ≠ "orders" → first.get? name = second.get? name
  orders : ∃ orders : Fin n → Value, first.get? "orders" = some (.array (.ofFn orders)) ∧
    second.get? "orders" = some (.array (.ofFn (orders ∘ arrangement.symm)))

namespace Rearranged

variable {n : Nat} {arrangement : Equiv.Perm (Fin n)} {first second : Value}

theorem of_set {document : Value} {listed : List Value}
    (found : document.get? "orders" = some (.array listed))
    (arrangement : Equiv.Perm (Fin listed.length)) :
    Rearranged arrangement document
      (document.set "orders" (.array (.ofFn (listed.get ∘ arrangement.symm)))) := by
  obtain ⟨members, object, _⟩ := Value.get?_eq_some_iff.mp found
  refine ⟨fun name other => ?_, listed.get, ?_, ?_⟩
  · rw [Value.get?_set ⟨members, object⟩, if_neg other]
  · rw [found, List.ofFn_get]
  · rw [Value.get?_set ⟨members, object⟩, if_pos rfl]

theorem sameAround (moved : Rearranged arrangement first second) : SameAround first second := by
  obtain ⟨orders, found, alsoFound⟩ := moved.orders
  exact ⟨moved.around, _, _, found, alsoFound, by simp⟩

theorem elements_perm (moved : Rearranged arrangement first second) :
    (first.elements "orders").Perm (second.elements "orders") := by
  obtain ⟨orders, found, alsoFound⟩ := moved.orders
  rw [Value.elements_eq_of_get? found, Value.elements_eq_of_get? alsoFound]
  exact (Equiv.Perm.ofFn_comp_perm arrangement.symm orders).symm

end Rearranged

section Blocks

variable (block : Value → List Outcome)

def orderBlocks (orders : List Value) : List Outcome :=
  orders.zipIdx.flatMap fun numbered => (block numbered.1).map (·.placedAt (orderPlace numbered.2))

theorem map_passed_orderBlocks (orders : List Value) :
    (orderBlocks block orders).map Outcome.passed =
      orders.flatMap fun order => (block order).map Outcome.passed := by
  conv_rhs => rw [← List.zipIdx_map_fst 0 orders, List.flatMap_map]
  simp only [orderBlocks, List.map_flatMap, List.map_map]
  rfl

theorem orderBlocks_ofFn {n : Nat} (orders : Fin n → Value) :
    orderBlocks block (.ofFn orders) =
      (List.ofFn fun i => (block (orders i)).map (·.placedAt (orderPlace i))).flatten := by
  rw [orderBlocks, List.flatMap_def]
  refine congrArg List.flatten (List.ext_getElem (by simp) ?_)
  intro i within _
  simp

theorem tellsOf_of_placed {i : Nat} {outcomes : List Outcome} :
    ∀ outcome ∈ outcomes.map (·.placedAt (orderPlace i)), TellsOf i outcome.label := by
  rw [List.forall_mem_map]
  intro outcome _
  rw [TellsOf, Outcome.placedAt_label, String.toList_append]
  exact List.prefix_append _ _

theorem filter_orderBlocks {orders : List Value} {order : Value} {i : Nat}
    (here : orders[i]? = some order) :
    (orderBlocks block orders).filter (TellsOf i ·.label) =
      (block order).map (·.placedAt (orderPlace i)) := by
  have others (k : Nat) (other : Value) (apart : k ≠ i) (_ : orders[k]? = some other) :
      ((block other).map (·.placedAt (orderPlace k))).filter (TellsOf i ·.label) = [] := by
    rw [List.filter_eq_nil_iff]
    intro outcome placed tells
    exact apart (tellsOf_unique (tellsOf_of_placed outcome placed) (of_decide_eq_true tells))
  have single : ((orders.modify i id).zipIdx.flatMap fun numbered =>
      ((block numbered.1).map (·.placedAt (orderPlace numbered.2))).filter (TellsOf i ·.label)) =
        ((block order).map (·.placedAt (orderPlace i))).filter (TellsOf i ·.label) :=
    flatMap_zipIdx_modify here others
  rw [List.modify_id] at single
  rw [orderBlocks, List.filter_flatMap, single]
  exact List.filter_eq_self.mpr fun outcome placed =>
    decide_eq_true (tellsOf_of_placed outcome placed)

end Blocks

theorem exists_orderBlocks (group : Group) (scope : group.scope = .each "orders")
    (ungated : group.precondition = none)
    (once : ∀ rule ∈ group.allRules, rule.placedOnce = true) :
    ∃ block : Value → List Outcome, ∀ document,
      group.outcomes document [] = orderBlocks block (document.elements "orders") := by
  obtain ⟨block, recorded⟩ := Group.exists_block once
  refine ⟨block, fun document => ?_⟩
  rw [Group.outcomes_of_ungated ungated, Group.outcomesBelow_each scope, orderBlocks]
  refine List.flatMap_congr fun numbered _ => ?_
  have place := text_orderPlace numbered.2
  rw [List.nil_append, recorded _ _ (place ▸ orderPlace_ne numbered.2), place]

/-- A check in three parts: the orders between what is told of the document around them. -/
structure InParts (block : Value → List Outcome) (front back : List Outcome) (document : Value)
    (outcomes : List Outcome) : Prop where
  parts : outcomes = front ++ orderBlocks block (document.elements "orders") ++
    (back ++ [displayOutcome (barePlaces document)])
  around : ∀ outcome ∈ front ++ back, ¬ "orders[".toList <+: outcome.label.toList

theorem not_prefix_displayLabel : ¬ "orders[".toList <+: displayLabel.toList := by
  decide +kernel

namespace InParts

variable {block : Value → List Outcome} {front back outcomes : List Outcome} {document : Value}

theorem filter_tellsOf (inParts : InParts block front back document outcomes) {order : Value}
    {i : Nat} (here : (document.elements "orders")[i]? = some order) :
    outcomes.filter (TellsOf i ·.label) = (block order).map (·.placedAt (orderPlace i)) := by
  have none {others : List Outcome}
      (apart : ∀ outcome ∈ others, ¬ "orders[".toList <+: outcome.label.toList) :
      others.filter (TellsOf i ·.label) = [] :=
    List.filter_eq_nil_iff.mpr fun outcome listed tells =>
      not_tellsOf_of_start (apart outcome listed) i (of_decide_eq_true tells)
  obtain ⟨before, behind⟩ := List.forall_mem_append.mp inParts.around
  have last : ∀ outcome ∈ [displayOutcome (barePlaces document)],
      ¬ "orders[".toList <+: outcome.label.toList := by
    simpa [displayOutcome] using not_prefix_displayLabel
  rw [inParts.parts, List.filter_append, List.filter_append, List.filter_append, none before,
    none behind, none last, filter_orderBlocks block here]
  simp

end InParts

namespace MinorUnits

theorem exists_inParts :
    ∃ block : Value → List Outcome, ∀ document, hasOrders.evaluate document = true →
      InParts block (.pass gateLabel :: pagination.outcomes document []) [] document
        (rules.check document).outcomes := by
  obtain ⟨block, recorded⟩ := exists_orderBlocks orders rfl rfl (by decide +kernel)
  refine ⟨block, fun document holds => ⟨?_, ?_⟩⟩
  · rw [check_outcomes holds, recorded]
    simp
  · rw [List.append_nil, ← List.forall_mem_map (f := Outcome.label)
      (P := fun label => ¬ "orders[".toList <+: label.toList), List.map_cons, map_label_pagination]
    cases (document.field "pagination").isObject <;> decide +kernel

end MinorUnits

namespace MajorUnits

theorem exists_inParts :
    ∃ block : Value → List Outcome, ∀ document, hasOrders.evaluate document = true →
      InParts block (.pass gateLabel :: plainRules.root.rules.filterMap (·.outcome? document []))
        (pagination.outcomes document []) document (plainRules.check document).outcomes := by
  obtain ⟨block, recorded⟩ := exists_orderBlocks orders rfl rfl (by decide +kernel)
  refine ⟨block, fun document holds => ⟨?_, ?_⟩⟩
  · rw [check_outcomes holds, recorded]
    simp
  · rw [← List.forall_mem_map (f := Outcome.label)
      (P := fun label => ¬ "orders[".toList <+: label.toList), List.map_append, List.map_cons,
      map_label_pagination, Rule.map_label_outcomes, map_labelAt_rootRules]
    cases (document.field "pagination").isObject <;> decide +kernel

end MajorUnits

namespace Rearranged

variable {n : Nat} {arrangement : Equiv.Perm (Fin n)} {first second : Value}

theorem exists_inParts (moved : Rearranged arrangement first second) {ruleSet : RuleSet}
    (either : ruleSet = MinorUnits.rules ∨ ruleSet = MajorUnits.plainRules) :
    ∃ block front back, InParts block front back first (ruleSet.check first).outcomes ∧
      InParts block front back second (ruleSet.check second).outcomes := by
  obtain ⟨holds, alsoHolds⟩ := moved.sameAround.hasOrders
  have paged : first.field "pagination" = second.field "pagination" :=
    moved.sameAround.field_eq (by decide)
  rcases either with rfl | rfl
  · obtain ⟨block, parts⟩ := MinorUnits.exists_inParts
    have other := parts second alsoHolds
    rw [← MinorUnits.outcomes_pagination_congr paged] at other
    exact ⟨block, _, _, parts first holds, other⟩
  · obtain ⟨block, parts⟩ := MajorUnits.exists_inParts
    have other := parts second alsoHolds
    rw [← MajorUnits.outcomes_pagination_congr paged,
      ← MajorUnits.outcomes_rootRules_congr moved.sameAround.length?_eq] at other
    exact ⟨block, _, _, parts first holds, other⟩

theorem passed_displayOutcome (moved : Rearranged arrangement first second) :
    (displayOutcome (barePlaces first)).passed = (displayOutcome (barePlaces second)).passed := by
  have passes (document : Value) : (displayOutcome (barePlaces document)).passed = true ↔
      ∀ order ∈ document.elements "orders", ∀ item ∈ order.elements "items",
        DisplayFields.areIn ⟨"product_name", "thumbnail_url"⟩ item = true := by
    rw [displayOutcome, Outcome.check_passed, List.isEmpty_iff, barePlaces, List.map_eq_nil_iff,
      bareItems_eq_nil_iff]
  rw [Bool.eq_iff_iff, passes, passes]
  simp only [moved.elements_perm.mem_iff]

theorem passed_perm (moved : Rearranged arrangement first second) {block : Value → List Outcome}
    {front back outcomes others : List Outcome} (one : InParts block front back first outcomes)
    (other : InParts block front back second others) :
    (outcomes.map Outcome.passed).Perm (others.map Outcome.passed) := by
  have orders := moved.elements_perm.flatMap_right fun order => (block order).map Outcome.passed
  have display : [displayOutcome (barePlaces first)].map Outcome.passed =
      [displayOutcome (barePlaces second)].map Outcome.passed :=
    congrArg (fun passed => [passed]) moved.passed_displayOutcome
  rw [one.parts, other.parts]
  simp only [List.map_append, map_passed_orderBlocks, display]
  exact (orders.append_left _).append_right _

theorem status_passed_eq (moved : Rearranged arrangement first second) (status : String) :
    ((MajorUnits.statusRules status).check first).outcomes.map Outcome.passed =
      ((MajorUnits.statusRules status).check second).outcomes.map Outcome.passed := by
  obtain ⟨holds, alsoHolds⟩ := moved.sameAround.hasOrders
  have asked : (MajorUnits.statusRule status).evaluate first =
      (MajorUnits.statusRule status).evaluate second :=
    moved.elements_perm.all_eq
  rw [MajorUnits.check_statusRules_outcomes status holds,
    MajorUnits.check_statusRules_outcomes status alsoHolds]
  simp [asked]

end Rearranged

/--
Where the orders stand in their array does not change how many outcomes pass and fail. What is
recorded of an order stays one block of the check, between the same outcomes in front and as many
behind; the block has its turn where the order has, and only the index in its labels is another.
-/
theorem rearranged_check {n : Nat} {arrangement : Equiv.Perm (Fin n)} {first second : Value}
    (moved : Rearranged arrangement first second) :
    (∀ ruleSet, (ruleSet = MinorUnits.rules ∨ ruleSet = MajorUnits.plainRules ∨
        ∃ status, ruleSet = MajorUnits.statusRules status) →
      (ruleSet.check first).passCount = (ruleSet.check second).passCount ∧
        (ruleSet.check first).failCount = (ruleSet.check second).failCount) ∧
    ∀ ruleSet, ruleSet = MinorUnits.rules ∨ ruleSet = MajorUnits.plainRules →
      ∃ (block : Fin n → List Outcome) (front back otherBack : List Outcome),
        (ruleSet.check first).outcomes = front ++
          (List.ofFn fun i => (block i).map (·.placedAt (orderPlace i))).flatten ++ back ∧
        (ruleSet.check second).outcomes = front ++
          (List.ofFn fun j =>
            (block (arrangement.symm j)).map (·.placedAt (orderPlace j))).flatten ++ otherBack ∧
        back.length = otherBack.length ∧
        ∀ i : Fin n, (ruleSet.check first).outcomes.filter (TellsOf i ·.label) =
            (block i).map (·.placedAt (orderPlace i)) ∧
          (ruleSet.check second).outcomes.filter (TellsOf (arrangement i) ·.label) =
            (block i).map (·.placedAt (orderPlace (arrangement i))) := by
  constructor
  · rintro ruleSet (minor | plain | ⟨status, rfl⟩)
    · obtain ⟨_, _, _, one, other⟩ := moved.exists_inParts (.inl minor)
      exact Report.counts_eq_of_perm (moved.passed_perm one other)
    · obtain ⟨_, _, _, one, other⟩ := moved.exists_inParts (.inr plain)
      exact Report.counts_eq_of_perm (moved.passed_perm one other)
    · exact Report.counts_eq_of_perm (.of_eq (moved.status_passed_eq status))
  · intro ruleSet either
    obtain ⟨block, front, back, one, other⟩ := moved.exists_inParts either
    obtain ⟨orders, found, alsoFound⟩ := moved.orders
    have before := Value.elements_eq_of_get? found
    have after := Value.elements_eq_of_get? alsoFound
    refine ⟨fun i => block (orders i), front, back ++ [displayOutcome (barePlaces first)],
      back ++ [displayOutcome (barePlaces second)], ?_, ?_, ?_, fun i => ⟨?_, ?_⟩⟩
    · rw [one.parts, before, orderBlocks_ofFn]
    · rw [other.parts, after, orderBlocks_ofFn]
      rfl
    · simp
    · exact one.filter_tellsOf (by simp [before])
    · exact other.filter_tellsOf (by simp [after])

theorem swappedOrders_check :
    let last : Value := .object [("status", .string "shipped"), ("items", .array [.null])]
    let first : Value := .object [("orders", .array [.null, .object [], last])]
    let second : Value := .object [("orders", .array [last, .object [], .null])]
    Rearranged (Equiv.swap (0 : Fin 3) 2) first second ∧
      (MajorUnits.plainRules.check second).failCount = 29 ∧
      ((MajorUnits.statusRules "shipped").check second).passCount = 1 ∧
      ∃ block : List Outcome,
        (MinorUnits.rules.check first).outcomes.filter (TellsOf 2 ·.label) =
          block.map (·.placedAt (orderPlace 2)) ∧
        (MinorUnits.rules.check second).outcomes.filter (TellsOf 0 ·.label) =
          block.map (·.placedAt (orderPlace 0)) := by
  intro last first second
  have found : first.get? "orders" = some (.array [.null, .object [], last]) := rfl
  have moved : Rearranged (Equiv.swap (0 : Fin 3) 2) first second := .of_set found _
  obtain ⟨counts, blocks⟩ := rearranged_check moved
  obtain ⟨block, _, _, _, _, _, _, told⟩ := blocks MinorUnits.rules (.inl rfl)
  obtain ⟨before, after⟩ := told 2
  have failed : (MajorUnits.plainRules.check first).failCount = 29 := by decide +kernel
  have passed : ((MajorUnits.statusRules "shipped").check first).passCount = 1 := by decide +kernel
  refine ⟨moved, ?_, ?_, block 2, before, after⟩
  · rw [← (counts _ (.inr (.inl rfl))).2, failed]
  · rw [← (counts _ (.inr (.inr ⟨_, rfl⟩))).1, passed]

end Contract

end OrdersContract
