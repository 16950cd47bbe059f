import Mathlib.Data.List.Basic
import OrdersContract.Contract.Orders
import OrdersContract.Proofs.AsciiTexts
import OrdersContract.Proofs.GroupOutcomes

set_option autoImplicit false

namespace OrdersContract

open Json Text

-- Looks at the characters in a form that evaluates.
def lacksMark (text : String) : Bool := !(charsOf text).contains '\x7b'

theorem unmarked_of_lacksMark {text : String} (lacks : lacksMark text = true) :
    '\x7b' ∉ text.toList := by
  simpa [lacksMark, charsOf_eq] using lacks

theorem unmarked_of_all {texts : List String} (lack : texts.all lacksMark = true) :
    ∀ text ∈ texts, '\x7b' ∉ text.toList :=
  fun text listed => unmarked_of_lacksMark (List.all_eq_true.mp lack text listed)

namespace Rule

theorem labelAt_here {rule : Rule} {rest : String} (label : rule.label = Contract.here rest)
    (unmarked : '\x7b' ∉ rest.toList) (path : Path) : rule.labelAt path = path.text ++ rest := by
  rw [← String.toList_inj, toList_labelAt label, putPlace_of_unmarked _ unmarked,
    String.toList_append]

theorem labelAt_of_unmarked {rule : Rule} (unmarked : '\x7b' ∉ rule.label.toList) (path : Path) :
    rule.labelAt path = rule.label := by
  rw [← String.toList_inj, labelAt, String.toList_ofList, putPlace_of_unmarked _ unmarked]

theorem map_labelAt_here {rules : List Rule} {rests : List String}
    (labels : rules.map label = rests.map Contract.here)
    (unmarked : ∀ rest ∈ rests, '\x7b' ∉ rest.toList) (path : Path) :
    rules.map (·.labelAt path) = rests.map (path.text ++ ·) := by
  induction rules generalizing rests with
  | nil =>
    obtain rfl : rests = [] := by simpa using labels.symm
    rfl
  | cons rule rules ih =>
    match rests, labels, unmarked with
    | rest :: rests, labels, unmarked =>
      obtain ⟨own, others⟩ := List.cons.inj labels
      rw [List.map_cons, List.map_cons, labelAt_here own (unmarked rest List.mem_cons_self),
        ih others fun rest listed => unmarked rest (List.mem_cons_of_mem _ listed)]

theorem map_labelAt_filter {rules : List Rule} (rests : List String) {node : Value} {applies : Bool}
    (guarded : ∀ rule ∈ rules, rule.appliesTo node = applies)
    (labels : rules.map label = rests.map Contract.here)
    (unmarked : ∀ rest ∈ rests, '\x7b' ∉ rest.toList) (path : Path) :
    (rules.filter (·.appliesTo node)).map (·.labelAt path) =
      if applies then rests.map (path.text ++ ·) else [] := by
  cases applies with
  | true => rw [List.filter_eq_self.mpr guarded, map_labelAt_here labels unmarked, if_pos rfl]
  | false =>
    have none : rules.filter (·.appliesTo node) = [] :=
      List.filter_eq_nil_iff.mpr fun rule listed => by simp [guarded rule listed]
    rw [none, List.map_nil, if_neg Bool.false_ne_true]

theorem appliesTo_of_unguarded {rules : List Rule}
    (unguarded : rules.all (·.guard.isNone) = true) (node : Value) :
    ∀ rule ∈ rules, rule.appliesTo node = true := by
  intro rule listed
  have free := List.all_eq_true.mp unguarded rule listed
  rw [appliesTo, Option.isNone_iff_eq_none.mp free, Option.all_none]

theorem map_labelAt_of_unmarked {rules : List Rule}
    (unguarded : rules.all (·.guard.isNone) = true)
    (unmarked : ∀ label ∈ rules.map Rule.label, '\x7b' ∉ label.toList) (node : Value) (path : Path) :
    (rules.filter (·.appliesTo node)).map (·.labelAt path) = rules.map Rule.label := by
  rw [List.filter_eq_self.mpr (appliesTo_of_unguarded unguarded node)]
  exact List.map_congr_left fun rule listed =>
    labelAt_of_unmarked (unmarked _ (List.mem_map_of_mem listed)) path

theorem map_labelAt_unguarded {rules : List Rule} (rests : List String)
    (unguarded : rules.all (·.guard.isNone) = true)
    (labels : rules.map label = rests.map Contract.here)
    (unmarked : ∀ rest ∈ rests, '\x7b' ∉ rest.toList) (node : Value) (path : Path) :
    (rules.filter (·.appliesTo node)).map (·.labelAt path) = rests.map (path.text ++ ·) := by
  rw [map_labelAt_filter rests (appliesTo_of_unguarded unguarded node) labels unmarked, if_pos rfl]

end Rule

theorem Path.text_element (path : Path) (name : String) (i : Nat) (below : path.text ≠ "") :
    text (path ++ [.field name, .index i]) =
      path.text ++ "." ++ name ++ "[" ++ decimalText i ++ "]" := by
  have filled : path.text.isEmpty = false := String.isEmpty_eq_false_iff.mpr below
  rw [List.append_cons, text_append, text_append, extend, extend, filled]
  rfl

namespace Group

variable {group : Group}

theorem map_label_unguarded (rests : List String) {below : List String}
    (unguarded : group.rules.all (·.guard.isNone) = true)
    (labels : group.rules.map Rule.label = rests.map Contract.here)
    (unmarked : ∀ rest ∈ rests, '\x7b' ∉ rest.toList) {node : Value} {place : Path}
    (children : group.children.flatMap (fun child => (child.outcomes node place).map Outcome.label) =
      below) :
    (group.outcomesAt node place).map Outcome.label = rests.map (place.text ++ ·) ++ below := by
  rw [map_label_outcomesAt, Rule.map_labelAt_unguarded rests unguarded labels unmarked, children]

theorem map_label_leaf (rests : List String) (leaf : group.children = [])
    (unguarded : group.rules.all (·.guard.isNone) = true)
    (labels : group.rules.map Rule.label = rests.map Contract.here)
    (unmarked : ∀ rest ∈ rests, '\x7b' ∉ rest.toList) (node : Value) (place : Path) :
    (group.outcomesAt node place).map Outcome.label = rests.map (place.text ++ ·) := by
  have none : group.children.flatMap (fun child => (child.outcomes node place).map Outcome.label) =
      [] := by
    rw [leaf, List.flatMap_nil]
  rw [map_label_unguarded rests unguarded labels unmarked none, List.append_nil]

theorem map_label_each {name : String} (scope : group.scope = .each name)
    {labels : Nat → List String} {parent : Value} {path : Path}
    (each : ∀ i node, (group.outcomesAt node (path ++ [.field name, .index i])).map Outcome.label =
      labels i) :
    (group.outcomesBelow parent path).map Outcome.label =
      (List.range ((parent.length? name).getD 0)).flatMap labels := by
  rw [outcomesBelow_each scope, List.map_flatMap, ← Value.length_elements,
    List.range_eq_range', ← List.zipIdx_map_snd, List.flatMap_map]
  exact List.flatMap_congr fun numbered _ => each numbered.2 numbered.1

end Group

end OrdersContract
