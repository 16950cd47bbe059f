import Mathlib.Data.List.Chain
import OrdersContract.Contract.MajorUnits
import OrdersContract.Proofs.SharedRules

set_option autoImplicit false

namespace OrdersContract

open Json Number

namespace Direction

theorem allows_trans {direction : Direction} {a b c : Double} (first : direction.allows a b = true)
    (second : direction.allows b c = true) : direction.allows a c = true := by
  cases direction with
  | ascending =>
    simp only [allows, decide_eq_true_eq] at first second ⊢
    exact Double.le_trans first second
  | descending =>
    simp only [allows, decide_eq_true_eq] at first second ⊢
    exact Double.le_trans second first

theorem inOrder_iff {direction : Direction} {field : String} {before after : Value} :
    direction.inOrder field before after = true ↔
      ∃ earlier later, (before.field field).number? = some earlier ∧
        (after.field field).number? = some later ∧ direction.allows earlier later = true := by
  cases left : (before.field field).number? <;> cases right : (after.field field).number? <;>
    simp [inOrder, left, right]

theorem inOrder_trans {direction : Direction} {field : String} {a b c : Value}
    (first : direction.inOrder field a b = true) (second : direction.inOrder field b c = true) :
    direction.inOrder field a c = true := by
  obtain ⟨x, y, atA, atB, allowed⟩ := inOrder_iff.mp first
  obtain ⟨y', z, again, atC, further⟩ := inOrder_iff.mp second
  obtain rfl := Option.some.inj (atB.symm.trans again)
  exact inOrder_iff.mpr ⟨x, z, atA, atC, allows_trans allowed further⟩

theorem firstBreak?_eq_none_iff_isChain (direction : Direction) (field : String)
    (elements : List Value) : direction.firstBreak? field elements = none ↔
      elements.IsChain fun before after => direction.inOrder field before after = true := by
  induction elements with
  | nil => simp [firstBreak?]
  | cons before rest ih =>
    cases rest with
    | nil => simp [firstBreak?]
    | cons after rest =>
      rw [List.isChain_cons_cons, ← ih]
      by_cases ordered : direction.inOrder field before after <;> simp [firstBreak?, ordered]

theorem firstBreak?_eq_none_iff (direction : Direction) (field : String) (elements : List Value) :
    direction.firstBreak? field elements = none ↔
      elements.Pairwise fun before after => direction.inOrder field before after = true := by
  have : Trans (fun before after => direction.inOrder field before after = true)
      (fun before after => direction.inOrder field before after = true)
      (fun before after => direction.inOrder field before after = true) := ⟨inOrder_trans⟩
  rw [firstBreak?_eq_none_iff_isChain, List.isChain_iff_pairwise]

end Direction

namespace Contract.MajorUnits

-- The guard leaves out only lists that are in order anyway.
theorem holds_orderedRule_iff (label collection field : String) (direction : Direction)
    (node : Value) : (orderedRule label collection field direction).Holds node ↔
      (node.elements collection).Pairwise fun before after =>
        direction.inOrder field before after = true := by
  rw [Rule.holds_iff_of_guard rfl, ← direction.firstBreak?_eq_none_iff]
  simp only [orderedRule, decide_eq_true_eq, Option.isNone_iff_eq_none]
  constructor
  · intro guarded
    generalize node.elements collection = elements at guarded ⊢
    cases elements with
    | nil => rfl
    | cons first rest =>
      cases rest with
      | nil => rfl
      | cons second rest => exact guarded (by simp)
  · intro ordered _
    exact ordered

end Contract.MajorUnits

end OrdersContract
