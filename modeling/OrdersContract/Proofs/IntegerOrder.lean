import OrdersContract.Proofs.FirstBreaks
import OrdersContract.Proofs.MergedIntegers

/-!
The order of lists that hold integers. They are compared as doubles, so a step in the wrong
direction is overlooked exactly where both integers round to one double, which happens only from
`2 ^ 53` on.
-/

set_option autoImplicit false

namespace OrdersContract

open Json Number

def HoldIntegers (field : String) (elements : List Value) (integers : List Integer) : Prop :=
  elements.map (·.get? field) = integers.map fun n => some (.number (.integer n))

namespace Direction

/-- As far as doubles tell, the second integer may follow the first one. -/
def AllowsRounded (direction : Direction) (before after : Integer) : Prop :=
  direction.Respects before.val after.val ∨ Double.Merges before.val after.val

variable {direction : Direction} {field : String} {elements : List Value} {integers : List Integer}

theorem respects_self (direction : Direction) (n : Int) : direction.Respects n n := by
  cases direction <;> exact Int.le_refl n

theorem respects_toDouble_iff {before after : Integer} :
    direction.Respects (Numeric.integer before).toDouble (Numeric.integer after).toDouble ↔
      direction.AllowsRounded before after := by
  cases direction with
  | ascending => exact Double.ofInt_le_ofInt_iff
  | descending =>
    have swapped := Double.ofInt_le_ofInt_iff (a := after.val) (b := before.val)
    exact swapped.trans (or_congr_right ⟨Double.Merges.symm, Double.Merges.symm⟩)

theorem firstBreak?_eq_none_iff_integers (held : HoldIntegers field elements integers) :
    direction.firstBreak? field elements = none ↔ integers.IsChain direction.AllowsRounded := by
  -- Elements are compared by what is looked up in them, and that is the list of integers.
  have lookedUp : direction.firstBreak? field elements = none ↔
      (elements.map (·.get? field)).IsChain fun before after => ∃ a b,
        before = some (.number a) ∧ after = some (.number b) ∧
          direction.Respects a.toDouble b.toDouble := by
    rw [firstBreak?_eq_none_iff_isChain, List.isChain_map]
    simp only [inOrder_iff_numbers]
  rw [lookedUp, held, List.isChain_map]
  simp [respects_toDouble_iff]

theorem merged_of_overlooked (held : HoldIntegers field elements integers)
    (sorted : direction.firstBreak? field elements = none) {i : Nat}
    (within : i + 1 < integers.length)
    (inverted : ¬direction.Respects integers[i].val integers[i + 1].val) :
    Double.Merges integers[i].val integers[i + 1].val ∧ 2 ^ 53 ≤ integers[i].val.natAbs ∧
      2 ^ 53 ≤ integers[i + 1].val.natAbs ∧
      2 ^ 53 * (integers[i].val - integers[i + 1].val).natAbs ≤
        integers[i].val.natAbs + integers[i + 1].val.natAbs := by
  have allowed := ((firstBreak?_eq_none_iff_integers held).mp sorted).getElem i within
  have merged := allowed.resolve_left inverted
  rcases merged.eq_or_large with same | large
  · rw [same] at inverted
    exact absurd (direction.respects_self _) inverted
  · exact ⟨merged, large⟩

-- Both integers would have to be `2 ^ 53` or its negative, and those two are far apart.
theorem firstBreak?_eq_none_iff_of_small (held : HoldIntegers field elements integers)
    (small : ∀ n ∈ integers, n.val.natAbs ≤ 2 ^ 53) :
    direction.firstBreak? field elements = none ↔
      integers.IsChain fun before after => direction.Respects before.val after.val := by
  constructor
  · intro sorted
    rw [List.isChain_iff_getElem]
    intro i within
    by_contra inverted
    obtain ⟨_, large, alsoLarge, close⟩ := merged_of_overlooked held sorted within inverted
    have smallHere := small integers[i] (List.getElem_mem _)
    have smallNext := small integers[i + 1] (List.getElem_mem _)
    have same : integers[i].val = integers[i + 1].val := by omega
    rw [same] at inverted
    exact absurd (direction.respects_self _) inverted
  · intro ordered
    exact (firstBreak?_eq_none_iff_integers held).mpr (ordered.imp fun _ _ => .inl)

/--
A list of integers is found in order when each of them may follow the one before it or rounds to the
same double, and the rule about the order fails on all other lists. No step in the wrong direction
is overlooked among integers up to `2 ^ 53`; one that is overlooked leads from an integer of at least
that size to another, and is at most one part in `2 ^ 53` of the sum of both.
-/
theorem overlooked_only_if_merged (direction : Direction)
    (held : HoldIntegers field elements integers) :
    (direction.firstBreak? field elements = none ↔ integers.IsChain direction.AllowsRounded) ∧
    (∀ (label collection : String) (node : Value) (path : Path),
      node.elements collection = elements →
      ((∃ outcome ∈ (Contract.MajorUnits.orderedRule label collection field direction).outcome?
          node path, outcome.passed = false) ↔
        ¬integers.IsChain direction.AllowsRounded)) ∧
    ((∀ n ∈ integers, n.val.natAbs ≤ 2 ^ 53) →
      (direction.firstBreak? field elements = none ↔
        integers.IsChain fun before after => direction.Respects before.val after.val)) ∧
    ∀ (i : Nat) (within : i + 1 < integers.length),
      ¬direction.Respects integers[i].val integers[i + 1].val →
      direction.firstBreak? field elements = none →
      Double.Merges integers[i].val integers[i + 1].val ∧ 2 ^ 53 ≤ integers[i].val.natAbs ∧
        2 ^ 53 ≤ integers[i + 1].val.natAbs ∧
        2 ^ 53 * (integers[i].val - integers[i + 1].val).natAbs ≤
          integers[i].val.natAbs + integers[i + 1].val.natAbs := by
  refine ⟨firstBreak?_eq_none_iff_integers held, ?_, firstBreak?_eq_none_iff_of_small held, ?_⟩
  · intro label collection node path listed
    rw [Rule.outcome?_failed_iff, Contract.MajorUnits.holds_orderedRule_iff, listed,
      ← firstBreak?_eq_none_iff, firstBreak?_eq_none_iff_integers held]
  · intro i within inverted sorted
    exact merged_of_overlooked held sorted within inverted

def amounts (integers : List Integer) : List Value :=
  integers.map fun n => .object [("total_amount", .number (.integer n))]

theorem holdIntegers_amounts (integers : List Integer) :
    HoldIntegers "total_amount" (amounts integers) integers := by
  simp [HoldIntegers, amounts, Value.get?]

def unevenIntegers : List Integer :=
  [⟨0xfffffffffffffffe, by omega, by omega⟩, ⟨0xffffffffffffffff, by omega, by omega⟩,
    ⟨40, by omega, by omega⟩, ⟨-5, by omega, by omega⟩]

theorem unevenIntegers_overlooked :
    HoldIntegers "total_amount" (amounts unevenIntegers) unevenIntegers ∧
      descending.firstBreak? "total_amount" (amounts unevenIntegers) = none ∧
      ¬unevenIntegers.IsChain (fun before after => descending.Respects before.val after.val) ∧
      Double.Merges 0xfffffffffffffffe 0xffffffffffffffff := by
  have held := holdIntegers_amounts unevenIntegers
  have sorted : descending.firstBreak? "total_amount" (amounts unevenIntegers) = none := by
    decide +kernel
  have rises : ¬descending.Respects (0xfffffffffffffffe : Int) 0xffffffffffffffff := by
    simp [Respects]
  obtain ⟨_, _, _, overlooked⟩ := overlooked_only_if_merged descending held
  obtain ⟨merged, _⟩ := overlooked 0 (by decide) rises sorted
  exact ⟨held, sorted, fun falls => rises (List.isChain_cons_cons.mp falls).1, merged⟩

def mergedNeighbours : List Integer :=
  [⟨0x40000000000000, by omega, by omega⟩, ⟨0x40000000000001, by omega, by omega⟩]

theorem mergedNeighbours_unbroken :
    ¬∀ (direction : Direction) (field : String) (elements : List Value) (integers : List Integer),
      HoldIntegers field elements integers →
      (direction.firstBreak? field elements = none ↔
        integers.IsChain fun before after => direction.Respects before.val after.val) := by
  intro told
  have held := holdIntegers_amounts mergedNeighbours
  have sorted : descending.firstBreak? "total_amount" (amounts mergedNeighbours) = none := by
    decide +kernel
  have falls := (told .descending _ _ _ held).mp sorted
  have rises : ¬descending.Respects (0x40000000000000 : Int) 0x40000000000001 := by
    simp [Respects]
  exact rises (List.isChain_cons_cons.mp falls).1

end Direction

end OrdersContract
