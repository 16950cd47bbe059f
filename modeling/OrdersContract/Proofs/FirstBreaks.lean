import OrdersContract.Proofs.PageOrder

set_option autoImplicit false

namespace OrdersContract

open Json Number

namespace Direction

def flipped : Direction → Direction
  | ascending => descending
  | descending => ascending

/-- All elements hold a number under the name, and each number may stand before all later ones. -/
structure Sorts (direction : Direction) (field : String) (elements : List Value) : Prop where
  numbered : ∀ element ∈ elements, ∃ n, element.get? field = some (.number n)
  ordered : elements.Pairwise fun before after => ∀ a b, before.get? field = some (.number a) →
    after.get? field = some (.number b) → direction.Respects a.toDouble b.toDouble

theorem allows_iff {direction : Direction} {a b : Double} :
    direction.allows a b = true ↔ direction.Respects a b := by
  cases direction <;> simp [allows, Respects]

theorem inOrder_iff_numbers {direction : Direction} {field : String} {before after : Value} :
    direction.inOrder field before after = true ↔
      ∃ a b, before.get? field = some (.number a) ∧ after.get? field = some (.number b) ∧
        direction.Respects a.toDouble b.toDouble := by
  simp only [inOrder_iff, Field.number?_field_iff, allows_iff]
  constructor
  · intro ⟨_, _, ⟨a, held, equal⟩, ⟨b, alsoHeld, alsoEqual⟩, allowed⟩
    exact ⟨a, b, held, alsoHeld, equal ▸ alsoEqual ▸ allowed⟩
  · intro ⟨a, b, held, alsoHeld, allowed⟩
    exact ⟨a.toDouble, b.toDouble, ⟨a, held, rfl⟩, ⟨b, alsoHeld, rfl⟩, allowed⟩

theorem respects_flipped (direction : Direction) {a b : Double} :
    direction.flipped.Respects b a ↔ direction.Respects a b := by
  cases direction <;> exact Iff.rfl

theorem inOrder_flipped (direction : Direction) (field : String) (before after : Value) :
    direction.flipped.inOrder field after before = direction.inOrder field before after := by
  rw [Bool.eq_iff_iff, inOrder_iff_numbers, inOrder_iff_numbers]
  constructor
  · intro ⟨b, a, alsoHeld, held, allowed⟩
    exact ⟨a, b, held, alsoHeld, direction.respects_flipped.mp allowed⟩
  · intro ⟨a, b, held, alsoHeld, allowed⟩
    exact ⟨b, a, alsoHeld, held, direction.respects_flipped.mpr allowed⟩

theorem Sorts.inOrder {direction : Direction} {field : String} {elements : List Value}
    (sorts : direction.Sorts field elements) :
    elements.Pairwise fun before after => direction.inOrder field before after = true := by
  refine List.Pairwise.imp_of_mem ?_ sorts.ordered
  intro before after member later respects
  obtain ⟨a, held⟩ := sorts.numbered before member
  obtain ⟨b, alsoHeld⟩ := sorts.numbered after later
  exact inOrder_iff_numbers.mpr ⟨a, b, held, alsoHeld, respects a b held alsoHeld⟩

-- The second element is there to show that the first one holds a number.
theorem sorts_of_inOrder {direction : Direction} {field : String} {first second : Value}
    {rest : List Value} (ordered : (first :: second :: rest).Pairwise fun before after =>
      direction.inOrder field before after = true) :
    direction.Sorts field (first :: second :: rest) := by
  have behind := (List.pairwise_cons.mp ordered).1
  constructor
  · intro element member
    rcases List.mem_cons.mp member with rfl | later
    · obtain ⟨a, _, held, _⟩ := inOrder_iff_numbers.mp (behind second List.mem_cons_self)
      exact ⟨a, held⟩
    · obtain ⟨_, b, _, held, _⟩ := inOrder_iff_numbers.mp (behind element later)
      exact ⟨b, held⟩
  · refine ordered.imp ?_
    intro before after allowed a b held alsoHeld
    obtain ⟨c, d, again, alsoAgain, respects⟩ := inOrder_iff_numbers.mp allowed
    obtain rfl : c = a := by simpa [held] using again.symm
    obtain rfl : d = b := by simpa [alsoHeld] using alsoAgain.symm
    exact respects

theorem pairwise_inOrder_iff_sorts (direction : Direction) (field : String)
    (elements : List Value) :
    (elements.Pairwise fun before after => direction.inOrder field before after = true) ↔
      elements.length ≤ 1 ∨ direction.Sorts field elements := by
  match elements with
  | [] => simp
  | [_] => simp
  | first :: second :: rest =>
    constructor
    · exact fun ordered => .inr (sorts_of_inOrder ordered)
    · rintro (short | sorts)
      · simp at short
      · exact sorts.inOrder

theorem inOrder_iff_sorts {direction : Direction} {field : String} {before after : Value} :
    direction.inOrder field before after = true ↔ direction.Sorts field [before, after] := by
  have pair := pairwise_inOrder_iff_sorts direction field [before, after]
  simpa using pair

theorem firstBreak?_flipped (direction : Direction) (field : String) (elements : List Value) :
    direction.flipped.firstBreak? field elements.reverse = none ↔
      direction.firstBreak? field elements = none := by
  rw [firstBreak?_eq_none_iff_isChain, firstBreak?_eq_none_iff_isChain, List.isChain_reverse]
  simp only [inOrder_flipped]

theorem firstBreak?_ne_zero (direction : Direction) (field : String) (elements : List Value) :
    direction.firstBreak? field elements ≠ some 0 := by
  match elements with
  | [] => simp [firstBreak?]
  | [_] => simp [firstBreak?]
  | before :: after :: rest =>
    by_cases ordered : direction.inOrder field before after <;> simp [firstBreak?, ordered]

-- Along the search: a break at the front ends it, any other is a break of the rest.
theorem firstBreak?_eq_some_succ_iff {direction : Direction} {field : String}
    {elements : List Value} {k : Nat} :
    direction.firstBreak? field elements = some (k + 1) ↔
      direction.firstBreak? field (elements.take (k + 1)) = none ∧
        ∃ before after, elements[k]? = some before ∧ elements[k + 1]? = some after ∧
          ¬direction.inOrder field before after = true := by
  induction elements generalizing k with
  | nil => simp [firstBreak?]
  | cons before rest ih =>
    cases rest with
    | nil => simp [firstBreak?]
    | cons after rest =>
      by_cases ordered : direction.inOrder field before after
      case pos =>
        cases k with
        | zero => simp [firstBreak?, ordered, firstBreak?_ne_zero]
        | succ k =>
          have later := ih (k := k)
          simp only [List.take_succ_cons] at later
          simpa [firstBreak?, ordered] using later
      case neg =>
        cases k with
        | zero => simp [firstBreak?, ordered]
        | succ k => simp [firstBreak?, ordered]

end Direction

namespace Contract.MajorUnits

def shownElement (collection field : String) (i : Nat) (element : Value) : String :=
  collection ++ "[" ++ Text.decimalText i ++ "]." ++ field ++ "=" ++ (element.field field).shown

theorem detail_orderedRule (label : String) {collection field : String} {direction : Direction}
    {node : Value} {k : Nat}
    (broken : direction.firstBreak? field (node.elements collection) = some (k + 1)) :
    ∃ before after, (node.elements collection)[k]? = some before ∧
      (node.elements collection)[k + 1]? = some after ∧
      (orderedRule label collection field direction).detail.map (· node) =
        some (shownElement collection field (k + 1) after ++ " follows " ++
          shownElement collection field k before) := by
  obtain ⟨_, before, after, here, next, _⟩ := Direction.firstBreak?_eq_some_succ_iff.mp broken
  refine ⟨before, after, here, next, ?_⟩
  simp only [orderedRule, broken, Option.map_some, Nat.add_sub_cancel, shownAt, here, next,
    shownElement]

end Contract.MajorUnits

namespace Direction

/--
The search decides whether a list is sorted and finds the first element that is not in order with
the one before it. Read backwards a list is sorted in the other direction. The detail of a break
counts one back from its index, which is never the first one.
-/
theorem firstBreak?_decides (direction : Direction) (field : String) (elements : List Value) :
    (direction.firstBreak? field elements = none ↔
      elements.length ≤ 1 ∨ direction.Sorts field elements) ∧
    (∀ i, direction.firstBreak? field elements = some i ↔
      ∃ within : i < elements.length, 1 ≤ i ∧
        direction.firstBreak? field (elements.take i) = none ∧
        ¬direction.Sorts field [elements[i - 1], elements[i]]) ∧
    (ascending.firstBreak? field elements = none ↔
      descending.firstBreak? field elements.reverse = none) ∧
    ∀ (label collection : String) (node : Value) (i : Nat),
      direction.firstBreak? field (node.elements collection) = some i →
      ∃ k before after, i = k + 1 ∧ (node.elements collection)[k]? = some before ∧
        (node.elements collection)[k + 1]? = some after ∧
        (Contract.MajorUnits.orderedRule label collection field direction).detail.map (· node) =
          some (Contract.MajorUnits.shownElement collection field (k + 1) after ++ " follows " ++
            Contract.MajorUnits.shownElement collection field k before) := by
  refine ⟨?_, ?_, (ascending.firstBreak?_flipped field elements).symm, ?_⟩
  · rw [firstBreak?_eq_none_iff, pairwise_inOrder_iff_sorts]
  · intro i
    cases i with
    | zero => simp [firstBreak?_ne_zero]
    | succ k =>
      rw [firstBreak?_eq_some_succ_iff]
      constructor
      · intro ⟨sorted, before, after, here, next, broken⟩
        obtain ⟨within, rfl⟩ := List.getElem?_eq_some_iff.mp next
        obtain ⟨_, rfl⟩ := List.getElem?_eq_some_iff.mp here
        exact ⟨within, by omega, sorted, mt inOrder_iff_sorts.mpr broken⟩
      · intro ⟨within, _, sorted, broken⟩
        exact ⟨sorted, _, _, List.getElem?_eq_getElem (by omega), List.getElem?_eq_getElem within,
          mt inOrder_iff_sorts.mp broken⟩
  · intro label collection node i found
    cases i with
    | zero => exact absurd found (firstBreak?_ne_zero direction field _)
    | succ k =>
      obtain ⟨before, after, here, next, told⟩ :=
        Contract.MajorUnits.detail_orderedRule label found
      exact ⟨k, before, after, rfl, here, next, told⟩

end Direction

end OrdersContract
