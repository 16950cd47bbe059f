set_option autoImplicit false

namespace OrdersContract.Text

def isAscendingFrom (least : Nat) : List (Nat × Nat) → Bool
  | [] => true
  | (first, last) :: rest => least ≤ first && first ≤ last && isAscendingFrom (last + 1) rest

def isAscending (ranges : List (Nat × Nat)) : Bool := isAscendingFrom 0 ranges

/-- A set of code points as ranges with both ends included, each behind the one before it. -/
structure CodeRanges where
  ranges : List (Nat × Nat)
  ascending : isAscending ranges = true := by decide +kernel

-- A character is searched only up to the first range that starts after it.
def isWithin : List (Nat × Nat) → Char → Bool
  | [], _ => false
  | (first, last) :: rest, c => first ≤ c.toNat && (c.toNat ≤ last || isWithin rest c)

def inRanges (codes : CodeRanges) (c : Char) : Bool := isWithin codes.ranges c

theorem le_first_of_isAscendingFrom {least : Nat} {ranges : List (Nat × Nat)}
    (ascending : isAscendingFrom least ranges = true) {range : Nat × Nat}
    (present : range ∈ ranges) : least ≤ range.1 := by
  induction ranges generalizing least with
  | nil => simp at present
  | cons head rest ih =>
    simp only [isAscendingFrom, Bool.and_eq_true, decide_eq_true_eq] at ascending
    cases List.mem_cons.1 present with
    | inl same => exact same ▸ ascending.1.1
    | inr later =>
      have := ih ascending.2 later
      omega

theorem isWithin_iff {least : Nat} {ranges : List (Nat × Nat)}
    (ascending : isAscendingFrom least ranges = true) (c : Char) :
    isWithin ranges c = true ↔ ∃ range ∈ ranges, range.1 ≤ c.toNat ∧ c.toNat ≤ range.2 := by
  induction ranges generalizing least with
  | nil => simp [isWithin]
  | cons head rest ih =>
    simp only [isAscendingFrom, Bool.and_eq_true, decide_eq_true_eq] at ascending
    have later := ih ascending.2
    simp only [isWithin, Bool.and_eq_true, Bool.or_eq_true, decide_eq_true_eq, later,
      List.mem_cons, or_and_right, exists_or, exists_eq_left]
    constructor
    next =>
      rintro ⟨reached, within | ⟨range, present, inside⟩⟩
      next => exact .inl ⟨reached, within⟩
      next => exact .inr ⟨range, present, inside⟩
    next =>
      rintro (inside | ⟨range, present, inside⟩)
      next => exact ⟨inside.1, .inl inside.2⟩
      next =>
        have := le_first_of_isAscendingFrom ascending.2 present
        exact ⟨by omega, .inr ⟨range, present, inside⟩⟩

theorem inRanges_iff (codes : CodeRanges) (c : Char) :
    inRanges codes c = true ↔
      ∃ range ∈ codes.ranges, range.1 ≤ c.toNat ∧ c.toNat ≤ range.2 :=
  isWithin_iff codes.ascending c

end OrdersContract.Text
