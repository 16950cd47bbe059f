import OrdersContract.Proofs.RoundingOrder

set_option autoImplicit false

namespace OrdersContract.Number.Double

theorem nearest_close (m : Nat) :
    2 ^ precision * nearest m 1 ≤ 2 ^ precision * m + m ∧
      2 ^ precision * m ≤ 2 ^ precision * nearest m 1 + m := by
  by_cases wide : 0 < spacingExponent m
  next =>
    -- Half the spacing is that part of the least magnitude with this spacing.
    have least := pow_le_of_spacingExponent_pos wide
    have near := roundDiv_near m (2 ^ spacingExponent m) (Nat.two_pow_pos _)
    rw [← nearest_one] at near
    rw [Nat.pow_add] at least
    simp only [precision] at least ⊢
    generalize 2 ^ spacingExponent m = spacing at least near
    omega
  next =>
    have unit : spacingExponent m = 0 := Nat.eq_zero_of_not_pos wide
    rw [nearest_of_dvd (by simp [unit])]
    omega

theorem roundedUnits_close (u : Int) :
    2 ^ precision * (roundedUnits u - u).natAbs ≤ u.natAbs := by
  have close := nearest_close u.natAbs
  simp only [precision] at close ⊢
  simp only [roundedUnits]
  split <;> omega

def Merges (a b : Int) : Prop := (ofInt a).units = (ofInt b).units

instance (a b : Int) : Decidable (Merges a b) := inferInstanceAs (Decidable (_ = _))

theorem Merges.symm {a b : Int} (merged : Merges a b) : Merges b a := Eq.symm merged

theorem units_ofInt_mono {a b : Int} (le : a ≤ b) : (ofInt a).units ≤ (ofInt b).units := by
  have positive : (0 : Int) ≤ one := Int.natCast_nonneg one
  rw [units_ofInt, units_ofInt]
  exact roundedUnits_mono (Int.mul_le_mul_of_nonneg_right le positive)

theorem ofInt_le_ofInt_iff {a b : Int} : ofInt a ≤ ofInt b ↔ a ≤ b ∨ Merges a b := by
  change (ofInt a).units ≤ (ofInt b).units ↔ a ≤ b ∨ (ofInt a).units = (ofInt b).units
  constructor
  · intro rounded
    by_cases le : a ≤ b
    next => exact .inl le
    next =>
      have back : (ofInt b).units ≤ (ofInt a).units := units_ofInt_mono (by omega)
      exact .inr (Int.le_antisymm rounded back)
  · rintro (le | same)
    · exact units_ofInt_mono le
    · exact Int.le_of_eq same

theorem Merges.eq_of_small {a b : Int} (merged : Merges a b) (small : a.natAbs < 2 ^ precision) :
    a = b := by
  have positive : (0 : Int) < one := by exact_mod_cast one_pos
  have kept := units_ofInt_of_small small
  have inside : (a * one).natAbs < 2 ^ precision * one := by
    rw [Int.natAbs_mul, Int.natAbs_natCast]
    exact Nat.mul_lt_mul_of_pos_right small one_pos
  rw [Merges, kept] at merged
  rcases units_ofInt_cases b with alsoKept | ⟨_, beyond⟩ | ⟨_, beyond⟩
  · rw [alsoKept] at merged
    exact Int.eq_of_mul_eq_mul_right (by omega) merged
  · omega
  · omega

theorem Merges.close {a b : Int} (merged : Merges a b) :
    2 ^ precision * (a - b).natAbs ≤ a.natAbs + b.natAbs := by
  have closeA := roundedUnits_close (a * one)
  have closeB := roundedUnits_close (b * one)
  rw [Merges, units_ofInt, units_ofInt] at merged
  rw [merged] at closeA
  have apart : (a * one - b * one).natAbs = (a - b).natAbs * one := by
    rw [← Int.sub_mul, Int.natAbs_mul, Int.natAbs_natCast]
  have scaled : 2 ^ precision * (a * one - b * one).natAbs ≤
      (a * one).natAbs + (b * one).natAbs := by
    simp only [precision] at closeA closeB ⊢
    omega
  rw [apart, Int.natAbs_mul, Int.natAbs_mul, Int.natAbs_natCast, ← Nat.add_mul,
    ← Nat.mul_assoc] at scaled
  exact Nat.le_of_mul_le_mul_right scaled one_pos

theorem Merges.eq_or_large {a b : Int} (merged : Merges a b) :
    a = b ∨ 2 ^ precision ≤ a.natAbs ∧ 2 ^ precision ≤ b.natAbs ∧
      2 ^ precision * (a - b).natAbs ≤ a.natAbs + b.natAbs := by
  by_cases smallA : a.natAbs < 2 ^ precision
  next => exact .inl (merged.eq_of_small smallA)
  next =>
    by_cases smallB : b.natAbs < 2 ^ precision
    next => exact .inl (merged.symm.eq_of_small smallB).symm
    next => exact .inr ⟨Nat.not_lt.mp smallA, Nat.not_lt.mp smallB, merged.close⟩

theorem ofInt_natCast (n : Nat) : ofInt n = ofNat n := by
  simp [ofInt]

theorem ofInt_agrees_ofNat (m : Int) (n : Nat) :
    (ofInt m).agrees (ofNat n) = decide (Merges m n) := by
  rw [Bool.eq_iff_iff, agrees, beq_iff_eq, decide_eq_true_iff, Merges, ofInt_natCast]

-- An integer and its negative are too far apart to be merged.
theorem Merges.eq_or_large_natCast {m : Int} {n : Nat} (merged : Merges m n) :
    m = n ∨ 2 ^ precision ≤ n ∧ 2 ^ precision ≤ m ∧
      2 ^ precision * (m - n).natAbs ≤ m + n := by
  rcases merged.eq_or_large with same | ⟨large, alsoLarge, close⟩
  · exact .inl same
  · simp only [precision] at large alsoLarge close ⊢
    exact .inr ⟨by omega, by omega, by omega⟩

end OrdersContract.Number.Double
