import Mathlib.Algebra.Order.Field.Rat
import Mathlib.Algebra.Order.Ring.Int
import OrdersContract.Json.Value

set_option autoImplicit false

namespace OrdersContract.Number

theorem div_le_roundDiv (num den : Nat) : num / den ≤ roundDiv num den := by
  simp only [roundDiv]
  split <;> omega

namespace Double

def places : Nat := 1074

theorem one_eq : one = 2 ^ places := by
  decide +kernel

theorem one_pos : 0 < one := by
  rw [one_eq]
  exact Nat.two_pow_pos places

theorem nearest_one (m : Nat) :
    nearest m 1 = roundDiv m (2 ^ spacingExponent m) * 2 ^ spacingExponent m := by
  simp [nearest]

theorem nearest_of_dvd {m : Nat} (exact : 2 ^ spacingExponent m ∣ m) : nearest m 1 = m := by
  rw [nearest_one, roundDiv_of_dvd _ _ (Nat.two_pow_pos _) exact, Nat.div_mul_cancel exact]

theorem nearest_two_pow (k : Nat) : nearest (2 ^ k) 1 = 2 ^ k := by
  apply nearest_of_dvd
  rw [spacingExponent, Nat.log2_two_pow]
  exact Nat.pow_dvd_pow 2 (by simp only [precision]; omega)

theorem pow_le_nearest {k m : Nat} (large : 2 ^ k ≤ m) : 2 ^ k ≤ nearest m 1 := by
  have positive : m ≠ 0 := by
    have := Nat.two_pow_pos k
    omega
  have digits : k ≤ m.log2 := (Nat.le_log2 positive).mpr large
  by_cases short : m.log2 < precision
  next =>
    have unit : spacingExponent m = 0 := by
      simp only [spacingExponent]
      omega
    rw [nearest_of_dvd (by simp [unit])]
    exact large
  next =>
    have exponent : spacingExponent m + 52 = m.log2 := by
      simp only [spacingExponent, precision] at short ⊢
      omega
    have split : 2 ^ 52 * 2 ^ spacingExponent m = 2 ^ m.log2 := by
      rw [← Nat.pow_add, ← exponent, Nat.add_comm]
    have quotient : 2 ^ 52 ≤ m / 2 ^ spacingExponent m := by
      rw [Nat.le_div_iff_mul_le (Nat.two_pow_pos _), split]
      exact Nat.log2_self_le positive
    calc 2 ^ k ≤ 2 ^ m.log2 := Nat.pow_le_pow_right (by omega) digits
      _ = 2 ^ 52 * 2 ^ spacingExponent m := split.symm
      _ ≤ roundDiv m (2 ^ spacingExponent m) * 2 ^ spacingExponent m :=
        Nat.mul_le_mul_right _ (Nat.le_trans quotient (div_le_roundDiv ..))
      _ = nearest m 1 := (nearest_one m).symm

theorem nearest_mul_one {n : Nat} (small : n < 2 ^ precision) : nearest (n * one) 1 = n * one := by
  apply nearest_of_dvd
  by_cases zero : n = 0
  next => simp [zero]
  next =>
    have below : (n * one).log2 < precision + places := by
      rw [Nat.log2_lt (Nat.mul_ne_zero zero (Nat.ne_of_gt one_pos)), Nat.pow_add, ← one_eq]
      exact Nat.mul_lt_mul_of_pos_right small one_pos
    have fine : spacingExponent (n * one) ≤ places := by
      simp only [spacingExponent]
      omega
    have whole : 2 ^ spacingExponent (n * one) ∣ 2 ^ places := Nat.pow_dvd_pow 2 fine
    rw [← one_eq] at whole
    exact Nat.dvd_trans whole (Nat.dvd_mul_left one n)

theorem pow_precision_le_nearest {n : Nat} (large : 2 ^ precision ≤ n) :
    2 ^ precision * one ≤ nearest (n * one) 1 := by
  rw [one_eq, ← Nat.pow_add]
  apply pow_le_nearest
  rw [Nat.pow_add]
  exact Nat.mul_le_mul_right _ large

theorem units_ofNat {n : Nat} (small : n < 2 ^ precision) : (ofNat n).units = (n * one : Nat) := by
  change (nearest (n * one) 1 : Int) = _
  rw [nearest_mul_one small]

theorem units_zero : zero.units = (ofNat 0).units := by
  rw [units_ofNat (Nat.two_pow_pos _)]
  simp [zero, units]

theorem units_ofInt_of_nonneg {n : Int} (nonneg : 0 ≤ n) :
    (ofInt n).units = nearest (n.natAbs * one) 1 := by
  simp [ofInt, Int.not_lt.mpr nonneg, ofNat, units]

theorem units_ofInt_of_neg {n : Int} (negative : n < 0) :
    (ofInt n).units = -(nearest (n.natAbs * one) 1 : Int) := by
  simp [ofInt, negative, units]

theorem units_ofInt_of_small {n : Int} (small : n.natAbs < 2 ^ precision) :
    (ofInt n).units = n * one := by
  by_cases negative : n < 0
  next =>
    have magnitude : (n.natAbs : Int) = -n := Int.ofNat_natAbs_of_nonpos (Int.le_of_lt negative)
    rw [units_ofInt_of_neg negative, nearest_mul_one small, Nat.cast_mul, magnitude,
      Int.neg_mul, Int.neg_neg]
  next =>
    have nonneg : 0 ≤ n := Int.not_lt.mp negative
    rw [units_ofInt_of_nonneg nonneg, nearest_mul_one small, Nat.cast_mul,
      Int.natAbs_of_nonneg nonneg]

theorem units_ofInt_cases (n : Int) :
    (ofInt n).units = n * one ∨
      (2 ^ precision : Nat) ≤ n ∧ (2 ^ precision * one : Nat) ≤ (ofInt n).units ∨
      n ≤ -(2 ^ precision : Nat) ∧ (ofInt n).units ≤ -(2 ^ precision * one : Nat) := by
  by_cases small : n.natAbs < 2 ^ precision
  next => exact .inl (units_ofInt_of_small small)
  next =>
    have large := pow_precision_le_nearest (Nat.not_lt.mp small)
    by_cases negative : n < 0
    next =>
      rw [units_ofInt_of_neg negative]
      exact .inr (.inr ⟨by omega, by omega⟩)
    next =>
      rw [units_ofInt_of_nonneg (Int.not_lt.mp negative)]
      exact .inr (.inl ⟨by omega, by omega⟩)

theorem units_ofInt_le_iff (n : Int) {k : Nat} (small : k < 2 ^ precision) :
    (ofInt n).units ≤ k * one ↔ n ≤ k := by
  have below : k * one < 2 ^ precision * one := Nat.mul_lt_mul_of_pos_right small one_pos
  rcases units_ofInt_cases n with kept | ⟨large, beyond⟩ | ⟨large, beyond⟩
  · rw [kept]
    exact mul_le_mul_iff_of_pos_right (by exact_mod_cast one_pos)
  · constructor <;> intro <;> omega
  · constructor <;> intro <;> omega

theorem le_units_ofInt_iff (n : Int) {k : Nat} (small : k < 2 ^ precision) :
    k * one ≤ (ofInt n).units ↔ k ≤ n := by
  have below : k * one < 2 ^ precision * one := Nat.mul_lt_mul_of_pos_right small one_pos
  rcases units_ofInt_cases n with kept | ⟨large, beyond⟩ | ⟨large, beyond⟩
  · rw [kept]
    exact mul_le_mul_iff_of_pos_right (by exact_mod_cast one_pos)
  · constructor <;> intro <;> omega
  · constructor <;> intro <;> omega

def value (d : Double) : Rat := d.units / one

theorem one_cast_pos : (0 : Rat) < one := by
  exact_mod_cast one_pos

theorem value_le_iff (d : Double) (k : Nat) : d.value ≤ k ↔ d.units ≤ k * one := by
  rw [value, div_le_iff₀ one_cast_pos]
  exact_mod_cast Iff.rfl

theorem le_value_iff (d : Double) (k : Nat) : (k : Rat) ≤ d.value ↔ k * one ≤ d.units := by
  rw [value, le_div_iff₀ one_cast_pos]
  exact_mod_cast Iff.rfl

theorem magnitude_eq_natAbs (d : Double) : d.magnitude = d.units.natAbs := by
  by_cases negative : d.negative <;> simp [units, negative]

end Double

end OrdersContract.Number

namespace OrdersContract.Json.Numeric

open Number

/-- The number that was written, before anything is rounded. -/
def value : Numeric → Rat
  | integer n => n.val
  | double d => d.value

variable (n : Numeric) {k : Nat}

theorem toDouble_le_iff (small : k < 2 ^ Double.precision) :
    n.toDouble ≤ .ofNat k ↔ n.value ≤ k := by
  change n.toDouble.units ≤ (Double.ofNat k).units ↔ _
  rw [Double.units_ofNat small]
  cases n with
  | integer n =>
    simp only [toDouble, value, Nat.cast_mul, Double.units_ofInt_le_iff n.val small]
    exact_mod_cast Iff.rfl
  | double d => simp only [toDouble, value, Nat.cast_mul, Double.value_le_iff]

theorem le_toDouble_iff (small : k < 2 ^ Double.precision) :
    .ofNat k ≤ n.toDouble ↔ (k : Rat) ≤ n.value := by
  change (Double.ofNat k).units ≤ n.toDouble.units ↔ _
  rw [Double.units_ofNat small]
  cases n with
  | integer n =>
    simp only [toDouble, value, Nat.cast_mul, Double.le_units_ofInt_iff n.val small]
    exact_mod_cast Iff.rfl
  | double d => simp only [toDouble, value, Nat.cast_mul, Double.le_value_iff]

theorem toDouble_agrees_iff (small : k < 2 ^ Double.precision) :
    n.toDouble.agrees (.ofNat k) = true ↔ n.value = k := by
  rw [Double.agrees, beq_iff_eq, Int.le_antisymm_iff, le_antisymm_iff (a := n.value),
    ← n.toDouble_le_iff small, ← n.le_toDouble_iff small]
  exact Iff.rfl

theorem zero_lt_toDouble_iff : .zero < n.toDouble ↔ 0 < n.value := by
  change Double.zero.units < n.toDouble.units ↔ _
  have upTo : n.toDouble.units ≤ (Double.ofNat 0).units ↔ n.value ≤ (0 : Nat) :=
    n.toDouble_le_iff (Nat.two_pow_pos _)
  rw [Double.units_zero, ← not_le, upTo, Nat.cast_zero, not_le]

theorem zero_le_toDouble_iff : .zero ≤ n.toDouble ↔ 0 ≤ n.value := by
  change Double.zero.units ≤ n.toDouble.units ↔ _
  have upFrom : (Double.ofNat 0).units ≤ n.toDouble.units ↔ ((0 : Nat) : Rat) ≤ n.value :=
    n.le_toDouble_iff (Nat.two_pow_pos _)
  rw [Double.units_zero, upFrom, Nat.cast_zero]

end OrdersContract.Json.Numeric
